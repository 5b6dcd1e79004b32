import Mathlib.Data.List.TakeWhile
import Polyphony.Proofs.Ratio.Faults
import Polyphony.Proofs.Text.Numeral
import Polyphony.Ratio.Reader

/-!
# Texts of ratios

Which texts spell a ratio, and what is read from them. The reader goes through a text once, from
left to right; it finds the two integers exactly where the grammar of the texts has them, because
blanks, bars and the characters of numerals are different characters. A ratio as it is written is
one of these texts, so that reading undoes writing.
-/

namespace Polyphony.Ratio

open Text

/-- A text of blanks, or of nothing. -/
def Blanks (cs : List Char) : Prop := ∀ c ∈ cs, isBlank c

/-- What follows the integer above the line: nothing, which counts as one, or a bar and the integer
below the line. Blanks may stand around both. -/
inductive SpellsBelow : List Char → Int → Prop where
  /-- Nothing. -/
  | nothing {blanks : List Char} (hblanks : Blanks blanks) : SpellsBelow blanks 1
  /-- A bar and an integer. -/
  | below {before between numeral after : List Char} {bar : Char} {denom : Int}
      (hbefore : Blanks before) (hbar : bar = '/' ∨ bar = '|') (hbetween : Blanks between)
      (hnumeral : Numeral numeral denom) (hafter : Blanks after) :
      SpellsBelow (before ++ bar :: (between ++ (numeral ++ after))) denom

/-- A text spells the integers above and below the line of a ratio. -/
inductive Spells : List Char → Int → Int → Prop where
  /-- Blanks, the integer above the line, and what follows it. -/
  | mk {before numeral rest : List Char} {numer denom : Int} (hbefore : Blanks before)
      (hnumeral : Numeral numeral numer) (hbelow : SpellsBelow rest denom) :
      Spells (before ++ (numeral ++ rest)) numer denom

section Reader

variable {cs rest : List Char}

theorem readDigits?_eq_some_iff {n : Nat} :
    readDigits? cs = some (n, rest) ↔
      ∃ ds, cs = ds ++ rest ∧ Natural ds n ∧ Stops isDigit rest := by
  unfold readDigits?
  constructor
  · intro hread
    split at hread
    case h_1 => exact absurd hread (by simp)
    case h_2 hsome =>
      simp only [Option.some.injEq, Prod.mk.injEq] at hread
      obtain ⟨rfl, rfl⟩ := hread
      refine ⟨cs.takeWhile isDigit, List.takeWhile_append_dropWhile.symm, ?_, stops_dropWhile _ _⟩
      exact natural_iff.mpr ⟨hsome, fun _ => List.mem_takeWhile_imp, rfl⟩
  · rintro ⟨ds, rfl, hnatural, hstops⟩
    obtain ⟨hsome, hall, rfl⟩ := natural_iff.mp hnatural
    obtain ⟨htake, hdrop⟩ := span_append hall hstops
    rw [htake, hdrop]
    cases ds with
    | nil => exact absurd rfl hsome
    | cons d ds => rfl

theorem readInteger?_eq_some_iff {k : Int} :
    readInteger? cs = some (k, rest) ↔
      ∃ numeral, cs = numeral ++ rest ∧ Numeral numeral k ∧ Stops isDigit rest := by
  constructor
  · intro hread
    unfold readInteger? at hread
    split at hread
    case h_1 cs =>
      obtain ⟨⟨n, left⟩, hdigits, hsame⟩ := Option.map_eq_some_iff.mp hread
      obtain ⟨rfl, rfl⟩ := Prod.mk.inj hsame
      obtain ⟨ds, rfl, hnatural, hstops⟩ := readDigits?_eq_some_iff.mp hdigits
      exact ⟨'-' :: ds, rfl, .minus hnatural, hstops⟩
    case h_2 =>
      obtain ⟨⟨n, left⟩, hdigits, hsame⟩ := Option.map_eq_some_iff.mp hread
      obtain ⟨rfl, rfl⟩ := Prod.mk.inj hsame
      obtain ⟨ds, rfl, hnatural, hstops⟩ := readDigits?_eq_some_iff.mp hdigits
      exact ⟨ds, rfl, .plain hnatural, hstops⟩
  · rintro ⟨numeral, rfl, hnumeral, hstops⟩
    cases hnumeral with
    | @minus ds n hnatural =>
      have hdigits : readDigits? (ds ++ rest) = some (n, rest) :=
        readDigits?_eq_some_iff.mpr ⟨ds, rfl, hnatural, hstops⟩
      rw [List.cons_append, readInteger?, hdigits]
      rfl
    | @plain _ n hnatural =>
      have hdigits : readDigits? (numeral ++ rest) = some (n, rest) :=
        readDigits?_eq_some_iff.mpr ⟨numeral, rfl, hnatural, hstops⟩
      unfold readInteger?
      split
      case h_1 cs hsign =>
        -- A minus sign is no digit, so that the digits of a numeral cannot start with one.
        rw [hsign] at hdigits
        simp [readDigits?, show isDigit '-' = false by decide +kernel] at hdigits
      case h_2 => rw [hdigits]; rfl

theorem isDigit_bar {bar : Char} (hbar : bar = '/' ∨ bar = '|') : isDigit bar = false := by
  rcases hbar with rfl | rfl <;> decide +kernel

theorem isBlank_bar {bar : Char} (hbar : bar = '/' ∨ bar = '|') : isBlank bar = false := by
  rcases hbar with rfl | rfl <;> decide

theorem isBar_iff {c : Char} : isBar c ↔ c = '/' ∨ c = '|' := by
  simp [isBar]

/-- Digits stop where blanks begin. -/
theorem stops_of_blanks {blanks : List Char} (hblanks : Blanks blanks)
    (hrest : Stops isDigit rest) : Stops isDigit (blanks ++ rest) := by
  cases blanks with
  | nil => exact hrest
  | cons c blanks =>
    rintro _ ⟨⟩
    exact isDigit_of_isBlank (hblanks c List.mem_cons_self)

/-- Digits stop where the integer above the line ends. -/
theorem SpellsBelow.stops {denom : Int} (hbelow : SpellsBelow cs denom) : Stops isDigit cs := by
  cases hbelow with
  | nothing hblanks =>
    rw [← List.append_nil cs]
    exact stops_of_blanks hblanks (by simp [Stops])
  | below hbefore hbar hbetween hnumeral hafter =>
    refine stops_of_blanks hbefore ?_
    rintro _ ⟨⟩
    exact isDigit_bar hbar

/-- A text begins with blanks, which are dropped. -/
theorem exists_blanks (cs : List Char) :
    ∃ blanks, Blanks blanks ∧ cs = blanks ++ cs.dropWhile isBlank :=
  ⟨cs.takeWhile isBlank, fun _ => List.mem_takeWhile_imp,
    List.takeWhile_append_dropWhile.symm⟩

theorem readDenominator?_eq_some_iff {denom : Int} :
    readDenominator? cs = some denom ↔ SpellsBelow cs denom := by
  constructor
  · intro hread
    unfold readDenominator? at hread
    split at hread
    case h_1 hnone =>
      obtain rfl := Option.some.inj hread
      exact .nothing (List.dropWhile_eq_nil_iff.mp hnone)
    case h_2 bar rest hrest =>
      obtain ⟨before, hbefore, hcs⟩ := exists_blanks cs
      obtain ⟨between, hbetween, hbar'⟩ := exists_blanks rest
      split at hread
      case isFalse => exact absurd hread (by simp)
      case isTrue hbar =>
        split at hread
        case h_2 => exact absurd hread (by simp)
        case h_1 k left hinteger =>
          obtain ⟨numeral, hnumeral, hspells, _⟩ := readInteger?_eq_some_iff.mp hinteger
          split at hread
          case isFalse => exact absurd hread (by simp)
          case isTrue hafter =>
            obtain rfl := Option.some.inj hread
            rw [hcs, hrest, hbar', hnumeral]
            exact .below hbefore (isBar_iff.mp hbar) hbetween hspells (List.all_eq_true.mp hafter)
  · intro hbelow
    unfold readDenominator?
    cases hbelow with
    | nothing hblanks => rw [List.dropWhile_eq_nil_iff.mpr hblanks]
    | @below before between numeral after bar _ hbefore hbar hbetween hnumeral hafter =>
      have hstops : Stops isBlank (bar :: (between ++ (numeral ++ after))) := by
        rintro _ ⟨⟩
        exact isBlank_bar hbar
      have hdigits : Stops isDigit after := by
        rw [← List.append_nil after]
        exact stops_of_blanks hafter (by simp [Stops])
      have hinteger : readInteger? (numeral ++ after) = some (denom, after) :=
        readInteger?_eq_some_iff.mpr ⟨numeral, rfl, hnumeral, hdigits⟩
      rw [(span_append hbefore hstops).2]
      dsimp only
      rw [if_pos (isBar_iff.mpr hbar), (span_append hbetween (hnumeral.stops after)).2,
        hinteger]
      exact if_pos (List.all_eq_true.mpr hafter)

/-- The reader finds two integers exactly where a text spells them. -/
theorem readPair?_eq_some_iff {numer denom : Int} :
    readPair? cs = some (numer, denom) ↔ Spells cs numer denom := by
  constructor
  · intro hread
    simp only [readPair?, Option.bind_eq_bind, Option.bind_eq_some_iff, Option.pure_def,
      Option.some.injEq, Prod.mk.injEq, Prod.exists] at hread
    obtain ⟨_, rest, hinteger, _, hbelow, rfl, rfl⟩ := hread
    obtain ⟨before, hbefore, hcs⟩ := exists_blanks cs
    obtain ⟨numeral, hnumeral, hspells, _⟩ := readInteger?_eq_some_iff.mp hinteger
    rw [hcs, hnumeral]
    exact .mk hbefore hspells (readDenominator?_eq_some_iff.mp hbelow)
  · intro hspells
    obtain @⟨before, numeral, rest, _, _, hbefore, hnumeral, hbelow⟩ := hspells
    have hinteger : readInteger? (numeral ++ rest) = some (numer, rest) :=
      readInteger?_eq_some_iff.mpr ⟨numeral, rfl, hnumeral, hbelow.stops⟩
    rw [readPair?, (span_append hbefore (hnumeral.stops rest)).2, hinteger]
    simp [readDenominator?_eq_some_iff.mpr hbelow]

end Reader

section Texts

variable {s : String} {numer denom : Int}

/-- What a text spells is brought to lowest terms. -/
theorem ofText_of_spells (hspells : Spells s.toList numer denom) :
    ofText s = reduced numer denom := by
  rw [ofText, readPair?_eq_some_iff.mpr hspells]

/-- A text that spells nothing is refused. -/
theorem ofText_of_not_spells (hnone : ¬ ∃ numer denom, Spells s.toList numer denom) :
    ofText s = .error (.unreadableRatio (.text s)) := by
  unfold ofText
  split
  case h_1 numer denom hread =>
    exact absurd ⟨numer, denom, readPair?_eq_some_iff.mp hread⟩ hnone
  case h_2 => rfl

/-- What is read is in lowest terms. -/
theorem lowestTerms_of_ofText {r : Ratio} (hread : ofText s = .ok r) : r.LowestTerms := by
  unfold ofText at hread
  split at hread
  case h_1 =>
    obtain ⟨_, rfl⟩ := reduced_eq_ok_iff.mp hread
    exact ofValue_lowestTerms _
  case h_2 => exact absurd hread (by simp)

/-- A ratio as it is written spells its two integers. -/
theorem spells_text (r : Ratio) : Spells r.text.toList r.numer r.denom := by
  have hnone : Blanks [] := List.forall_mem_nil _
  have hbelow := SpellsBelow.below hnone (.inl rfl) hnone (numeral_toString r.denom) hnone
  have hspells := Spells.mk hnone (numeral_toString r.numer) hbelow
  rw [List.append_nil] at hspells
  rw [text, String.toList_append, String.toList_append, List.append_assoc]
  exact hspells

/-- Reading what was written gives the ratio in lowest terms. -/
theorem ofText_text {r : Ratio} (hdefined : r.Defined) : ofText r.text = .ok (ofValue r.value) := by
  rw [ofText_of_spells (spells_text r), reduced_eq hdefined, value]

end Texts

/-- Reading accepts exactly the texts that spell a ratio, and undoes writing. A text that spells two
integers, the lower one of which counts as one where it is absent, is read as their quotient in
lowest terms; where the lower one is zero, reading divides by zero. Every other text is refused for
its value. What is written of a ratio with a value is read as the ratio in lowest terms, and so as
the ratio itself where it is in lowest terms, as everything that was read is. -/
theorem ofText_reads_spellings (s : String) (r : Ratio) :
    (∀ numer denom, Spells s.toList numer denom →
      (denom ≠ 0 → ∃ q, ofText s = .ok q ∧ q.LowestTerms ∧ q.value = numer / denom) ∧
      (denom = 0 → DividesByZero (ofText s))) ∧
    ((¬ ∃ numer denom, Spells s.toList numer denom) →
      ∃ fault, ofText s = .error fault ∧ fault.kind = .value) ∧
    (r.Defined → ∃ q, ofText r.text = .ok q ∧ q.LowestTerms ∧ q.value = r.value ∧
      (r.LowestTerms → q = r)) ∧
    (ofText s = .ok r → ofText r.text = .ok r) := by
  refine ⟨fun numer denom hspells => ⟨fun hdenom => ?_, fun hzero => ?_⟩, fun hnone => ?_,
    fun hdefined => ?_, fun hread => ?_⟩
  · refine ⟨ofValue (numer / denom), ?_, ofValue_lowestTerms _, value_ofValue _⟩
    rw [ofText_of_spells hspells, reduced_eq hdenom]
  · rw [ofText_of_spells hspells, hzero]
    exact ⟨.zeroBelow numer, if_pos rfl, rfl⟩
  · exact ⟨_, ofText_of_not_spells hnone, rfl⟩
  · exact ⟨_, ofText_text hdefined, ofValue_lowestTerms _, value_ofValue _,
      fun hlowest => hlowest.eq_ofValue.symm⟩
  · have hlowest := lowestTerms_of_ofText hread
    rw [ofText_text hlowest.defined, ← hlowest.eq_ofValue]

/-- Six over minus eight, with a bar, uneven blanks and an Arabic eight. -/
def unevenText : String := " 6 |\t-\u0668\n"

/-- The uneven text is read as minus three quarters, and two over minus eight as minus one quarter
once it is written. A zero below the line is divided by, and a minus sign apart from its digits
spells nothing. -/
theorem unevenText_read :
    (Spells unevenText.toList 6 (-8) ∧ ofText unevenText = .ok ⟨-3, 4⟩ ∧
      ofText (text ⟨-3, 4⟩) = .ok ⟨-3, 4⟩) ∧
    ((⟨2, -8⟩ : Ratio).Defined ∧ ofText (text ⟨2, -8⟩) = .ok ⟨-1, 4⟩) ∧
    (Spells "1/0".toList 1 0 ∧ DividesByZero (ofText "1/0")) ∧
    (¬ ∃ numer denom, Spells "- 3".toList numer denom) ∧
      ∃ fault, ofText "- 3" = .error fault ∧ fault.kind = .value := by
  have huneven : Spells unevenText.toList 6 (-8) := readPair?_eq_some_iff.mp (by decide +kernel)
  have hzero : Spells "1/0".toList 1 0 := readPair?_eq_some_iff.mp (by decide +kernel)
  have hapart : ¬ ∃ numer denom, Spells "- 3".toList numer denom := by
    rintro ⟨numer, denom, hspells⟩
    have hnone : readPair? "- 3".toList = none := by decide +kernel
    exact absurd (hnone.symm.trans (readPair?_eq_some_iff.mpr hspells)) (by simp)
  have hdefined : (⟨2, -8⟩ : Ratio).Defined := by decide
  have hfirst := ofText_reads_spellings unevenText ⟨-3, 4⟩
  obtain ⟨q, hread, hlowest, hvalue⟩ := (hfirst.1 6 (-8) huneven).1 (by decide)
  obtain rfl : q = ⟨-3, 4⟩ := by
    refine hlowest.eq_of_value ⟨by decide, by decide⟩ (hvalue.trans ?_)
    norm_num [value]
  obtain ⟨q, hagain, hlowest, hvalue, _⟩ := (ofText_reads_spellings "1/0" ⟨2, -8⟩).2.2.1 hdefined
  obtain rfl : q = ⟨-1, 4⟩ := by
    refine hlowest.eq_of_value ⟨by decide, by decide⟩ (hvalue.trans ?_)
    norm_num [value]
  exact ⟨⟨huneven, hread, hfirst.2.2.2 hread⟩, ⟨hdefined, hagain⟩,
    ⟨hzero, ((ofText_reads_spellings "1/0" ⟨2, -8⟩).1 1 0 hzero).2 rfl⟩, hapart,
    (ofText_reads_spellings "- 3" ⟨2, -8⟩).2.1 hapart⟩

end Polyphony.Ratio
