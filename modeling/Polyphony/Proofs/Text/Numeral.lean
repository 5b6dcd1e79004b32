import Mathlib.Data.List.Induction
import Polyphony.Text.Blank
import Polyphony.Text.Digit

/-!
# Numerals

What digits and a sign in front of them spell, one digit at a time. A run of digits spells a natural
number exactly when it is not empty, and then the number that its digits are read as. Every integer
as it is written is a numeral for it.
-/

namespace Polyphony.Text

/-- A run of digits spells a number, its last digit counting once and what stands before it ten
times. -/
inductive Natural : List Char → Nat → Prop where
  /-- One digit. -/
  | digit {c : Char} {v : Nat} (hdigit : digitValue? c = some v) : Natural [c] v
  /-- One more digit. -/
  | append_digit {cs : List Char} {c : Char} {n v : Nat} (hfirst : Natural cs n)
      (hdigit : digitValue? c = some v) : Natural (cs ++ [c]) (10 * n + v)

/-- A run of digits spells an integer, with a minus sign right before it for its negative. -/
inductive Numeral : List Char → Int → Prop where
  /-- Digits alone. -/
  | plain {cs : List Char} {n : Nat} (hdigits : Natural cs n) : Numeral cs n
  /-- Digits after a minus sign. -/
  | minus {cs : List Char} {n : Nat} (hdigits : Natural cs n) : Numeral ('-' :: cs) (-n)

theorem isDigit_iff {c : Char} : isDigit c ↔ ∃ v, digitValue? c = some v := Option.isSome_iff_exists

/-- The code point of a digit is in the decade of a zero. -/
theorem exists_decade_of_isDigit {c : Char} (hdigit : isDigit c) :
    ∃ base ∈ digitZeros, base ≤ c.toNat ∧ c.toNat < base + 10 := by
  obtain ⟨v, hv⟩ := isDigit_iff.mp hdigit
  obtain ⟨base, hfound, _⟩ := Option.map_eq_some_iff.mp hv
  exact ⟨base, List.mem_of_find?_eq_some hfound, by simpa using List.find?_some hfound⟩

/-- No run of blanks meets the decade of a zero. -/
theorem blankRuns_apart :
    ∀ run ∈ blankRuns, ∀ base ∈ digitZeros, run.2 < base ∨ base + 10 ≤ run.1 := by
  decide +kernel

/-- Blanks are no digits. -/
theorem isDigit_of_isBlank {c : Char} (hblank : isBlank c) : isDigit c = false := by
  rw [Bool.eq_false_iff]
  intro hdigit
  obtain ⟨base, hbase, hlow, hhigh⟩ := exists_decade_of_isDigit hdigit
  obtain ⟨run, hrun, hin⟩ := List.any_eq_true.mp hblank
  have hapart := blankRuns_apart run hrun base hbase
  simp only [Bool.and_eq_true, decide_eq_true_eq] at hin
  omega

/-- One more digit makes a number ten times as large, and adds itself. -/
theorem digitsValue_append_digit {cs : List Char} {c : Char} {v : Nat}
    (hdigit : digitValue? c = some v) : digitsValue (cs ++ [c]) = 10 * digitsValue cs + v := by
  simp [digitsValue, List.filterMap_append, hdigit]

/-- A run of digits is not empty, and spells the number that its digits are read as. -/
theorem natural_iff {cs : List Char} {n : Nat} :
    Natural cs n ↔ cs ≠ [] ∧ (∀ c ∈ cs, isDigit c) ∧ n = digitsValue cs := by
  constructor
  · intro hnatural
    induction hnatural with
    | @digit c v hdigit =>
      refine ⟨by simp, List.forall_mem_singleton.mpr (isDigit_iff.mpr ⟨v, hdigit⟩), ?_⟩
      simp [digitsValue, hdigit]
    | @append_digit cs c n v _ hdigit ih =>
      obtain ⟨_, hdigits, rfl⟩ := ih
      refine ⟨by simp, ?_, (digitsValue_append_digit hdigit).symm⟩
      have hlast : ∀ d ∈ [c], isDigit d :=
        List.forall_mem_singleton.mpr (isDigit_iff.mpr ⟨v, hdigit⟩)
      exact List.forall_mem_append.mpr ⟨hdigits, hlast⟩
  · rintro ⟨hsome, hdigits, rfl⟩
    induction cs using List.reverseRecOn with
    | nil => exact absurd rfl hsome
    | append_singleton cs c ih =>
      obtain ⟨hfirst, hlast⟩ := List.forall_mem_append.mp hdigits
      obtain ⟨v, hv⟩ := isDigit_iff.mp (hlast c List.mem_cons_self)
      rw [digitsValue_append_digit hv]
      by_cases hempty : cs = []
      · rw [hempty]
        simpa [digitsValue] using Natural.digit hv
      · exact .append_digit (ih hempty hfirst) hv

/-- The digits that numbers are written with have their own values. -/
theorem digitValue?_digitChar {v : Nat} (hv : v < 10) : digitValue? v.digitChar = some v := by
  revert v
  decide +kernel

/-- The decimal digits of a number spell it. -/
theorem natural_toDigits (n : Nat) : Natural (Nat.toDigits 10 n) n := by
  induction n using Nat.strongRecOn with
  | ind n ih =>
    by_cases hsmall : n < 10
    · rw [Nat.toDigits_of_lt_base hsmall]
      exact .digit (digitValue?_digitChar hsmall)
    · rw [Nat.toDigits_of_base_le (by omega) (by omega)]
      have hrest := Natural.append_digit (ih (n / 10) (by omega))
        (digitValue?_digitChar (Nat.mod_lt n (by omega)))
      rwa [Nat.div_add_mod] at hrest

/-- An integer as it is written is a numeral for it. -/
theorem numeral_toString (k : Int) : Numeral (toString k).toList k := by
  rw [Int.toString_eq_repr, Int.repr_eq_if]
  split
  case isTrue hnonneg =>
    have hplain := Numeral.plain (natural_toDigits k.toNat)
    rw [Int.toNat_of_nonneg hnonneg] at hplain
    rwa [Nat.repr_eq_ofList_toDigits, String.toList_ofList]
  case isFalse hneg =>
    have hminus := Numeral.minus (natural_toDigits (-k).toNat)
    rw [Int.toNat_of_nonneg (by omega), Int.neg_neg] at hminus
    rwa [Nat.repr_eq_ofList_toDigits, String.toList_append, String.toList_ofList,
      String.toList_ofList]

/-- A text does not go on with a character of a kind. -/
def Stops (kind : Char → Bool) (cs : List Char) : Prop := ∀ c ∈ cs.head?, kind c = false

/-- Characters of a kind are taken up to where they stop. -/
theorem span_append {kind : Char → Bool} {front rest : List Char} (hfront : ∀ c ∈ front, kind c)
    (hrest : Stops kind rest) :
    (front ++ rest).takeWhile kind = front ∧ (front ++ rest).dropWhile kind = rest := by
  rw [List.takeWhile_append_of_pos hfront, List.dropWhile_append_of_pos hfront]
  cases rest with
  | nil => simp
  | cons c rest =>
    have hother : ¬ kind c := Bool.eq_false_iff.mp (hrest c rfl)
    rw [List.takeWhile_cons_of_neg hother, List.dropWhile_cons_of_neg hother, List.append_nil]
    exact ⟨rfl, rfl⟩

/-- What is left after dropping characters of a kind does not go on with one. -/
theorem stops_dropWhile (kind : Char → Bool) (cs : List Char) :
    Stops kind (cs.dropWhile kind) := by
  intro c hc
  have hhead := List.head?_dropWhile_not kind cs
  rwa [hc] at hhead

/-- Blanks stop where a numeral begins: it starts with a minus sign or a digit. -/
theorem Numeral.stops {cs : List Char} {k : Int} (hnumeral : Numeral cs k) (rest : List Char) :
    Stops isBlank (cs ++ rest) := by
  cases hnumeral with
  | plain hdigits =>
    obtain ⟨hsome, hall, _⟩ := natural_iff.mp hdigits
    obtain ⟨first, ds, rfl⟩ := List.exists_cons_of_ne_nil hsome
    rintro _ ⟨⟩
    refine Bool.eq_false_iff.mpr fun hblank => ?_
    exact absurd (hall first List.mem_cons_self) (by simp [isDigit_of_isBlank hblank])
  | minus hdigits =>
    rintro _ ⟨⟩
    decide

end Polyphony.Text
