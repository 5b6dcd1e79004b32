import Mathlib.Data.List.Forall2
import Polyphony.Event
import Polyphony.Proofs.Music.Fold
import Polyphony.Proofs.Player.Note
import Polyphony.Proofs.Ratio.Spelling

/-!
# Spellings of a piece

Pieces that compare as equal have one shape, and differ only in the spelling of their ratios and in
what payloads may differ in. Which payloads may stand for each other is left open: equal ones, ones
that compare as equal, or any whose notes sound the same.
-/

namespace Polyphony

/-- The attributes are of one kind, and their amounts of one value. -/
inductive PhraseAttribute.Same : PhraseAttribute → PhraseAttribute → Prop where
  /-- Two accents. -/
  | accent {x y : Ratio} (hamount : x.Same y) : Same (.accent x) (.accent y)
  /-- Two crescendos. -/
  | crescendo {x y : Ratio} (hamount : x.Same y) : Same (.crescendo x) (.crescendo y)
  /-- Two diminuendos. -/
  | diminuendo {x y : Ratio} (hamount : x.Same y) : Same (.diminuendo x) (.diminuendo y)
  /-- Two staccatos. -/
  | staccato {x y : Ratio} (hamount : x.Same y) : Same (.staccato x) (.staccato y)
  /-- Two legatos. -/
  | legato {x y : Ratio} (hamount : x.Same y) : Same (.legato x) (.legato y)

/-- The controls are of one kind, and their ratios of one value. -/
inductive Control.Same : Control → Control → Prop where
  /-- Two tempos. -/
  | tempo {x y : Ratio} (hratio : x.Same y) : Same (.tempo x) (.tempo y)
  /-- Two phrases. -/
  | phrase {xs ys : List PhraseAttribute} (hattributes : List.Forall₂ PhraseAttribute.Same xs ys) :
      Same (.phrase xs) (.phrase ys)
  /-- Two controls without ratios. -/
  | plain {control : Control} (htempo : ∀ ratio, control ≠ .tempo ratio)
      (hphrase : ∀ attributes, control ≠ .phrase attributes) : Same control control

/-- The pieces have one shape, lengths and controls of one value, and payloads that may stand for
each other. -/
inductive Music.Same {α : Type} (stands : α → α → Prop) : Music α → Music α → Prop where
  /-- Two notes. -/
  | note {x y : Ratio} {p q : α} (hlength : x.Same y) (hpayload : stands p q) :
      Same stands (.prim (.note x p)) (.prim (.note y q))
  /-- Two rests. -/
  | rest {x y : Ratio} (hlength : x.Same y) : Same stands (.prim (.rest x)) (.prim (.rest y))
  /-- Two lines. -/
  | seq {a a' b b' : Music α} (hleft : Same stands a a') (hright : Same stands b b') :
      Same stands (.seq a b) (.seq a' b')
  /-- Two pairs of pieces together. -/
  | par {a a' b b' : Music α} (hleft : Same stands a a') (hright : Same stands b b') :
      Same stands (.par a b) (.par a' b')
  /-- Two pieces under controls. -/
  | modify {control control' : Control} {a a' : Music α} (hcontrol : control.Same control')
      (hbody : Same stands a a') : Same stands (.modify control a) (.modify control' a')
  /-- Two numbers in the place of pieces. -/
  | stray (number : Int) : Same stands (.stray number) (.stray number)

/-- A comparison that goes on where a first one holds holds when both do. -/
theorem both_eq_ok_true_iff {x y : Except Fault Bool} :
    (x >>= fun same => if same then y else pure false) = .ok true ↔
      x = .ok true ∧ y = .ok true := by
  simp only [bind_eq_ok_iff]
  constructor
  · rintro ⟨same, hx, hy⟩
    cases same with
    | false => simp at hy
    | true => exact ⟨hx, hy⟩
  · rintro ⟨hx, hy⟩
    exact ⟨true, hx, hy⟩

namespace PhraseAttribute

theorem eq_iff_same {a b : PhraseAttribute} : a.eq b = .ok true ↔ a.Same b := by
  constructor
  · intro heq
    cases a <;> cases b <;>
      simp only [eq, pure_eq_ok_iff, Bool.false_eq_true, Ratio.eq_iff_same] at heq
    · exact .accent heq
    · exact .crescendo heq
    · exact .diminuendo heq
    · exact .staccato heq
    · exact .legato heq
  · rintro (h | h | h | h | h) <;> exact Ratio.eq_iff_same.mpr h

theorem eqAll_iff_same {as bs : List PhraseAttribute} :
    eqAll as bs = .ok true ↔ List.Forall₂ Same as bs := by
  induction as generalizing bs with
  | nil => cases bs <;> simp [eqAll]
  | cons a as ih =>
    cases bs with
    | nil => simp [eqAll]
    | cons b bs => rw [eqAll, both_eq_ok_true_iff, eq_iff_same, ih, List.forall₂_cons]

end PhraseAttribute

theorem Control.eq_iff_same {a b : Control} : a.eq b = .ok true ↔ a.Same b := by
  constructor
  · fun_cases Control.eq a b with
    | case1 x y => exact fun heq => .tempo (Ratio.eq_iff_same.mp heq)
    | case2 as bs => exact fun heq => .phrase (PhraseAttribute.eqAll_iff_same.mp heq)
    | case3 a b htempo hphrase =>
      intro heq
      obtain rfl : a = b := by simpa using heq
      exact .plain (fun ratio ha => htempo ratio ratio ha ha)
        (fun attributes ha => hphrase attributes attributes ha ha)
  · rintro (hratio | hattributes | ⟨htempo, hphrase⟩)
    · exact Ratio.eq_iff_same.mpr hratio
    · exact PhraseAttribute.eqAll_iff_same.mpr hattributes
    · cases a with
      | tempo ratio => exact absurd rfl (htempo ratio)
      | phrase attributes => exact absurd rfl (hphrase attributes)
      | _ => simp [eq]

/-- Only phrases are spellings of phrases. -/
theorem Control.Same.not_phrase {a b : Control} (hsame : a.Same b)
    (hphrase : ∀ attributes, a ≠ .phrase attributes) : ∀ attributes, b ≠ .phrase attributes := by
  cases hsame with
  | tempo _ => simp
  | phrase _ => exact absurd rfl (hphrase _)
  | plain _ _ => exact hphrase

/-- Pieces compare as equal when they are spellings of one piece, up to payloads that compare as
equal. -/
theorem Music.eq_iff_same {a b : Music Payload} :
    a.eq b = .ok true ↔ a.Same (fun p q => p.eq q) b := by
  constructor
  · intro heq
    induction a generalizing b with
    | prim primitive =>
      cases b with
      | prim primitive' =>
        cases primitive with
        | note x p =>
          cases primitive' with
          | note y q =>
            obtain ⟨hlength, hpayload⟩ := both_eq_ok_true_iff.mp heq
            exact .note (Ratio.eq_iff_same.mp hlength) (pure_eq_ok_iff.mp hpayload)
          | rest y => simp [eq, Primitive.eq] at heq
        | rest x =>
          cases primitive' with
          | note y q => simp [eq, Primitive.eq] at heq
          | rest y => exact .rest (Ratio.eq_iff_same.mp heq)
      | _ => simp [eq] at heq
    | seq left right ihleft ihright =>
      cases b with
      | seq left' right' =>
        obtain ⟨hleft, hright⟩ := both_eq_ok_true_iff.mp heq
        exact .seq (ihleft hleft) (ihright hright)
      | _ => simp [eq] at heq
    | par left right ihleft ihright =>
      cases b with
      | par left' right' =>
        obtain ⟨hleft, hright⟩ := both_eq_ok_true_iff.mp heq
        exact .par (ihleft hleft) (ihright hright)
      | _ => simp [eq] at heq
    | modify control body ih =>
      cases b with
      | modify control' body' =>
        obtain ⟨hcontrol, hbody⟩ := both_eq_ok_true_iff.mp heq
        exact .modify (Control.eq_iff_same.mp hcontrol) (ih hbody)
      | _ => simp [eq] at heq
    | stray number =>
      cases b with
      | stray number' =>
        obtain rfl : number = number' := by simpa [eq] using heq
        exact .stray number
      | _ => simp [eq] at heq
  · intro hsame
    induction hsame with
    | note hlength hpayload =>
      exact both_eq_ok_true_iff.mpr ⟨Ratio.eq_iff_same.mpr hlength, pure_eq_ok_iff.mpr hpayload⟩
    | rest hlength => exact Ratio.eq_iff_same.mpr hlength
    | seq _ _ ihleft ihright => exact both_eq_ok_true_iff.mpr ⟨ihleft, ihright⟩
    | par _ _ ihleft ihright => exact both_eq_ok_true_iff.mpr ⟨ihleft, ihright⟩
    | modify hcontrol _ ih =>
      exact both_eq_ok_true_iff.mpr ⟨Control.eq_iff_same.mpr hcontrol, ih⟩
    | stray number => simp [eq]

section Length

variable {α : Type} {stands : α → α → Prop}

/-- Spellings of a control change the length of what they stand around alike. -/
theorem Control.Same.onModify_matched {control control' : Control} (hsame : control.Same control')
    {length length' : Ratio} (hlength : length.Same length') :
    Matched Ratio.Same ((Music.measure (α := α)).onModify control length)
      ((Music.measure (α := α)).onModify control' length') := by
  cases hsame with
  | tempo hratio => exact (hlength.div_matched hratio).imp fun _ _ hquotient => hquotient.same
  | phrase _ => exact .pure hlength
  | plain htempo _ =>
    cases control with
    | tempo ratio => exact absurd rfl (htempo ratio)
    | _ => exact .pure hlength

/-- Spellings of a piece have lengths of one value, or none of them has a length. -/
theorem Music.Same.length_matched {a b : Music α} (hsame : a.Same stands b) :
    Matched Ratio.Same a.length b.length := by
  induction hsame with
  | note hlength _ => exact .of_ok (length_prim _) (length_prim _) hlength
  | rest hlength => exact .of_ok (length_prim _) (length_prim _) hlength
  | seq _ _ ihleft ihright =>
    rw [length_seq, length_seq]
    refine ihleft.bind fun l l' hl => ihright.bind fun r r' hr => ?_
    exact (hl.add_matched hr).imp fun _ _ hsum => hsum.same
  | par _ _ ihleft ihright =>
    rw [length_par, length_par]
    exact ihleft.bind fun l l' hl => ihright.bind fun r r' hr => hl.max_matched hr
  | modify hcontrol _ ih =>
    rw [length_modify, length_modify]
    exact ih.bind fun length length' hlength => hcontrol.onModify_matched hlength
  | stray number => exact .of_error (length_stray number) (length_stray number) rfl

end Length

/-- Notes with the payloads have the same pitch and volume, and related further numbers. -/
structure Payload.Sounds (R : List Binary64 → List Binary64 → Prop) (p q : Payload) : Prop where
  /-- The pitches are equal. -/
  pitch : p.basePitch = q.basePitch
  /-- Both set one volume, or none. -/
  volume : p.volume? = q.volume?
  /-- The further numbers are related. -/
  params : R (p.params?.getD []) (q.params?.getD [])

/-- Attributes that compare as equal set the same volume and further numbers that are equal as
doubles. -/
theorem NoteAttribute.sounds_of_eqAll {as bs : List NoteAttribute} (heq : eqAll as bs) :
    as.findSome? volume? = bs.findSome? volume? ∧
      sameParams ((as.findSome? params?).getD []) ((bs.findSome? params?).getD []) := by
  induction as generalizing bs with
  | nil =>
    cases bs with
    | nil => exact ⟨rfl, rfl⟩
    | cons b bs => simp [eqAll] at heq
  | cons a as ih =>
    cases bs with
    | nil => simp [eqAll] at heq
    | cons b bs =>
      obtain ⟨hhead, hrest⟩ := Bool.and_eq_true_iff.mp heq
      obtain ⟨hvolume, hparams⟩ := ih hrest
      revert hhead
      fun_cases NoteAttribute.eq a b with
      | case1 xs ys => exact fun hhead => ⟨hvolume, hhead⟩
      | case2 a b hother =>
        intro hhead
        obtain rfl : a = b := of_decide_eq_true hhead
        cases a with
        | volume value => exact ⟨rfl, hparams⟩
        | params values => exact absurd rfl (hother values values rfl)
        | _ => exact ⟨hvolume, hparams⟩

/-- Payloads that compare as equal sound the same, with further numbers that are equal as
doubles. -/
theorem Payload.sounds_of_eq {p q : Payload} (heq : p.eq q) :
    p.Sounds (fun xs ys => sameParams xs ys) q := by
  revert heq
  fun_cases Payload.eq p q with
  | case1 p as q bs =>
    intro heq
    obtain ⟨hpitch, hattributes⟩ := Bool.and_eq_true_iff.mp heq
    obtain ⟨hvolume, hparams⟩ := NoteAttribute.sounds_of_eqAll hattributes
    exact ⟨of_decide_eq_true hpitch, hvolume, hparams⟩
  | case2 p q hmarked =>
    intro heq
    obtain rfl : p = q := of_decide_eq_true heq
    cases p with
    | marked p attributes => exact absurd rfl (hmarked p attributes p attributes rfl)
    | _ => exact ⟨rfl, rfl, rfl⟩

end Polyphony
