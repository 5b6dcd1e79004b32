import Polyphony.Pace
import Polyphony.Proofs.Binary64.Quotient
import Polyphony.Proofs.Journal.Success

/-!
# Paces are not negative

Beats per minute pass a check that they are not zero or less. So the pace that they give, where it
is a number, is not negative, and time goes forward in the seconds of messages.
-/

namespace Polyphony

namespace Number

/-- The number is zero or less. What is not a number is not. -/
def NotPositive : Number → Prop
  | integer k => k ≤ 0
  | double x => x.le (.zero false)

instance : DecidablePred NotPositive
  | integer k => inferInstanceAs (Decidable (k ≤ 0))
  | double x => inferInstanceAs (Decidable (x.le (.zero false)))

/-- A double that is a number is zero or less if its place is. -/
theorem notPositive_double_iff {x : Binary64} (hnumber : x.isNaN = false) :
    NotPositive (.double x) ↔ x.place ≤ 0 := by
  have hzero : (Binary64.zero false).isNaN = false := by decide
  simp only [NotPositive, Binary64.le_iff, hnumber, hzero, true_and]
  rfl

/-- Numbers stand to zero as they compare with it. -/
theorem holds_le_zero_iff (x : Number) :
    Comparison.le.holds (x.order (.integer 0)) ↔ x.NotPositive := by
  cases x with
  | integer k => exact Int.isLE_compare
  | double x =>
    have horder : Number.order (.double x) (.integer 0) =
        (Number.orderInteger 0 x).map Ordering.swap := rfl
    rw [horder, Number.orderInteger]
    cases hnumber : x.isNaN with
    | true => simp [Comparison.holds, NotPositive, Binary64.le_iff, hnumber]
    | false =>
      rw [notPositive_double_iff hnumber, if_neg Bool.false_ne_true]
      cases hinfinite : x.isInfinite with
      | true =>
        have hmagnitude : x.magnitude = Binary64.infiniteMagnitude := of_decide_eq_true hinfinite
        have hpos : Binary64.infiniteMagnitude ≠ 0 := by decide
        rw [if_pos rfl, Binary64.place, hmagnitude]
        cases x.negative with
        | false => simpa [Comparison.holds] using hpos
        | true => simp [Comparison.holds]
      | false =>
        have hplace : x.units ≤ 0 ↔ x.place ≤ 0 := Binary64.units_le_iff (y := .zero false)
        rw [if_neg Bool.false_ne_true, Int.zero_mul, ← hplace]
        simp only [Option.map_some, Comparison.holds, Ordering.isLE_swap]
        exact Int.isGE_compare

end Number

namespace Pace

/-- Numbers compare with zero, and no other data. -/
theorem compareBy_zero_eq_ok_iff {beats : Datum} {test : Comparison} {answer : Bool} :
    beats.compareBy test (.int 0) = .ok answer ↔
      ∃ x, beats.number? = some x ∧ answer = test.holds (x.order (.integer 0)) := by
  cases beats with
  | scalar s =>
    cases s <;> simp [Datum.compareBy, Datum.number?, Scalar.number?, pure, Except.pure, eq_comm]
  | _ => simp [Datum.compareBy, Datum.number?]

/-- The check of the beats asks whether they are zero or less. -/
theorem compareBy_le_zero {beats : Datum} {x : Number} (hbeats : beats.number? = some x) :
    beats.compareBy .le (.int 0) = .ok (decide x.NotPositive) := by
  refine compareBy_zero_eq_ok_iff.mpr ⟨x, hbeats, ?_⟩
  rw [Bool.eq_iff_iff, decide_eq_true_iff, Number.holds_le_zero_iff]

/-- Beats that are zero or less are refused. -/
theorem secondsPerWhole_eq_error {beats : Datum} {number : Number}
    (hbeats : beats.number? = some number) (hlow : number.NotPositive) :
    secondsPerWhole beats = .error .beatsNotPositive := by
  rw [secondsPerWhole, compareBy_le_zero hbeats, decide_eq_true hlow]
  rfl

/-- Other beats that have a double divide the seconds at one beat. -/
theorem secondsPerWhole_eq_ok {beats : Datum} {number : Number} {x : Binary64}
    (hbeats : beats.number? = some number) (habove : ¬ number.NotPositive)
    (hx : toBinary64 beats = .ok x) : secondsPerWhole beats = .ok (secondsAtOneBeat.div x) := by
  rw [secondsPerWhole, compareBy_le_zero hbeats, decide_eq_false habove, hx]
  rfl

/-- The double of an integer, where it has one. -/
theorem toBinary64_of_integer {beats : Datum} {k : Int} {x : Binary64}
    (hnumber : beats.number? = some (.integer k)) (hok : toBinary64 beats = .ok x) :
    Binary64.ofInt? k = some x := by
  obtain ⟨hinteger, hother⟩ : beats.toInteger = .ok k ∧ ∀ y, beats = .float y → False := by
    cases beats with
    | scalar s => cases s <;> simp_all [Datum.number?, Scalar.number?, Datum.toInteger]
    | _ => nomatch hnumber
  simp only [toBinary64, hinteger, bind_eq_ok_iff, Except.ok.injEq, exists_eq_left'] at hok
  cases hdouble : Binary64.ofInt? k with
  | none => simp [hdouble] at hok
  | some y => simpa [hdouble] using hok

theorem toBinary64_of_double {beats : Datum} {x y : Binary64}
    (hnumber : beats.number? = some (.double y)) (hok : toBinary64 beats = .ok x) : x = y := by
  cases beats with
  | scalar s => cases s <;> simp_all [Datum.number?, Scalar.number?, toBinary64]
  | _ => nomatch hnumber

/-- Beats that pass the check have no sign. -/
theorem negative_of_toBinary64 {beats : Datum} {x : Binary64}
    (habove : beats.compareBy .le (.int 0) = .ok false) (hok : toBinary64 beats = .ok x)
    (hnumber : x.isNaN = false) : x.negative = false := by
  obtain ⟨number, hbeats, hholds⟩ := compareBy_zero_eq_ok_iff.mp habove
  have hpositive : ¬ number.NotPositive := by
    rw [← Number.holds_le_zero_iff, ← hholds]
    exact Bool.false_ne_true
  cases number with
  | integer k =>
    have hpos : 0 < k := not_le.mp hpositive
    rw [Binary64.negative_ofQuotient? (toBinary64_of_integer hbeats hok)]
    simp [hpos.le]
  | double y =>
    obtain rfl := toBinary64_of_double hbeats hok
    rw [Number.notPositive_double_iff hnumber, not_le] at hpositive
    exact Binary64.negative_of_place_pos hpositive

/-- The pace of a performance, where it is a number, is not negative. -/
theorem negative_of_secondsPerWhole {beats : Datum} {pace : Binary64}
    (hok : secondsPerWhole beats = .ok pace) (hnumber : pace.isNaN = false) :
    pace.negative = false := by
  obtain ⟨low, hlow, hrest⟩ := bind_eq_ok_iff.mp hok
  cases low with
  | true => nomatch hrest
  | false =>
    obtain ⟨x, hx, rfl⟩ : ∃ x, toBinary64 beats = .ok x ∧ secondsAtOneBeat.div x = pace := by
      simpa using hrest
    have hfinite : secondsAtOneBeat.isFinite := by decide
    cases hxNumber : x.isNaN with
    | true =>
      have hundefined := Binary64.div_of_isNaN (Binary64.isNaN_of_isFinite hfinite) hxNumber
      exact absurd (hnumber.symm.trans hundefined) Bool.false_ne_true
    | false =>
      rw [Binary64.negative_div hfinite (by decide) hxNumber,
        negative_of_toBinary64 hlow hx hxNumber]
      rfl

end Pace

end Polyphony
