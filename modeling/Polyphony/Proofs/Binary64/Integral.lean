import Mathlib.Tactic.FieldSimp
import Polyphony.Proofs.Binary64.Nearest

/-!
# Integers through doubles

A value whose numerator, in lowest terms, has at most 52 bits keeps its integer part and its nearest
integer when it goes through the nearest double. With a numerator so small, doubles are closer to
each other than the value can be to an integer or a half that it is not, whatever its denominator.
-/

namespace Polyphony

/-- The integer is nearest to the value. Of two that are nearest, it is the even one. -/
structure NearestInteger (value : Rat) (k : Int) : Prop where
  /-- No integer is nearer. -/
  near : |value - k| ≤ 1 / 2
  /-- A half goes to the even neighbour. -/
  even : |value - k| = 1 / 2 → Even k

namespace NearestInteger

variable {value : Rat} {k l : Int}

theorem neg (hk : NearestInteger value k) : NearestInteger (-value) (-k) := by
  have hdistance : |-value - ((-k : Int) : Rat)| = |value - k| := by
    rw [Int.cast_neg, neg_sub_neg, abs_sub_comm]
  constructor
  · rw [hdistance]
    exact hk.near
  · intro hhalf
    rw [hdistance] at hhalf
    exact (hk.even hhalf).neg

/-- A value has one nearest integer: two would be neighbours, both at a half and both even. -/
theorem unique (hk : NearestInteger value k) (hl : NearestInteger value l) : k = l := by
  wlog hlt : k < l generalizing k l
  · rcases (not_lt.mp hlt).eq_or_lt with heq | hgt
    · exact heq.symm
    · exact (this hl hk hgt).symm
  have hstep : (k : Rat) + 1 ≤ l := by exact_mod_cast hlt
  have hkNear := abs_le.mp hk.near
  have hlNear := abs_le.mp hl.near
  have hkHalf : |value - k| = 1 / 2 := by
    rw [abs_of_nonneg (by linarith)]
    linarith
  have hlHalf : |value - l| = 1 / 2 := by
    rw [abs_of_nonpos (by linarith)]
    linarith
  have hnext : l = k + 1 := by
    have hcast : (l : Rat) = k + 1 := by linarith
    exact_mod_cast hcast
  obtain ⟨a, ha⟩ := hk.even hkHalf
  obtain ⟨b, hb⟩ := hl.even hlHalf
  omega

end NearestInteger

section RoundQuotient

variable {numer denom scale : Nat}

/-- The rounded quotient leaves the rest of the division where that is at most a half, and goes past
the quotient by what is missing from the rest where that is at least a half. At a half it is even. -/
theorem roundQuotient_cases (numer denom : Nat) :
    (roundQuotient numer denom * denom + numer % denom = numer ∧ 2 * (numer % denom) ≤ denom ∨
      roundQuotient numer denom * denom + numer % denom = numer + denom ∧
        denom ≤ 2 * (numer % denom)) ∧
    (2 * (numer % denom) = denom → roundQuotient numer denom % 2 = 0) := by
  have hsplit : numer / denom * denom + numer % denom = numer := Nat.div_add_mod' numer denom
  unfold roundQuotient
  dsimp only
  split
  · refine ⟨.inr ⟨?_, by omega⟩, by omega⟩
    rw [Nat.add_one_mul]
    omega
  · exact ⟨.inl ⟨hsplit, by omega⟩, by omega⟩

/-- The rounded quotient is above the quotient by a half at most. -/
theorem roundQuotient_mul_le (numer denom : Nat) :
    2 * (roundQuotient numer denom * denom) ≤ 2 * numer + denom := by
  obtain ⟨hround, _⟩ := roundQuotient_cases numer denom
  omega

/-- The rounded quotient is below the quotient by a half at most. -/
theorem le_roundQuotient_mul (numer : Nat) (hdenom : 0 < denom) :
    2 * numer ≤ 2 * (roundQuotient numer denom * denom) + denom := by
  have hlt : numer % denom < denom := Nat.mod_lt numer hdenom
  obtain ⟨hround, _⟩ := roundQuotient_cases numer denom
  omega

/-- A quotient at a half is rounded to an even integer. -/
theorem even_roundQuotient (htie : 2 * numer = 2 * (roundQuotient numer denom * denom) + denom ∨
    2 * (roundQuotient numer denom * denom) = 2 * numer + denom) (hdenom : 0 < denom) :
    roundQuotient numer denom % 2 = 0 := by
  have hlt : numer % denom < denom := Nat.mod_lt numer hdenom
  obtain ⟨hround, heven⟩ := roundQuotient_cases numer denom
  exact heven (by omega)

/-- The rounded quotient is the nearest integer. -/
theorem nearestInteger_roundQuotient (numer : Nat) (hdenom : 0 < denom) :
    NearestInteger ((numer : Rat) / denom) (roundQuotient numer denom : Nat) := by
  have hpos : (0 : Rat) < denom := Nat.cast_pos.mpr hdenom
  have hscaled : (numer : Rat) = roundQuotient numer denom * denom +
      ((numer : Rat) / denom - ((roundQuotient numer denom : Nat) : Int)) * denom := by
    rw [Int.cast_natCast]
    field_simp
    ring
  constructor
  · have habove : (2 * (roundQuotient numer denom * denom) : Rat) ≤ 2 * numer + denom := by
      exact_mod_cast roundQuotient_mul_le numer denom
    have hbelow : (2 * numer : Rat) ≤ 2 * (roundQuotient numer denom * denom) + denom := by
      exact_mod_cast le_roundQuotient_mul numer hdenom
    refine abs_le.mpr ⟨le_of_mul_le_mul_right ?_ hpos, le_of_mul_le_mul_right ?_ hpos⟩
    · linarith
    · linarith
  · intro hhalf
    have htie : 2 * numer = 2 * (roundQuotient numer denom * denom) + denom ∨
        2 * (roundQuotient numer denom * denom) = 2 * numer + denom := by
      obtain hup | hdown := (abs_eq (by norm_num)).mp hhalf
      · left
        have hcast : (2 * numer : Rat) = 2 * (roundQuotient numer denom * denom) + denom := by
          rw [hscaled, hup]
          ring
        exact_mod_cast hcast
      · right
        have hcast : (2 * (roundQuotient numer denom * denom) : Rat) = 2 * numer + denom := by
          rw [hscaled, hdown]
          ring
        exact_mod_cast hcast
    exact (Int.even_coe_nat _).mpr (Nat.even_iff.mpr (even_roundQuotient htie hdenom))

/-- A quotient below an integer by more than a half is rounded to less than it. -/
theorem roundQuotient_lt {bound : Nat} (hlt : 2 * numer + denom < 2 * (bound * denom)) :
    roundQuotient numer denom < bound := by
  by_contra hge
  have hmul := Nat.mul_le_mul_right denom (Nat.le_of_not_lt hge)
  have hle := roundQuotient_mul_le numer denom
  omega

/-- A quotient below a half is rounded to nothing. -/
theorem roundQuotient_eq_zero (hlt : 2 * numer < denom) : roundQuotient numer denom = 0 := by
  refine Nat.lt_one_iff.mp (roundQuotient_lt ?_)
  omega

/-- A quotient above an integer by more than a half is rounded to more than it. -/
theorem lt_roundQuotient {bound : Nat} (hdenom : 0 < denom)
    (hlt : 2 * (bound * denom) + denom < 2 * numer) : bound < roundQuotient numer denom := by
  by_contra hge
  have hmul := Nat.mul_le_mul_right denom (Nat.le_of_not_lt hge)
  have hle := le_roundQuotient_mul numer hdenom
  omega

/-- Quotients with one integer part whose rests stand alike to one half are rounded alike. -/
theorem roundQuotient_congr {a b c d : Nat} (hquotient : a / b = c / d)
    (hbelow : 2 * (a % b) < b ↔ 2 * (c % d) < d) (habove : b < 2 * (a % b) ↔ d < 2 * (c % d)) :
    roundQuotient a b = roundQuotient c d := by
  unfold roundQuotient
  dsimp only
  rw [hquotient]
  split <;> split <;> omega

/-- A common factor does not count. -/
theorem roundQuotient_mul_mul_right (numer denom : Nat) (hscale : 0 < scale) :
    roundQuotient (numer * scale) (denom * scale) = roundQuotient numer denom := by
  have hrest : 2 * (numer * scale % (denom * scale)) = 2 * (numer % denom) * scale := by
    rw [Nat.mul_mod_mul_right, Nat.mul_assoc]
  refine roundQuotient_congr (Nat.mul_div_mul_right numer denom hscale) ?_ ?_
  · rw [hrest, Nat.mul_lt_mul_right hscale]
  · rw [hrest, Nat.mul_lt_mul_right hscale]

/-- Where a scale has more steps to an integer than the quotient has below the line, rounding on the
scale keeps the integer part: the quotient stands below the next integer by more than a step. -/
theorem roundQuotient_scaled_div (numer : Nat) (hdenom : 0 < denom) (hscale : denom < scale) :
    roundQuotient (numer * scale) denom / scale = numer / denom := by
  have hlow : numer / denom * scale ≤ roundQuotient (numer * scale) denom := by
    refine le_trans ?_ (div_le_roundQuotient _ _)
    rw [Nat.le_div_iff_mul_le hdenom, Nat.mul_right_comm]
    exact Nat.mul_le_mul_right scale (Nat.div_mul_le_self numer denom)
  have hhigh : roundQuotient (numer * scale) denom < (numer / denom + 1) * scale := by
    have hnext : numer + 1 ≤ (numer / denom + 1) * denom := Nat.lt_mul_of_div_lt (by omega) hdenom
    have hsteps : (numer + 1) * scale ≤ (numer / denom + 1) * denom * scale :=
      Nat.mul_le_mul_right scale hnext
    refine roundQuotient_lt ?_
    rw [Nat.mul_right_comm]
    rw [Nat.add_one_mul] at hsteps
    omega
  exact Nat.div_eq_of_lt_le hlow hhigh

/-- On a scale without more steps to an integer than the quotient has below the line, there are no
more steps than the quotient has above it. -/
theorem roundQuotient_scaled_le (numer : Nat) (hdenom : 0 < denom) (hscale : scale ≤ denom) :
    roundQuotient (numer * scale) denom ≤ numer := by
  have hcross : numer * scale * denom ≤ numer * denom * denom :=
    Nat.mul_le_mul_right denom (Nat.mul_le_mul_left numer hscale)
  calc roundQuotient (numer * scale) denom ≤ roundQuotient (numer * denom) denom :=
        roundQuotient_mono hdenom hdenom hcross
    _ = numer := roundQuotient_mul_right numer hdenom

/-- On a finer scale than that, if it has an even number of steps to an integer, the quotient also
keeps its nearest integer: it is a half, which is on the scale, or stands off from a half by more
than a step. -/
theorem roundQuotient_roundQuotient_scaled {half : Nat} (numer : Nat) (hdenom : 0 < denom)
    (hscale : denom < 2 * half) :
    roundQuotient (roundQuotient (numer * (2 * half)) denom) (2 * half) =
      roundQuotient numer denom := by
  have hsplit : numer / denom * denom + numer % denom = numer := Nat.div_add_mod' numer denom
  generalize hrounded : roundQuotient (numer * (2 * half)) denom = rounded
  have hquotient : rounded / (2 * half) = numer / denom :=
    hrounded ▸ roundQuotient_scaled_div numer hdenom hscale
  have hrest : numer / denom * (2 * half) + rounded % (2 * half) = rounded := by
    rw [← hquotient]
    exact Nat.div_add_mod' rounded (2 * half)
  -- The half after the integer part is on the scale; the rounded quotient stands to it as the
  -- quotient does.
  have hmiddle : 2 * ((numer / denom * (2 * half) + half) * denom) =
      (2 * (numer / denom * denom) + denom) * (2 * half) := by ring
  have hscaled : 2 * (numer * (2 * half)) = 2 * numer * (2 * half) := (Nat.mul_assoc ..).symm
  rcases lt_trichotomy (2 * (numer % denom)) denom with hbelow | hhalf | habove
  · have hlt : rounded < numer / denom * (2 * half) + half := by
      have hsteps : (2 * numer + 1) * (2 * half) ≤
          (2 * (numer / denom * denom) + denom) * (2 * half) :=
        Nat.mul_le_mul_right _ (by omega)
      rw [Nat.add_one_mul (2 * numer)] at hsteps
      exact hrounded ▸ roundQuotient_lt (by omega)
    exact roundQuotient_congr hquotient (by omega) (by omega)
  · have heq : rounded = numer / denom * (2 * half) + half := by
      have hwhole : numer * (2 * half) = (numer / denom * (2 * half) + half) * denom := by
        have htwice : 2 * numer = 2 * (numer / denom * denom) + denom := by omega
        rw [← htwice] at hmiddle
        omega
      rw [← hrounded, hwhole, roundQuotient_mul_right _ hdenom]
    exact roundQuotient_congr hquotient (by omega) (by omega)
  · have hgt : numer / denom * (2 * half) + half < rounded := by
      have hsteps : (2 * (numer / denom * denom) + denom + 1) * (2 * half) ≤
          2 * numer * (2 * half) := Nat.mul_le_mul_right _ (by omega)
      rw [Nat.add_one_mul (2 * (numer / denom * denom) + denom)] at hsteps
      exact hrounded ▸ lt_roundQuotient hdenom (by omega)
    exact roundQuotient_congr hquotient (by omega) (by omega)

end RoundQuotient


namespace Binary64

/-- The units of a magnitude that is made up of excess bits and what is left without them. -/
theorem magnitudeUnits_shifted {excess mantissa : Nat} (hle : mantissa ≤ 2 ^ 53)
    (hnormal : 0 < excess → 2 ^ 52 ≤ mantissa) :
    magnitudeUnits (excess * 2 ^ 52 + mantissa) = mantissa * 2 ^ excess := by
  rcases Nat.lt_or_ge mantissa (2 ^ 52) with hlt | hge
  · obtain rfl : excess = 0 := by omega
    rw [Nat.zero_mul, Nat.zero_add, magnitudeUnits_of_lt hlt, Nat.pow_zero, Nat.mul_one]
  · rw [magnitudeUnits_of_le (by omega)]
    rcases hle.lt_or_eq with hlt | rfl
    · have hexponent : (excess * 2 ^ 52 + mantissa) / 2 ^ 52 - 1 = excess := by omega
      have hmantissa : 2 ^ 52 + (excess * 2 ^ 52 + mantissa) % 2 ^ 52 = mantissa := by omega
      rw [hexponent, hmantissa]
    · have hexponent : (excess * 2 ^ 52 + 2 ^ 53) / 2 ^ 52 - 1 = excess + 1 := by omega
      have hmantissa : 2 ^ 52 + (excess * 2 ^ 52 + 2 ^ 53) % 2 ^ 52 = 2 ^ 52 := by omega
      rw [hexponent, hmantissa]
      ring

/-- What is left of a quotient of units without its excess bits, rounded, has 53 bits or is the next
power of two. -/
theorem roundQuotient_excess_le (numer denom : Nat) :
    roundQuotient numer (denom * 2 ^ excessBits (numer / denom)) ≤ 2 ^ 53 := by
  have hround := roundQuotient_le_succ numer (denom * 2 ^ excessBits (numer / denom))
  have hlt := shifted_lt (numer / denom)
  rw [Nat.div_div_eq_div_mul] at hlt
  omega

/-- A quotient of units is rounded to a multiple of the unit that its excess bits leave. -/
theorem magnitudeUnits_nearestMagnitude (numer denom : Nat) :
    magnitudeUnits (nearestMagnitude numer denom) =
      roundQuotient numer (denom * 2 ^ excessBits (numer / denom)) *
        2 ^ excessBits (numer / denom) := by
  rw [nearestMagnitude_eq]
  refine magnitudeUnits_shifted (roundQuotient_excess_le numer denom) fun hexcess => ?_
  have hle := le_shifted hexcess
  rw [Nat.div_div_eq_div_mul] at hle
  exact hle.trans (div_le_roundQuotient _ _)

/-- On a scale of units, a quotient of a number of at most 52 bits has fewer excess bits than the
scale has. -/
theorem excessBits_lt {numer denom scale : Nat} (hsmall : numer < 2 ^ 52) (hscale : 0 < scale) :
    excessBits (numer * 2 ^ scale / denom) < scale := by
  have hlt : numer * 2 ^ scale / denom < 2 ^ (52 + scale) := by
    refine (Nat.div_le_self _ _).trans_lt ?_
    rw [Nat.pow_add]
    exact Nat.mul_lt_mul_of_pos_right hsmall (by positivity)
  unfold excessBits
  rcases Nat.eq_zero_or_pos (numer * 2 ^ scale / denom) with hzero | hpos
  · rw [hzero]
    exact hscale
  · have hlog := (Nat.log2_lt hpos.ne').mpr hlt
    omega

/-- Where there are excess bits, a scale without them is finer than a quotient of a number of at most
52 bits. -/
theorem denom_lt_of_excess {numer denom scale excess : Nat} (hsmall : numer < 2 ^ 52)
    (hdenom : 0 < denom) (hexcess : excessBits (numer * 2 ^ (scale + excess) / denom) = excess)
    (hpos : 0 < excess) : denom < 2 ^ scale := by
  have hle := le_shifted (hexcess ▸ hpos)
  rw [hexcess, Nat.div_div_eq_div_mul, Nat.le_div_iff_mul_le (by positivity), Nat.pow_add,
    ← Nat.mul_assoc, ← Nat.mul_assoc] at hle
  have hscaled : 2 ^ 52 * denom ≤ numer * 2 ^ scale :=
    Nat.le_of_mul_le_mul_right hle (by positivity)
  by_contra hge
  have hlarge : 2 ^ 52 * 2 ^ scale ≤ 2 ^ 52 * denom :=
    Nat.mul_le_mul_left _ (Nat.le_of_not_lt hge)
  have hlt : numer * 2 ^ scale < 2 ^ 52 * 2 ^ scale :=
    Nat.mul_lt_mul_of_pos_right hsmall (by positivity)
  omega

/-- The units of the double nearest to a quotient of a number of at most 52 bits come to the integer
part of the quotient, and to its nearest integer. -/
theorem units_nearestMagnitude {numer denom scale : Nat} (hscale : 54 ≤ scale)
    (hsmall : numer < 2 ^ 52) (hdenom : 0 < denom) :
    magnitudeUnits (nearestMagnitude (numer * 2 ^ scale) denom) / 2 ^ scale = numer / denom ∧
      roundQuotient (magnitudeUnits (nearestMagnitude (numer * 2 ^ scale) denom)) (2 ^ scale) =
        roundQuotient numer denom := by
  have hlt : excessBits (numer * 2 ^ scale / denom) < scale := excessBits_lt hsmall (by omega)
  rw [magnitudeUnits_nearestMagnitude]
  generalize hexcess : excessBits (numer * 2 ^ scale / denom) = excess at hlt ⊢
  obtain ⟨rest, rfl⟩ : ∃ rest, scale = rest + 1 + excess := ⟨scale - excess - 1, by omega⟩
  have hround : roundQuotient (numer * 2 ^ (rest + 1 + excess)) (denom * 2 ^ excess) =
      roundQuotient (numer * (2 * 2 ^ rest)) denom := by
    rw [Nat.pow_add, ← Nat.mul_assoc, roundQuotient_mul_mul_right _ _ (by positivity),
      Nat.pow_succ']
  rw [hround, Nat.pow_add _ (rest + 1), Nat.mul_div_mul_right _ _ (by positivity),
    roundQuotient_mul_mul_right _ _ (by positivity), Nat.pow_succ']
  rcases Nat.lt_or_ge denom (2 * 2 ^ rest) with hfine | hcoarse
  · exact ⟨roundQuotient_scaled_div numer hdenom hfine,
      roundQuotient_roundQuotient_scaled numer hdenom hfine⟩
  · -- Excess bits leave a finer scale than this one. Without them, the quotient is next to nothing.
    obtain rfl : excess = 0 := by
      by_contra hexcess'
      have hfine := denom_lt_of_excess hsmall hdenom hexcess (Nat.pos_of_ne_zero hexcess')
      rw [Nat.pow_succ'] at hfine
      exact hfine.not_ge hcoarse
    have hlarge : 2 ^ 54 ≤ 2 * 2 ^ rest := by
      rw [← Nat.pow_succ']
      exact Nat.pow_le_pow_right (by decide) hscale
    have hle := roundQuotient_scaled_le numer hdenom hcoarse
    constructor
    · rw [Nat.div_eq_of_lt (by omega), Nat.div_eq_of_lt (by omega)]
    · have hnumer : roundQuotient numer denom = 0 := roundQuotient_eq_zero (by omega)
      rw [hnumer, roundQuotient_eq_zero (by omega)]

/-- The integer part of a double, from its sign and its magnitude. -/
theorem integerPart_eq (x : Binary64) :
    x.integerPart =
      if x.negative then -((magnitudeUnits x.magnitude / 2 ^ unitExponent : Nat) : Int)
      else (magnitudeUnits x.magnitude / 2 ^ unitExponent : Nat) := by
  rw [integerPart, units, Nat.pow_eq, Int.ofNat_tdiv]
  generalize 2 ^ unitExponent = scale
  split
  · rw [Int.neg_tdiv]
  · rfl

/-- The nearest integer of a double, from its sign and its magnitude. -/
theorem nearestInteger_eq (x : Binary64) :
    x.nearestInteger =
      if x.negative then -(roundQuotient (magnitudeUnits x.magnitude) (2 ^ unitExponent) : Int)
      else roundQuotient (magnitudeUnits x.magnitude) (2 ^ unitExponent) := by
  rw [nearestInteger, natAbs_units, Nat.pow_eq]
  generalize hrounded : roundQuotient (magnitudeUnits x.magnitude) (2 ^ unitExponent) = rounded
  by_cases hzero : x.units = 0
  · have hnothing : rounded = 0 := by
      rw [← hrounded, ← natAbs_units, hzero, Int.natAbs_zero]
      exact roundQuotient_eq_zero (by positivity)
    simp [hnothing]
  · rw [negative_eq_of_units_ne_zero hzero]
    simp only [decide_eq_true_eq]

theorem le_unitExponent : 54 ≤ unitExponent := by decide

end Binary64

namespace Ratio

open Binary64

variable {value : Rat} {x : Binary64}

/-- A numerator of at most 52 bits is not too large for a finite double, whatever the
denominator. -/
theorem exists_toBinary64_of_small (hsmall : value.num.natAbs < 2 ^ 52) :
    ∃ x, (ofValue value).toBinary64 = .ok x := by
  have hlt : nearestMagnitude (value.num * (Nat.pow 2 unitExponent : Nat)).natAbs value.den <
      infiniteMagnitude := by
    rw [Int.natAbs_mul, Int.natAbs_natCast, nearestMagnitude_eq, Nat.pow_eq, infiniteMagnitude]
    generalize hunits : value.num.natAbs * 2 ^ unitExponent = units
    have hexcess : excessBits (units / value.den) < 1074 :=
      hunits ▸ excessBits_lt hsmall (by decide)
    have hround := roundQuotient_excess_le units value.den
    -- 1073 excess bits at the most and what is left without them stay far below 2047.
    rw [Nat.pow_eq]
    omega
  exact ⟨_, toBinary64_ofValue_eq_ok_iff.mpr (dif_pos hlt)⟩

/-- The double of a value has its sign and the magnitude nearest to it. -/
theorem parts_of_toBinary64 (hok : (ofValue value).toBinary64 = .ok x) :
    x.negative = decide (value.num < 0) ∧
      x.magnitude = nearestMagnitude (value.num.natAbs * 2 ^ unitExponent) value.den := by
  obtain ⟨_, hnegative, hmagnitude⟩ := of_ofUnits? (toBinary64_ofValue_eq_ok_iff.mp hok)
  rw [Int.natAbs_mul, Int.natAbs_natCast] at hmagnitude
  exact ⟨hnegative, by rw [hmagnitude, Nat.pow_eq]⟩

/-- The double of a value with a numerator of at most 52 bits has the integer part of the value. -/
theorem integerPart_of_toBinary64 (hsmall : value.num.natAbs < 2 ^ 52)
    (hok : (ofValue value).toBinary64 = .ok x) : x.integerPart = value.num.tdiv value.den := by
  obtain ⟨hnegative, hmagnitude⟩ := parts_of_toBinary64 hok
  obtain ⟨hquotient, _⟩ :=
    units_nearestMagnitude le_unitExponent hsmall value.den_pos
  rw [integerPart_eq, hmagnitude, hquotient, hnegative, Int.ofNat_tdiv]
  rcases lt_or_ge value.num 0 with hneg | hnonneg
  · rw [if_pos (decide_eq_true hneg), ← Int.neg_tdiv, ← Int.eq_neg_natAbs_of_nonpos hneg.le]
  · rw [if_neg (by simpa using hnonneg), Int.natAbs_of_nonneg hnonneg]

/-- The double of such a value has its nearest integer as well. -/
theorem nearestInteger_of_toBinary64 (hsmall : value.num.natAbs < 2 ^ 52)
    (hok : (ofValue value).toBinary64 = .ok x) : NearestInteger value x.nearestInteger := by
  obtain ⟨hnegative, hmagnitude⟩ := parts_of_toBinary64 hok
  obtain ⟨_, hround⟩ :=
    units_nearestMagnitude le_unitExponent hsmall value.den_pos
  have hnearest := nearestInteger_roundQuotient value.num.natAbs value.den_pos
  rw [nearestInteger_eq, hmagnitude, hround, hnegative]
  rcases lt_or_ge value.num 0 with hneg | hnonneg
  · have hvalue : -((value.num.natAbs : Rat) / value.den) = value := by
      rw [← Int.cast_natCast value.num.natAbs, Int.ofNat_natAbs_of_nonpos hneg.le, Int.cast_neg,
        neg_div, neg_neg, Rat.num_div_den]
    rw [if_pos (decide_eq_true hneg)]
    have hopposite := hnearest.neg
    rwa [hvalue] at hopposite
  · have hvalue : (value.num.natAbs : Rat) / value.den = value := by
      rw [← Int.cast_natCast value.num.natAbs, Int.natAbs_of_nonneg hnonneg, Rat.num_div_den]
    rw [if_neg (by simpa using hnonneg)]
    rwa [hvalue] at hnearest

end Ratio

end Polyphony
