import Mathlib.Data.Nat.Log
import Mathlib.Tactic.Linarith
import Mathlib.Tactic.Ring
import Polyphony.Binary64.Rounding

/-!
# Monotone rounding

Rounding a quotient to the nearest double keeps the order of quotients, and leaves quotients alone
that are doubles already. So the magnitudes of two results compare as the exact results do, also
where the number of bits to round away differs between them.
-/

namespace Polyphony

section RoundQuotient

variable {numer denom : Nat}

/-- A quotient is rounded down or up to a neighbouring integer. -/
theorem div_le_roundQuotient (numer denom : Nat) : numer / denom ≤ roundQuotient numer denom := by
  unfold roundQuotient
  dsimp only
  split <;> omega

theorem roundQuotient_le_succ (numer denom : Nat) :
    roundQuotient numer denom ≤ numer / denom + 1 := by
  unfold roundQuotient
  dsimp only
  split <;> omega

/-- A whole quotient is not rounded. -/
theorem roundQuotient_mul_right (quotient : Nat) (hdenom : 0 < denom) :
    roundQuotient (quotient * denom) denom = quotient := by
  have hrest : quotient * denom % denom = 0 := Nat.mul_mod_left ..
  have hquotient : quotient * denom / denom = quotient := Nat.mul_div_cancel _ hdenom
  unfold roundQuotient
  dsimp only
  rw [hrest, hquotient, if_neg (by omega)]

/-- The quotients are in the order of their cross products. -/
theorem div_le_div_of_cross {a b c d : Nat} (hd : 0 < d) (hle : a * d ≤ c * b) : a / b ≤ c / d := by
  rw [Nat.le_div_iff_mul_le hd]
  rcases Nat.eq_zero_or_pos b with rfl | hb
  · simp
  · refine Nat.le_of_mul_le_mul_right ?_ hb
    calc a / b * d * b = a / b * b * d := Nat.mul_right_comm ..
      _ ≤ a * d := Nat.mul_le_mul_right d (Nat.div_mul_le_self a b)
      _ ≤ c * b := hle

/-- Rounding keeps the order of quotients. With one integer part, it is the rests that are in
order, and of two of them the larger is rounded up if the smaller is. -/
theorem roundQuotient_mono {a b c d : Nat} (hb : 0 < b) (hd : 0 < d) (hle : a * d ≤ c * b) :
    roundQuotient a b ≤ roundQuotient c d := by
  have hquotient : a / b ≤ c / d := div_le_div_of_cross hd hle
  rcases hquotient.lt_or_eq with hlt | heq
  · calc roundQuotient a b ≤ a / b + 1 := roundQuotient_le_succ a b
      _ ≤ c / d := hlt
      _ ≤ roundQuotient c d := div_le_roundQuotient c d
  · have hrest : a % b * d ≤ c % d * b := by
      have ha : b * (a / b) + a % b = a := Nat.div_add_mod a b
      have hc : d * (c / d) + c % d = c := Nat.div_add_mod c d
      rw [← ha, ← hc, heq] at hle
      nlinarith
    unfold roundQuotient
    dsimp only
    rw [heq]
    have hup : b < 2 * (a % b) → d < 2 * (c % d) := by
      intro h
      nlinarith
    have htie : 2 * (a % b) = b → d ≤ 2 * (c % d) := by
      intro h
      nlinarith
    split <;> split <;> omega

end RoundQuotient

namespace Binary64

/-- What is left of a number of units without its excess bits has at most 53 bits. -/
theorem shifted_lt (units : Nat) : units / 2 ^ excessBits units < 2 ^ 53 := by
  rw [Nat.div_lt_iff_lt_mul (by positivity), ← Nat.pow_add]
  refine Nat.lt_log2_self.trans_le (Nat.pow_le_pow_right (by decide) ?_)
  unfold excessBits
  omega

/-- Where there are excess bits, just 53 bits are left without them. -/
theorem le_shifted {units : Nat} (hexcess : 0 < excessBits units) :
    2 ^ 52 ≤ units / 2 ^ excessBits units := by
  have hlog : 52 + excessBits units = units.log2 := by
    unfold excessBits at *
    omega
  have hunits : units ≠ 0 := by
    rintro rfl
    simp [excessBits] at hexcess
  rw [Nat.le_div_iff_mul_le (by positivity), ← Nat.pow_add, hlog]
  exact Nat.log2_self_le hunits

theorem excessBits_mono {small large : Nat} (hle : small ≤ large) :
    excessBits small ≤ excessBits large := by
  simp only [excessBits, Nat.log2_eq_log_two]
  exact Nat.sub_le_sub_right (Nat.log_mono_right hle) 52

/-- A shifted number of 53 bits exceeds them by the shift. -/
theorem excessBits_shifted {units : Nat} (hle : 2 ^ 52 ≤ units) (hlt : units < 2 ^ 53)
    (shift : Nat) : excessBits (units * 2 ^ shift) = shift := by
  have hpow : 0 < 2 ^ shift := by positivity
  have hlog : (units * 2 ^ shift).log2 = 52 + shift := by
    rw [Nat.log2_eq_iff (by positivity), Nat.pow_add, Nat.add_right_comm, Nat.pow_add]
    exact ⟨Nat.mul_le_mul_right _ hle, Nat.mul_lt_mul_of_pos_right hlt hpow⟩
  rw [excessBits, hlog, Nat.add_sub_cancel_left]

theorem nearestMagnitude_eq (numer denom : Nat) :
    nearestMagnitude numer denom =
      excessBits (numer / denom) * 2 ^ 52 +
        roundQuotient numer (denom * 2 ^ excessBits (numer / denom)) := rfl

@[simp] theorem nearestMagnitude_zero (denom : Nat) : nearestMagnitude 0 denom = 0 := by
  simp [nearestMagnitude, roundQuotient, excessBits]

/-- A larger quotient of units has no smaller magnitude. Where it has more excess bits, they alone
make up for all that the other quotient has left. -/
theorem nearestMagnitude_mono {a b c d : Nat} (hb : 0 < b) (hd : 0 < d) (hle : a * d ≤ c * b) :
    nearestMagnitude a b ≤ nearestMagnitude c d := by
  have hexcess : excessBits (a / b) ≤ excessBits (c / d) :=
    excessBits_mono (div_le_div_of_cross hd hle)
  rw [nearestMagnitude_eq, nearestMagnitude_eq]
  rcases hexcess.eq_or_lt with heq | hlt
  · rw [heq]
    refine Nat.add_le_add_left (roundQuotient_mono (by positivity) (by positivity) ?_) _
    calc a * (d * 2 ^ excessBits (c / d)) = a * d * 2 ^ excessBits (c / d) := by ring
      _ ≤ c * b * 2 ^ excessBits (c / d) := Nat.mul_le_mul_right _ hle
      _ = c * (b * 2 ^ excessBits (c / d)) := by ring
  · have hsmall := roundQuotient_le_succ a (b * 2 ^ excessBits (a / b))
    have hlarge := div_le_roundQuotient c (d * 2 ^ excessBits (c / d))
    rw [← Nat.div_div_eq_div_mul] at hsmall hlarge
    have hbelow := shifted_lt (a / b)
    have habove := le_shifted (Nat.zero_lt_of_lt hlt)
    omega

theorem magnitudeUnits_of_lt {magnitude : Nat} (hlt : magnitude < 2 ^ 52) :
    magnitudeUnits magnitude = magnitude := by
  simp only [magnitudeUnits, Nat.pow_eq]
  rw [if_pos (Nat.div_eq_of_lt hlt), Nat.mod_eq_of_lt hlt]

/-- From 53 bits on, a magnitude splits into its excess bits and what is left without them. -/
theorem magnitudeUnits_of_le {magnitude : Nat} (hle : 2 ^ 52 ≤ magnitude) :
    magnitudeUnits magnitude =
      (2 ^ 52 + magnitude % 2 ^ 52) * 2 ^ (magnitude / 2 ^ 52 - 1) := by
  have hexponent : magnitude / 2 ^ 52 ≠ 0 := by omega
  simp only [magnitudeUnits, Nat.pow_eq]
  rw [if_neg hexponent]

/-- The units of a double are rounded to the double itself. -/
theorem nearestMagnitude_magnitudeUnits (magnitude : Nat) :
    nearestMagnitude (magnitudeUnits magnitude) 1 = magnitude := by
  rw [nearestMagnitude_eq, Nat.div_one, Nat.one_mul]
  rcases Nat.lt_or_ge magnitude (2 ^ 52) with hlt | hle
  · have hexcess : excessBits magnitude = 0 :=
      Nat.le_zero.mp ((excessBits_mono hlt.le).trans_eq (by rw [excessBits, Nat.log2_two_pow]))
    have hround := roundQuotient_mul_right magnitude Nat.one_pos
    rw [Nat.mul_one] at hround
    rw [magnitudeUnits_of_lt hlt, hexcess, Nat.pow_zero, hround, Nat.zero_mul, Nat.zero_add]
  · have hfraction : magnitude % 2 ^ 52 < 2 ^ 52 := Nat.mod_lt _ (by positivity)
    rw [magnitudeUnits_of_le hle, excessBits_shifted (by omega) (by omega),
      roundQuotient_mul_right _ (by positivity)]
    omega

/-- Magnitudes are in the order of their units. -/
theorem magnitudeUnits_le_iff {small large : Nat} :
    magnitudeUnits small ≤ magnitudeUnits large ↔ small ≤ large := by
  have hmono {a b : Nat} (hle : magnitudeUnits a ≤ magnitudeUnits b) : a ≤ b := by
    have h := nearestMagnitude_mono Nat.one_pos Nat.one_pos (Nat.mul_le_mul_right 1 hle)
    rwa [nearestMagnitude_magnitudeUnits, nearestMagnitude_magnitudeUnits] at h
  refine ⟨hmono, fun hle => ?_⟩
  by_contra hgt
  obtain rfl : small = large := hle.antisymm (hmono (Nat.le_of_not_le hgt))
  exact hgt le_rfl

end Binary64

end Polyphony
