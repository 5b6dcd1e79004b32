import Mathlib.Order.Monotone.Basic
import Polyphony.Proofs.Mode.Registry

/-!
# Degrees of a scale

A degree is a whole number of octaves and a step of the mode. So the pitches of the degrees ascend,
come back an octave higher after all steps of the mode, and are exactly the pitches whose pitch
class is in the scale, each of them once.
-/

namespace Polyphony.Modes

variable {steps : List Int} {tonic : PitchClass} {octave : Int}

/-- A degree that is a number of octaves and a step is that step in the octave. -/
theorem pitchOfDegree_of_step {i : Nat} (hi : i < steps.length) (tonic : PitchClass)
    (octaves octave : Int) :
    pitchOfDegree steps tonic (steps.length * octaves + i) octave =
      12 * (octave + octaves) + tonic.number + steps[i] := by
  have hnonneg : (0 : Int) ≤ steps.length := Int.natCast_nonneg _
  have hlt : (i : Int) < steps.length := by exact_mod_cast hi
  have hpos : (steps.length : Int) ≠ 0 := by omega
  have hquotient : ((steps.length : Int) * octaves + i).fdiv steps.length = octaves := by
    rw [Int.fdiv_eq_ediv_of_nonneg _ hnonneg, Int.mul_add_ediv_left _ _ hpos,
      Int.ediv_eq_zero_of_lt (Int.natCast_nonneg i) hlt, Int.add_zero]
  have hrest : ((steps.length : Int) * octaves + i).fmod steps.length = i := by
    rw [Int.fmod_eq_emod_of_nonneg _ hnonneg, Int.mul_add_emod_self_left,
      Int.emod_eq_of_lt (Int.natCast_nonneg i) hlt]
  simp only [pitchOfDegree, hquotient, hrest, Int.toNat_natCast]
  rw [List.getD_eq_getElem?_getD, List.getElem?_eq_getElem hi, Option.getD_some]

/-- Every degree is a number of octaves and a step. -/
theorem exists_step (hsteps : steps ≠ []) (degree : Int) :
    ∃ (octaves : Int) (i : Nat), i < steps.length ∧ degree = steps.length * octaves + i := by
  have hpos : (0 : Int) < steps.length := by exact_mod_cast List.length_pos_of_ne_nil hsteps
  have hnonneg := Int.emod_nonneg degree hpos.ne'
  have hlt := Int.emod_lt_of_pos degree hpos
  refine ⟨degree / steps.length, (degree % steps.length).toNat, by omega, ?_⟩
  rw [Int.toNat_of_nonneg hnonneg, Int.mul_ediv_add_emod]

/-- As many degrees further on as the mode has steps stands the pitch an octave higher. -/
theorem pitchOfDegree_add_length (hsteps : steps ≠ []) (tonic : PitchClass)
    (degree octave : Int) :
    pitchOfDegree steps tonic (degree + steps.length) octave =
      pitchOfDegree steps tonic degree octave + 12 := by
  obtain ⟨octaves, i, hi, rfl⟩ := exists_step hsteps degree
  have hnext : (steps.length : Int) * octaves + i + steps.length =
      steps.length * (octaves + 1) + i := by
    rw [Int.mul_add, Int.mul_one]
    omega
  rw [hnext, pitchOfDegree_of_step hi, pitchOfDegree_of_step hi]
  omega

theorem pitchOfDegree_add_octave (steps : List Int) (tonic : PitchClass) (degree octave : Int) :
    pitchOfDegree steps tonic degree (octave + 1) =
      pitchOfDegree steps tonic degree octave + 12 := by
  simp only [pitchOfDegree]
  omega

/-- The next degree is higher: within an octave as the next step is, and from the last step, which
stays within the octave, to the tonic of the next. -/
theorem pitchOfDegree_lt_succ (hproper : Proper steps) (tonic : PitchClass) (octave degree : Int) :
    pitchOfDegree steps tonic degree octave < pitchOfDegree steps tonic (degree + 1) octave := by
  obtain ⟨octaves, i, hi, rfl⟩ := exists_step hproper.ne_nil degree
  rw [pitchOfDegree_of_step hi]
  by_cases hlast : i + 1 < steps.length
  · have hascends := List.pairwise_iff_getElem.mp hproper.ascending i (i + 1) hi hlast (by omega)
    have hnext : (steps.length : Int) * octaves + i + 1 =
        steps.length * octaves + (i + 1 : Nat) := by omega
    rw [hnext, pitchOfDegree_of_step hlast]
    omega
  · have hwithin := hproper.within steps[i] (List.getElem_mem hi)
    have hpos : 0 < steps.length := by omega
    have hnext : (steps.length : Int) * octaves + i + 1 =
        steps.length * (octaves + 1) + (0 : Nat) := by
      rw [Int.mul_add, Int.mul_one]
      omega
    rw [hnext, pitchOfDegree_of_step hpos, hproper.getElem_zero hpos]
    omega

/-- The pitches of degrees ascend. -/
theorem pitchOfDegree_lt (hproper : Proper steps) (tonic : PitchClass) (octave : Int)
    {low high : Int} (hlt : low < high) :
    pitchOfDegree steps tonic low octave < pitchOfDegree steps tonic high octave := by
  have hmono : StrictMono fun degree => pitchOfDegree steps tonic degree octave :=
    strictMono_int_of_lt_succ (pitchOfDegree_lt_succ hproper tonic octave)
  exact hmono hlt

/-- A mode has a step at the most for each semitone of the octave: degrees are at least a semitone
apart, and the octave comes after as many degrees as there are steps. -/
theorem Proper.length_le (hproper : Proper steps) : steps.length ≤ 12 := by
  have hsemitone (i : Nat) :
      pitchOfDegree steps 0 0 0 + i ≤ pitchOfDegree steps 0 i 0 := by
    induction i with
    | zero => simp
    | succ i ih =>
      have hstep := pitchOfDegree_lt_succ hproper 0 0 i
      push_cast
      omega
  have hoctave := pitchOfDegree_add_length hproper.ne_nil 0 0 0
  have hlast := hsemitone steps.length
  rw [Int.zero_add] at hoctave
  omega

/-- The pitch classes of a scale are those that its degrees have. -/
theorem mem_scale_iff (hsteps : steps ≠ []) (octave p : Int) :
    p % 12 ∈ steps.map (fun step => (tonic.number + step) % 12) ↔
      ∃ degree, pitchOfDegree steps tonic degree octave = p := by
  constructor
  · intro hmem
    obtain ⟨step, hstep, hclass⟩ := List.mem_map.mp hmem
    obtain ⟨i, hi, rfl⟩ := List.mem_iff_getElem.mp hstep
    -- The octaves between the pitch and its step, counted from the octave of the scale.
    refine ⟨steps.length * ((p - tonic.number - steps[i]) / 12 - octave) + i, ?_⟩
    rw [pitchOfDegree_of_step hi]
    omega
  · rintro ⟨degree, rfl⟩
    obtain ⟨octaves, i, hi, rfl⟩ := exists_step hsteps degree
    refine List.mem_map.mpr ⟨steps[i], List.getElem_mem hi, ?_⟩
    rw [pitchOfDegree_of_step hi]
    omega

/-- Degrees enumerate a scale. Whatever calls have registered modes or were refused, every
registered mode starts at the tonic, ascends and stays within the octave. In every key of it, and
from every octave, all degrees have pitches, negative degrees included. The pitches ascend, and are
an octave higher after as many degrees as the mode has steps or one octave further up; and a pitch
is that of some degree, and then of one only, exactly when its pitch class is in the scale. -/
theorem degrees_enumerate_scale (calls : List (String × List Int)) {name : String}
    {steps : List Int} (hsteps : (standard.registerAll calls).steps name = .ok steps) :
    (steps ≠ [] ∧ steps.head? = some 0 ∧ steps.Pairwise (· < ·) ∧ ∀ step ∈ steps, step ≤ 11) ∧
    ∀ (tonic : PitchClass) (octave : Int), ∃ (classes : List Int) (pitch : Int → Int),
      (standard.registerAll calls).scale tonic.number name = .ok classes ∧
      (∀ degree, (standard.registerAll calls).degree ⟨tonic, name⟩ degree octave =
        .ok (pitch degree)) ∧
      (∀ low high, low < high → pitch low < pitch high) ∧
      (∀ degree, pitch (degree + steps.length) = pitch degree + 12 ∧
        (standard.registerAll calls).degree ⟨tonic, name⟩ degree (octave + 1) =
          .ok (pitch degree + 12)) ∧
      (∀ degree, pitch degree % 12 ∈ classes) ∧
      ∀ p, p % 12 ∈ classes → ∃! degree, pitch degree = p := by
  have hproper : Proper steps := registerAll_sound calls name steps (steps_eq_ok_iff.mp hsteps)
  have hne := hproper.ne_nil
  refine ⟨⟨hne, hproper.tonic, hproper.ascending, hproper.within⟩, fun tonic octave => ?_⟩
  have hdegree (octave degree : Int) :
      (standard.registerAll calls).degree ⟨tonic, name⟩ degree octave =
        .ok (pitchOfDegree steps tonic degree octave) := by
    rw [Modes.degree, hsteps]
    rfl
  have hascends (low high : Int) : low < high →
      pitchOfDegree steps tonic low octave < pitchOfDegree steps tonic high octave :=
    pitchOfDegree_lt hproper tonic octave
  refine ⟨steps.map fun step => (tonic.number + step) % 12,
    fun degree => pitchOfDegree steps tonic degree octave, ?_, hdegree octave, hascends, ?_, ?_, ?_⟩
  · rw [scale, hsteps]
    rfl
  · intro degree
    refine ⟨pitchOfDegree_add_length hne tonic degree octave, ?_⟩
    rw [hdegree, pitchOfDegree_add_octave]
  · exact fun degree => (mem_scale_iff hne octave _).mpr ⟨degree, rfl⟩
  · intro p hp
    obtain ⟨degree, hdegree⟩ := (mem_scale_iff hne octave p).mp hp
    refine ⟨degree, hdegree, fun other hother => ?_⟩
    rcases lt_trichotomy other degree with hlt | heq | hgt
    · have hbelow := hascends other degree hlt
      exact absurd (hother.trans hdegree.symm) hbelow.ne
    · exact heq
    · have habove := hascends degree other hgt
      exact absurd (hother.trans hdegree.symm) habove.ne'

/-- Two calls that register a mode of five steps, and a call that is refused for going too wide. -/
def pentatonicCalls : List (String × List Int) :=
  [("hirajoshi", [0, 2, 3, 7]), ("broken", [0, 5, 12]), ("hirajoshi", [0, 2, 3, 7, 8])]

/-- The last of the two modes counts, and the degree before its tonic on D is the B flat below. -/
theorem pentatonicCalls_enumerate :
    (standard.registerAll pentatonicCalls).steps "hirajoshi" = .ok [0, 2, 3, 7, 8] ∧
    (standard.registerAll pentatonicCalls).steps? "broken" = none ∧
    ∃ (classes : List Int) (pitch : Int → Int),
      (standard.registerAll pentatonicCalls).scale 2 "hirajoshi" = .ok classes ∧
      (∀ low high, low < high → pitch low < pitch high) ∧ pitch 4 = pitch (-1) + 12 ∧
      (standard.registerAll pentatonicCalls).degree ⟨2, "hirajoshi"⟩ (-1) 1 = .ok 10 ∧
      ∃! degree, pitch degree = -2 := by
  have hsteps : (standard.registerAll pentatonicCalls).steps "hirajoshi" =
      .ok [0, 2, 3, 7, 8] := by decide
  obtain ⟨_, henumerates⟩ := degrees_enumerate_scale pentatonicCalls hsteps
  obtain ⟨classes, pitch, hscale, _, hascends, hperiod, _, honce⟩ := henumerates 2 0
  have hclasses : (standard.registerAll pentatonicCalls).scale 2 "hirajoshi" =
      .ok [2, 4, 5, 9, 10] := by decide
  obtain rfl := Except.ok.inj (hclasses.symm.trans hscale)
  have hfour : pitch 4 = pitch (-1) + 12 := by simpa using (hperiod (-1)).1
  exact ⟨hsteps, by decide, _, pitch, hscale, hascends, hfour, by decide, honce (-2) (by decide)⟩

end Polyphony.Modes
