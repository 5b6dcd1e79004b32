import Polyphony.Mode
import Polyphony.Proofs.Journal.Success

/-!
# The registry of modes

A list of steps passes the check of the registry exactly when it starts at the tonic, ascends and
stays within the octave. So does every mode of a registry that started from the standard one,
however many calls registered modes and however many were refused, and no name is ever lost.
-/

namespace Polyphony.Modes

/-- The steps of a mode. -/
structure Proper (steps : List Int) : Prop where
  /-- The first step is the tonic. -/
  tonic : steps.head? = some 0
  /-- Every step is above those before it. -/
  ascending : steps.Pairwise (· < ·)
  /-- No step leaves the octave. -/
  within : ∀ step ∈ steps, step ≤ 11

/-- Every mode of the registry is a proper one. -/
def Sound (modes : Modes) : Prop :=
  ∀ name steps, modes.steps? name = some steps → Proper steps

/-- The registry after a call that may be refused. A refused call leaves it as it is. -/
def tryRegister (modes : Modes) (call : String × List Int) : Modes :=
  match modes.register call.1 call.2 with
  | .ok later => later
  | .error _ => modes

/-- The registry after a sequence of calls. -/
def registerAll (modes : Modes) (calls : List (String × List Int)) : Modes :=
  calls.foldl tryRegister modes

variable {modes later : Modes} {name : String} {steps : List Int}

/-- The steps of a name are those that it is registered with. -/
theorem steps_eq_ok_iff : modes.steps name = .ok steps ↔ modes.steps? name = some steps := by
  unfold Modes.steps
  cases modes.steps? name <;> simp [pure, Except.pure]

/-- Each step is above the one before it when it is above all before it. -/
theorem ascending_iff : ascending steps ↔ steps.Pairwise (· < ·) := by
  rw [← List.isChain_iff_pairwise]
  fun_induction ascending steps with
  | case1 a b rest ih => simp [ih, List.isChain_cons_cons]
  | case2 steps hshort =>
    match steps with
    | [] => simp
    | [_] => simp
    | a :: b :: rest => exact absurd rfl (hshort a b rest)

/-- The last of ascending steps is the widest. -/
theorem le_getLast_of_pairwise (hascending : steps.Pairwise (· < ·)) {last : Int}
    (hlast : steps.getLast? = some last) : ∀ step ∈ steps, step ≤ last := by
  obtain ⟨front, rfl⟩ := List.getLast?_eq_some_iff.mp hlast
  intro step hstep
  rcases List.mem_append.mp hstep with hfront | hsame
  · exact Int.le_of_lt ((List.pairwise_append.mp hascending).2.2 step hfront last (by simp))
  · exact Int.le_of_eq (List.mem_singleton.mp hsame)

theorem Proper.ne_nil (hproper : Proper steps) : steps ≠ [] := by
  rintro rfl
  exact absurd hproper.tonic (by simp)

/-- The first step of a mode is the tonic. -/
theorem Proper.getElem_zero (hproper : Proper steps) (hpos : 0 < steps.length) : steps[0] = 0 := by
  have htonic := hproper.tonic
  rw [List.head?_eq_getElem?, List.getElem?_eq_getElem hpos] at htonic
  exact Option.some.inj htonic

/-- The check of the registry passes proper modes and nothing else. -/
theorem stepsFault?_eq_none_iff : stepsFault? steps = none ↔ Proper steps := by
  constructor
  · intro hnone
    unfold stepsFault? at hnone
    split at hnone
    case isTrue => exact absurd hnone (by simp)
    case isFalse htonic =>
      split at hnone
      case isTrue => exact absurd hnone (by simp)
      case isFalse hascending =>
        split at hnone
        case isTrue => exact absurd hnone (by simp)
        case isFalse hwide =>
          have hpairwise : steps.Pairwise (· < ·) := ascending_iff.mp (by simpa using hascending)
          refine ⟨not_not.mp htonic, hpairwise, fun step hstep => ?_⟩
          cases hlast : steps.getLast? with
          | none => exact absurd hstep (by simp [List.getLast?_eq_none_iff.mp hlast])
          | some last =>
            have hle := le_getLast_of_pairwise hpairwise hlast step hstep
            rw [hlast, Option.getD_some] at hwide
            omega
  · intro hproper
    have hlast : ¬ 11 < steps.getLast?.getD 0 := by
      have hmem := List.getLast_mem hproper.ne_nil
      rw [List.getLast?_eq_getLast_of_ne_nil hproper.ne_nil, Option.getD_some]
      exact Int.not_lt.mpr (hproper.within _ hmem)
    simp [stepsFault?, hproper.tonic, ascending_iff.mpr hproper.ascending, hlast]

/-- A mode is registered when it is proper. -/
theorem register_eq_ok_iff : modes.register name steps = .ok later ↔
    Proper steps ∧
      later = ⟨(name, steps) :: modes.entries.filter fun entry => entry.1 ≠ name⟩ := by
  rw [← stepsFault?_eq_none_iff]
  unfold register
  cases stepsFault? steps with
  | none => simp [pure, Except.pure, eq_comm]
  | some fault => simp

/-- Leaving out the entry of a name does not matter to other names. -/
theorem lookup_filter_ne {entries : List (String × List Int)} {other : String}
    (hname : other ≠ name) :
    (entries.filter fun entry => entry.1 ≠ name).lookup other = entries.lookup other := by
  induction entries with
  | nil => rfl
  | cons entry entries ih =>
    by_cases hentry : entry.1 = name
    · have hother : (other == entry.1) = false := by simpa [hentry] using hname
      rw [List.filter_cons_of_neg (by simpa using hentry), ih, List.lookup_cons, hother]
    · rw [List.filter_cons_of_pos (by simpa using hentry), List.lookup_cons, List.lookup_cons, ih]

/-- A registered mode is found under its name, and all others as before. -/
theorem steps?_register (hregister : modes.register name steps = .ok later) (other : String) :
    later.steps? other = if other = name then some steps else modes.steps? other := by
  obtain ⟨_, rfl⟩ := register_eq_ok_iff.mp hregister
  unfold steps?
  by_cases hname : other = name
  · simp [hname]
  · rw [if_neg hname, List.lookup_cons, beq_eq_false_iff_ne.mpr hname]
    exact lookup_filter_ne hname

/-- A call that is not refused registers a proper mode. -/
theorem Sound.register (hsound : modes.Sound) (hregister : modes.register name steps = .ok later) :
    later.Sound := by
  intro other found hfound
  rw [steps?_register hregister] at hfound
  split at hfound
  case isTrue =>
    obtain rfl := Option.some.inj hfound
    exact (register_eq_ok_iff.mp hregister).1
  case isFalse => exact hsound other found hfound

/-- A name that is registered stays registered. -/
theorem isSome_steps?_register (hregister : modes.register name steps = .ok later) {other : String}
    (hother : (modes.steps? other).isSome) : (later.steps? other).isSome := by
  rw [steps?_register hregister]
  split
  · rfl
  · exact hother

/-- What registrations keep, and a registry starts with, holds after any calls. -/
theorem registerAll_induction (kept : Modes → Prop)
    (hstep : ∀ modes name steps later, kept modes → modes.register name steps = .ok later →
      kept later)
    (hstart : kept modes) (calls : List (String × List Int)) : kept (modes.registerAll calls) := by
  induction calls generalizing modes with
  | nil => exact hstart
  | cons call calls ih =>
    refine ih ?_
    unfold tryRegister
    split
    case h_1 later hregister => exact hstep modes call.1 call.2 later hstart hregister
    case h_2 => exact hstart

/-- The modes that are registered from the start are proper. -/
theorem standard_sound : standard.Sound := by
  have hall : ∀ entry ∈ standard.entries, stepsFault? entry.2 = none := by decide
  intro name steps hsteps
  obtain ⟨before, after, hentries, _⟩ := List.lookup_eq_some_iff.mp hsteps
  exact stepsFault?_eq_none_iff.mp (hall (name, steps) (by simp [hentries]))

/-- Every mode is proper, whatever calls came before. -/
theorem registerAll_sound (calls : List (String × List Int)) :
    (standard.registerAll calls).Sound :=
  registerAll_induction Sound (fun _ _ _ _ => Sound.register) standard_sound calls

/-- Every name that was registered from the start is registered, whatever calls came before. -/
theorem isSome_steps?_registerAll (hname : (modes.steps? name).isSome)
    (calls : List (String × List Int)) : ((modes.registerAll calls).steps? name).isSome :=
  registerAll_induction (fun modes => (modes.steps? name).isSome)
    (fun _ _ _ _ hkept hregister => isSome_steps?_register hregister hkept) hname calls

end Polyphony.Modes
