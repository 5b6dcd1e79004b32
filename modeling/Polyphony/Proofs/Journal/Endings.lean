import Polyphony.Fault

/-!
# Endings of computations

A computation ends with a result or with a fault. What is known of the result and what is known of
the fault go through a sequence together: the second part starts from what is known of the result of
the first, and both parts have the same faults.
-/

namespace Polyphony

/-- The computation has a result of a kind, or a fault of a kind. -/
def Ends {α : Type} (good : α → Prop) (bad : Fault → Prop) : Except Fault α → Prop
  | .ok a => good a
  | .error fault => bad fault

/-- The computation has a result, or a fault of a kind. -/
abbrev Answers {α : Type} (bad : Fault → Prop) (x : Except Fault α) : Prop :=
  Ends (fun _ => True) bad x

namespace Ends

variable {α β : Type} {good : α → Prop} {bad : Fault → Prop} {x : Except Fault α}

theorem pure {a : α} (ha : good a) : Ends good bad (Pure.pure a : Except Fault α) := ha

theorem throw {fault : Fault} (hfault : bad fault) :
    Ends good bad (MonadExcept.throw fault : Except Fault α) := hfault

/-- A sequence ends as its second part does on the results of the first. -/
theorem bind {between : β → Prop} {x : Except Fault β} {f : β → Except Fault α}
    (hx : Ends between bad x) (hf : ∀ b, between b → Ends good bad (f b)) :
    Ends good bad (x >>= f) := by
  cases x with
  | error fault => exact hx
  | ok b => exact hf b hx

theorem imp {better : α → Prop} (hx : Ends good bad x) (hgood : ∀ a, good a → better a) :
    Ends better bad x := by
  cases x with
  | error fault => exact hx
  | ok a => exact hgood a hx

theorem impFault {worse : Fault → Prop} (hx : Ends good bad x)
    (hbad : ∀ fault, bad fault → worse fault) : Ends good worse x := by
  cases x with
  | error fault => exact hbad fault hx
  | ok a => exact hx

/-- A changed result is still an answer. -/
theorem map {f : α → β} (hx : Answers bad x) : Answers bad (f <$> x) := by
  cases x with
  | error fault => exact hx
  | ok a => trivial

theorem ok {a : α} (hx : Ends good bad x) (hok : x = .ok a) : good a := by
  subst hok
  exact hx

theorem error {fault : Fault} (hx : Ends good bad x) (herror : x = .error fault) : bad fault := by
  subst herror
  exact hx

end Ends

end Polyphony
