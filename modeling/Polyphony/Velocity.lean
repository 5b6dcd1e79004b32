/-!
# Volumes

How loud a note is. Events may carry any integer; messages carry 0 to 127.
-/

namespace Polyphony.Velocity

/-- The softest volume of a message. -/
def lowest : Int := 0

/-- The loudest volume of a message. -/
def highest : Int := 127

/-- The volume of the default context. -/
def standard : Int := 127

/-- The nearest volume that a message can carry. -/
def clamp (volume : Int) : Int :=
  max lowest (min highest volume)

end Polyphony.Velocity
