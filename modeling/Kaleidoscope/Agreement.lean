/-! Equality as programs see it.

Numbers follow their own comparison, in which one that is not a number differs from itself;
everything built from numbers follows suit.
-/

set_option autoImplicit false

namespace Kaleidoscope

class Agree (α : Type) where
  agrees : α → α → Bool

export Agree (agrees)

variable {α ε : Type}

def agreesList [Agree α] : List α → List α → Bool
  | [], [] => true
  | first :: rest, other :: others => agrees first other && agreesList rest others
  | [], _ :: _ | _ :: _, [] => false

instance [Agree α] : Agree (List α) := ⟨agreesList⟩

/-- Failures agree only if they are the same. -/
def agreesResult [DecidableEq ε] [Agree α] : Except ε α → Except ε α → Bool
  | .ok value, .ok other => agrees value other
  | .error failure, .error other => failure = other
  | .ok _, .error _ | .error _, .ok _ => false

instance [DecidableEq ε] [Agree α] : Agree (Except ε α) := ⟨agreesResult⟩

end Kaleidoscope
