/-
**What a run reports beside its results.**

Opening, closing and trusting are reported as events of four levels.  Functions that report return
their events in order beside their result.

Main definitions:

* `JumpHost.Level`, `JumpHost.Event` — levels and events.
-/

set_option autoImplicit false

namespace JumpHost

/-- How much an event matters. -/
inductive Level where
  | debug
  | info
  | warning
  | error
  deriving DecidableEq

/-- A reported event. -/
structure Event where
  level : Level
  message : String
  deriving DecidableEq

end JumpHost
