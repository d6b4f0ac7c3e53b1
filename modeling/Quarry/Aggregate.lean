import Quarry.EntityId
import Quarry.Event

/-!
# Aggregates

An aggregate is what a repository loads and stores as a whole: an entity with its state, the version
of its last write, and the events that it recorded since they were last published. The version
counts the writes, so it is zero as long as the aggregate was never stored. Repositories set it; the
events stay with the caller and are not stored.
-/

namespace Quarry

/-- An aggregate with a state of type `σ` and pending events of type `ε`. -/
structure Aggregate (σ ε : Type) where
  id : EntityId
  /-- The version of the last write. -/
  version : UInt64
  state : σ
  events : Recorder ε

/-- The kind of aggregates whose states are of type `σ`. -/
class AggregateKind (σ : Type) where
  name : String

namespace Aggregate

variable {σ ε : Type}

/-- The aggregate `a` after a write that gave it `version`. -/
def atVersion (a : Aggregate σ ε) (version : UInt64) : Aggregate σ ε :=
  { a with version }

/-- The aggregate `a` with `event` behind its pending events. -/
def record (a : Aggregate σ ε) (event : ε) : Aggregate σ ε :=
  { a with events := a.events.record event }

/-- The aggregate `a` without pending events. -/
def clearEvents (a : Aggregate σ ε) : Aggregate σ ε :=
  { a with events := a.events.drain.2 }

/-- The aggregate `a` has events to publish. -/
def hasPendingEvents (a : Aggregate σ ε) : Bool :=
  !a.events.isEmpty

end Aggregate

end Quarry
