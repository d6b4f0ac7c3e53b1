import Quarry.Error

/-!
# Mediators

A mediator routes messages to handlers. Each kind of message says what its messages hold and what
they are answered with, and has at most one handler; a later registration replaces an earlier one.
Commands and queries are routed alike and counted apart. Handlers work on a common state of type `σ`
and may refuse a message for a reason of type `ω`.
-/

namespace Quarry

/-- What a message is for. -/
inductive MessageRole where
  /-- It changes the state. -/
  | command
  /-- It asks about the state. -/
  | query
deriving DecidableEq, Repr

/-- Kinds `κ` of messages. -/
class MessageKind (κ : Type) where
  /-- The name of a kind. -/
  name : κ → String
  /-- What the messages of a kind are for. -/
  role : κ → MessageRole
  /-- What a message of a kind holds. -/
  Content : κ → Type
  /-- What a message of a kind is answered with. -/
  Answer : κ → Type

/-- A handler of the messages of `kind`: the answer or the reason of a refusal, and the state
afterwards. -/
abbrev Handler {κ : Type} [MessageKind κ] (σ ω : Type) (kind : κ) :=
  MessageKind.Content kind → σ → Except ω (MessageKind.Answer kind) × σ

/-- Why `Mediator.dispatch` gives no answer. -/
inductive RoutingError (ω : Type) where
  /-- There is no handler for the kind of the message. -/
  | noHandler (kind : String)
  /-- The handler refused the message. -/
  | refused (reason : ω)

instance {ω : Type} [Reported ω] : Reported (RoutingError ω) where
  report
    | .noHandler kind => ⟨"NoHandler", "no handler registered for " ++ kind⟩
    | .refused reason => Reported.report reason

/-- The handlers of some kinds of messages, at most one for each (`register`). -/
structure Mediator (κ : Type) [MessageKind κ] (σ ω : Type) where
  /-- The kinds with their handlers. -/
  routes : List ((kind : κ) × Handler σ ω kind)

namespace Mediator

variable {κ : Type} [MessageKind κ] [DecidableEq κ] {σ ω : Type}

/-- The mediator without handlers. -/
def empty : Mediator κ σ ω := ⟨[]⟩

/-- The first handler of `kind` among some routes. -/
def findRoute (kind : κ) : List ((kind : κ) × Handler σ ω kind) → Option (Handler σ ω kind)
  | [] => none
  | ⟨k, handler⟩ :: rest => if h : k = kind then some (h ▸ handler) else findRoute kind rest

/-- The handler of `kind`, if there is one. -/
def handler? (m : Mediator κ σ ω) (kind : κ) : Option (Handler σ ω kind) :=
  findRoute kind m.routes

/-- There is a handler for `kind`. -/
def handles (m : Mediator κ σ ω) (kind : κ) : Bool :=
  (m.handler? kind).isSome

/-- The mediator with `handler` for `kind`, which replaces an earlier one. -/
def register (m : Mediator κ σ ω) (kind : κ) (handler : Handler σ ω kind) : Mediator κ σ ω :=
  ⟨⟨kind, handler⟩ :: m.routes.filter fun route => route.1 ≠ kind⟩

/-- Hands a message of `kind` with `content` to the handler of its kind. -/
def dispatch (m : Mediator κ σ ω) (kind : κ) (content : MessageKind.Content kind) (state : σ) :
    Except (RoutingError ω) (MessageKind.Answer kind) × σ :=
  match m.handler? kind with
  | none => (.error (.noHandler (MessageKind.name kind)), state)
  | some handler =>
    let (outcome, state) := handler content state
    (outcome.mapError .refused, state)

/-- The number of kinds for `role` that have a handler. -/
def count (m : Mediator κ σ ω) (role : MessageRole) : Nat :=
  m.routes.countP fun route => MessageKind.role route.1 = role

/-- The text of a mediator. -/
def describe (m : Mediator κ σ ω) : String :=
  "Mediator \x7b commands: " ++ toString (m.count .command) ++ ", queries: " ++
    toString (m.count .query) ++ " \x7d"

end Mediator

end Quarry
