import Quarry.Mediator
import Quarry.Number
import Quarry.Text.Blank

/-!
# Accounts

An account has a name and points. It is renamed and given points by commands, and asked for both by
queries. The state is a list of accounts, and the handlers of an account work on the one at its
place. Other handlers give fixed answers and leave all accounts alone.
-/

namespace Quarry

/-- A `name` and `points`. -/
structure Account where
  name : String
  points : Int64

/-- The account that nothing was done to: an empty name and no points. -/
def Account.fresh : Account := ⟨"", 0⟩

/-- The messages about an `Account`: two commands and two queries. -/
inductive AccountMessage where
  | rename
  | addPoints
  | name
  | points
deriving DecidableEq, Repr

/-- Why an `AccountMessage` is refused. -/
inductive AccountError where
  | blankName
  /-- The points would not fit in 64 bits. -/
  | pointsOverflow
  | stated (reason : String)

/-- The text of an `AccountError`. -/
def AccountError.message : AccountError → String
  | .blankName => "name cannot be empty"
  | .pointsOverflow => "points overflow"
  | .stated reason => reason

instance : Reported AccountError := ⟨fun e => ⟨"Handler", e.message⟩⟩

namespace AccountMessage

instance : MessageKind AccountMessage where
  name
    | .rename => "RenameCustomer"
    | .addPoints => "AddPoints"
    | .name => "CustomerName"
    | .points => "Points"
  role
    | .rename | .addPoints => .command
    | .name | .points => .query
  Content
    | .rename => String
    | .addPoints => Int64
    | .name | .points => Unit
  Answer
    | .rename => Unit
    | .addPoints | .points => Int64
    | .name => String

end AccountMessage

namespace Account

/-- Gives `a` the name `name`, unless that is blank (`blankName`). -/
def rename (a : Account) (name : String) : Except AccountError Account :=
  if Text.isBlankText name then .error .blankName else .ok { a with name }

/-- Adds `points` to those of `a`, unless the sum does not fit in 64 bits (`pointsOverflow`). -/
def addPoints (a : Account) (points : Int64) : Except AccountError Account :=
  let sum := a.points.toInt + points.toInt
  if -2 ^ 63 ≤ sum ∧ sum < 2 ^ 63 then .ok { a with points := Int64.ofInt sum }
  else .error .pointsOverflow

/-- Applies `change` to the account at `index`, or to `fresh` if there is none, and answers with
`answer` of the changed account. If `change` refuses, `accounts` stay as they are. -/
def changeAt {α : Type} (index : Nat) (change : Account → Except AccountError Account)
    (answer : Account → α) (accounts : List Account) : Except AccountError α × List Account :=
  match change (accounts.getD index fresh) with
  | .ok changed => (.ok (answer changed), accounts.set index changed)
  | .error reason => (.error reason, accounts)

/-- The handlers for the account at `index` of the common list of accounts. -/
def handler (index : Nat) : (kind : AccountMessage) → Handler (List Account) AccountError kind
  | .rename => fun name => changeAt index (·.rename name) fun _ => ()
  | .addPoints => fun points => changeAt index (·.addPoints points) Account.points
  | .name => fun _ => changeAt index .ok Account.name
  | .points => fun _ => changeAt index .ok Account.points

/-- The handlers that know no account: they answer with `text` or with the points negated, or refuse
with `text` in the reason. -/
def fixedHandler (text : String) :
    (kind : AccountMessage) → Handler (List Account) AccountError kind
  | .rename => fun name accounts => (.error (.stated (text ++ name)), accounts)
  | .addPoints => fun (points : Int64) accounts => (.ok (-points), accounts)
  | .name => fun _ accounts => (.ok text, accounts)
  | .points => fun _ accounts => (.error (.stated text), accounts)

end Account

end Quarry
