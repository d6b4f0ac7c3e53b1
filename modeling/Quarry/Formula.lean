/-!
# Boolean formulas over fallible tests

A formula joins leaves by "and", "or" and "not". What a leaf is and how it is tested is left open: a
stored filter has criteria as leaves, a specification also has predicates that only the program
knows.

A test may fail instead of giving a truth value. Evaluation goes from left to right and stops as
soon as the answer is known, so a failure counts only if its leaf is reached. `Formula.visited` is
the list of the leaves that are reached, in the order in which they are.
-/

namespace Quarry

/-- A boolean formula over leaves of type `ι`. -/
inductive Formula (ι : Type) where
  | const (b : Bool)
  | leaf (l : ι)
  | and (a b : Formula ι)
  | or (a b : Formula ι)
  | not (a : Formula ι)
deriving DecidableEq, Repr

namespace Formula

variable {ι κ ε : Type}

/-- The truth value of a formula over the fallible `test`, or the failure of the last test made. -/
def eval (test : ι → Except ε Bool) : Formula ι → Except ε Bool
  | const b => .ok b
  | leaf l => test l
  | and a b =>
    match eval test a with
    | .ok true => eval test b
    | r => r
  | or a b =>
    match eval test a with
    | .ok false => eval test b
    | r => r
  | not a => (eval test a).map (!·)

/-- The leaves that `eval` tests, in the order in which it does. -/
def visited (test : ι → Except ε Bool) : Formula ι → List ι
  | const _ => []
  | leaf l => [l]
  | and a b =>
    match eval test a with
    | .ok true => visited test a ++ visited test b
    | _ => visited test a
  | or a b =>
    match eval test a with
    | .ok false => visited test a ++ visited test b
    | _ => visited test a
  | not a => visited test a

/-- The items for which `f` holds, in their order. The first failure ends the search. -/
def select {α : Type} (test : α → ι → Except ε Bool) (f : Formula ι) : List α → Except ε (List α)
  | [] => .ok []
  | item :: rest =>
    match eval (test item) f with
    | .error e => .error e
    | .ok true => (select test f rest).map (item :: ·)
    | .ok false => select test f rest

/-- The number of items for which `f` holds. The first failure ends the count. -/
def count {α : Type} (test : α → ι → Except ε Bool) (f : Formula ι) : List α → Except ε Nat
  | [] => .ok 0
  | item :: rest =>
    match eval (test item) f with
    | .error e => .error e
    | .ok true => (count test f rest).map (· + 1)
    | .ok false => count test f rest

/-- The leaves that `select` tests, item by item. -/
def selectVisited {α : Type} (test : α → ι → Except ε Bool) (f : Formula ι) : List α → List ι
  | [] => []
  | item :: rest =>
    match eval (test item) f with
    | .error _ => visited (test item) f
    | .ok _ => visited (test item) f ++ selectVisited test f rest

/-- The leaves from left to right. -/
def leaves : Formula ι → List ι
  | const _ => []
  | leaf l => [l]
  | and a b => leaves a ++ leaves b
  | or a b => leaves a ++ leaves b
  | not a => leaves a

/-- Goes through the leaves from left to right with a state, which each leaf changes by `step`. -/
def foldl {σ : Type} (step : σ → ι → σ) : σ → Formula ι → σ
  | s, const _ => s
  | s, leaf l => step s l
  | s, and a b => foldl step (foldl step s a) b
  | s, or a b => foldl step (foldl step s a) b
  | s, not a => foldl step s a

/-- Replaces every leaf, from left to right, by the result of `f`, which may fail. -/
def mapM {m : Type → Type} [Monad m] (f : ι → m κ) : Formula ι → m (Formula κ)
  | const b => pure (const b)
  | leaf l => do pure (leaf (← f l))
  | and a b => do
    let a' ← mapM f a
    let b' ← mapM f b
    pure (and a' b')
  | or a b => do
    let a' ← mapM f a
    let b' ← mapM f b
    pure (or a' b')
  | not a => do pure (not (← mapM f a))

/-- Checks every leaf from left to right by `f` and reports the first fault. -/
def check (f : ι → Except ε Unit) : Formula ι → Except ε Unit
  | const _ => .ok ()
  | leaf l => f l
  | and a b =>
    match check f a with
    | .ok () => check f b
    | .error e => .error e
  | or a b =>
    match check f a with
    | .ok () => check f b
    | .error e => .error e
  | not a => check f a

/-- The text of a formula whose leaves have the text `leafText`, with parentheses around "and" and
"or". -/
def render (leafText : ι → String) : Formula ι → String
  | const true => "TRUE"
  | const false => "FALSE"
  | leaf l => leafText l
  | and a b => "(" ++ render leafText a ++ " AND " ++ render leafText b ++ ")"
  | or a b => "(" ++ render leafText a ++ " OR " ++ render leafText b ++ ")"
  | not a => "NOT " ++ render leafText a

end Formula

end Quarry
