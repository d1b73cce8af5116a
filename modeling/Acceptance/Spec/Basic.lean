/-!
# Scenarios

The tree of a specification. An expression is a block of commands under a description, or a chain of expressions of
which all, or at least one, must hold. A scenario has a precondition, behaviors and possibly a cleanup; a behavior
has an action, an expectation or both. The tree only says what to run; how is a matter of evaluation.
-/

namespace Acceptance

/-- What must hold in one place of a scenario. -/
inductive Expression where
  /-- Commands that must all succeed. -/
  | block (description : String) (commands : List String)
  /-- Expressions that must all hold. -/
  | all (children : List Expression)
  /-- Expressions of which one must hold. -/
  | any (children : List Expression)
deriving Repr

namespace Expression

mutual

/-- Decides whether two expressions are equal. -/
def decEq : (a b : Expression) → Decidable (a = b)
  | .block d cs, .block d' cs' =>
    if h : d = d' ∧ cs = cs' then isTrue (by rw [h.1, h.2]) else isFalse fun e => by cases e; exact h ⟨rfl, rfl⟩
  | .all xs, .all ys =>
    match decEqList xs ys with
    | isTrue h => isTrue (by rw [h])
    | isFalse h => isFalse fun e => by cases e; exact h rfl
  | .any xs, .any ys =>
    match decEqList xs ys with
    | isTrue h => isTrue (by rw [h])
    | isFalse h => isFalse fun e => by cases e; exact h rfl
  | .block .., .all _ => isFalse nofun
  | .block .., .any _ => isFalse nofun
  | .all _, .block .. => isFalse nofun
  | .all _, .any _ => isFalse nofun
  | .any _, .block .. => isFalse nofun
  | .any _, .all _ => isFalse nofun

/-- Decides whether two lists of expressions are equal. -/
def decEqList : (xs ys : List Expression) → Decidable (xs = ys)
  | [], [] => isTrue rfl
  | [], _ :: _ => isFalse nofun
  | _ :: _, [] => isFalse nofun
  | x :: xs, y :: ys =>
    match decEq x y, decEqList xs ys with
    | isTrue h, isTrue h' => isTrue (by rw [h, h'])
    | isFalse h, _ => isFalse fun e => by cases e; exact h rfl
    | _, isFalse h => isFalse fun e => by cases e; exact h rfl

end

instance : DecidableEq Expression := decEq

/-- The description of the first block, and nothing if there is no first block. -/
def description : Expression → String
  | .block d _ => d
  | .all [] => ""
  | .all (e :: _) => e.description
  | .any [] => ""
  | .any (e :: _) => e.description

end Expression

/-- What is done and what is expected after it; one of the two may be left out. -/
structure Behavior where
  action : Option Expression
  expectation : Option Expression
deriving DecidableEq, Repr

/-- A precondition, behaviors in order, and possibly a cleanup. -/
structure Scenario where
  precondition : Expression
  behaviors : List Behavior
  cleanup : Option Expression
deriving DecidableEq, Repr

end Acceptance
