import Acceptance.Evaluation.Context

/-!
# Contexts that record

Contexts in which nothing is run: the value of a block is looked up by its description, and every request made of the
context is recorded. The short context stops a chain at the first child that decides, the full one evaluates all
children.
-/

namespace Acceptance

/-- What a context is asked to do. -/
inductive Call where
  | run (description : String) (commands : List String)
  /-- A chain of so many children of which all must hold. -/
  | all (children : Nat)
  /-- A chain of so many children of which one must hold. -/
  | any (children : Nat)
deriving DecidableEq, Repr

namespace Recording

/-- Records a call before an evaluation. -/
def noting (call : Call) (e : Evaluation (List Call) ε) : Evaluation (List Call) ε := fun calls => e (calls ++ [call])

/-- The value that the table gives. -/
def lookUp (table : String → Except ε Bool) (description : String) : Evaluation (List Call) ε :=
  fun calls => (table description, calls)

/-- The context that stops at the child that decides. -/
def short (table : String → Except ε Bool) : Context (List Call) ε where
  run d cs := noting (.run d cs) (lookUp table d)
  all es := noting (.all es.length) (Evaluation.allOf es)
  any es := noting (.any es.length) (Evaluation.anyOf es)

/-- The context that evaluates all children. -/
def full (table : String → Except ε Bool) : Context (List Call) ε where
  run d cs := noting (.run d cs) (lookUp table d)
  all es := noting (.all es.length) (Evaluation.everyAllOf es)
  any es := noting (.any es.length) (Evaluation.everyAnyOf es)

end Recording

end Acceptance
