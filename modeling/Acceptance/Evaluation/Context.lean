import Acceptance.Spec.Basic

/-!
# Evaluating expressions

An expression is evaluated in a context, which says how a block is run and how the evaluations of the children of a
chain are combined. An evaluation changes a state and ends in a truth value or an error; the state is kept in either
case. `Evaluation.allOf` and `Evaluation.anyOf` stop at the first child that decides, `Evaluation.everyAllOf` and
`Evaluation.everyAnyOf` evaluate all children; all of them stop at an error.
-/

namespace Acceptance

/-- An evaluation that ends in a truth value or an error. -/
abbrev Evaluation (σ ε : Type) := σ → Except ε Bool × σ

namespace Evaluation

/-- Evaluates until one is false. -/
def allOf : List (Evaluation σ ε) → Evaluation σ ε
  | [], s => (.ok true, s)
  | e :: es, s =>
    match e s with
    | (.ok true, s) => allOf es s
    | (.ok false, s) => (.ok false, s)
    | (.error x, s) => (.error x, s)

/-- Evaluates until one is true. -/
def anyOf : List (Evaluation σ ε) → Evaluation σ ε
  | [], s => (.ok false, s)
  | e :: es, s =>
    match e s with
    | (.ok true, s) => (.ok true, s)
    | (.ok false, s) => anyOf es s
    | (.error x, s) => (.error x, s)

/-- Evaluates all, and combines their values with `combine`, starting from `value`. -/
def every (combine : Bool → Bool → Bool) (value : Bool) : List (Evaluation σ ε) → Evaluation σ ε
  | [], s => (.ok value, s)
  | e :: es, s =>
    match e s with
    | (.ok b, s) => every combine (combine value b) es s
    | (.error x, s) => (.error x, s)

/-- Evaluates all; true if all are. -/
def everyAllOf (es : List (Evaluation σ ε)) : Evaluation σ ε := every and true es

/-- Evaluates all; true if one is. -/
def everyAnyOf (es : List (Evaluation σ ε)) : Evaluation σ ε := every or false es

end Evaluation

/-- How blocks are run and the children of chains combined. -/
structure Context (σ ε : Type) where
  run : String → List String → Evaluation σ ε
  all : List (Evaluation σ ε) → Evaluation σ ε
  any : List (Evaluation σ ε) → Evaluation σ ε

namespace Expression

mutual

/-- Evaluates an expression in a context. -/
def eval (ctx : Context σ ε) : Expression → Evaluation σ ε
  | .block d cs => ctx.run d cs
  | .all children => ctx.all (evals ctx children)
  | .any children => ctx.any (evals ctx children)

def evals (ctx : Context σ ε) : List Expression → List (Evaluation σ ε)
  | [] => []
  | e :: es => e.eval ctx :: evals ctx es

end

end Expression

end Acceptance
