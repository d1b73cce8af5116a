import Acceptance.Source.Basic

/-!
# Counted pulls

A source that counts how often it is pulled and keeps the items it has given, in order.
-/

namespace Acceptance

/-- A source with a record of its pulls. -/
structure Tally (σ α : Type) where
  source : σ
  /-- How many pulls there were, stops and failures included. -/
  pulls : Nat
  /-- The items given so far. -/
  given : List α

namespace Tally

variable {σ α ε : Type} [Source σ α ε]

/-- A source that has not been pulled. -/
def ofSource (source : σ) : Tally σ α := ⟨source, 0, []⟩

/-- The items given so far, after one more answer. -/
def record (given : List α) : Answer α ε → List α
  | .item a => given ++ [a]
  | _ => given

/-- Pulls and records the pull. -/
def pull (s : Tally σ α) : Answer α ε × Tally σ α :=
  ((Source.pull s.source).1,
    ⟨(Source.pull s.source).2, s.pulls + 1, record s.given (Source.pull s.source).1⟩)

end Tally

instance [Source σ α ε] : Source (Tally σ α) α ε where
  pull := Tally.pull
  size s := Source.size s.source
  size_le s := Source.size_le s.source
  size_lt s a := Source.size_lt s.source a

end Acceptance
