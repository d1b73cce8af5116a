import Acceptance.Source.Basic

/-!
# Filtered sources

A filtered source passes over the items its judge rejects. The judge is asked about every item once, in order, and
may keep a state of its own; stops and failures pass through.
-/

namespace Acceptance

/-- A verdict on an item, and the judge's state after it. -/
abbrev Judge (κ α : Type) := α → κ → Bool × κ

namespace Judge

/-- The judge without a state. -/
def ofPredicate (p : α → Bool) : Judge Unit α := fun a _ => (p a, ())

/-- Accepts what both accept; the second is asked only about what the first accepts. -/
def both (f : Judge κ α) (g : Judge μ α) : Judge (κ × μ) α := fun a s =>
  match f a s.1 with
  | (true, k) => ((g a s.2).1, k, (g a s.2).2)
  | (false, k) => (false, k, s.2)

end Judge

/-- A source whose items are judged. -/
structure Filtered (σ : Type) (κ α : Type) where
  source : σ
  judge : Judge κ α
  state : κ

namespace Filtered

variable {σ κ α ε : Type} [Source σ α ε]

/-- The items of `source` that satisfy `p`. -/
def ofPredicate (source : σ) (p : α → Bool) : Filtered σ Unit α := ⟨source, .ofPredicate p, ()⟩

/-- Pulls until the judge accepts an item, or there is none. -/
def pull (s : Filtered σ κ α) : Answer α ε × Filtered σ κ α :=
  match _h : Source.pull s.source with
  | (.item a, rest) =>
    match s.judge a s.state with
    | (true, k) => (.item a, { s with source := rest, state := k })
    | (false, k) => pull { s with source := rest, state := k }
  | (.stop, rest) => (.stop, { s with source := rest })
  | (.failed e, rest) => (.failed e, { s with source := rest })
termination_by Source.size s.source
decreasing_by exact Source.size_lt_of_pull _h

theorem size_pull_le (s : Filtered σ κ α) : Source.size (pull s).2.source ≤ Source.size s.source := by
  fun_induction pull s with
  | case1 s a rest h k hj => exact Source.size_le_of_pull h
  | case2 s a rest h k hj ih => exact Nat.le_trans ih (Source.size_le_of_pull h)
  | case3 s rest h => exact Source.size_le_of_pull h
  | case4 s e rest h => exact Source.size_le_of_pull h

theorem size_pull_lt (s : Filtered σ κ α) (b : α) (hb : (pull s).1 = .item b) :
    Source.size (pull s).2.source < Source.size s.source := by
  fun_induction pull s with
  | case1 s a rest h k hj => exact Source.size_lt_of_pull h
  | case2 s a rest h k hj ih => exact Nat.lt_trans (ih hb) (Source.size_lt_of_pull h)
  | case3 s rest h => cases hb
  | case4 s e rest h => cases hb

end Filtered

instance [Source σ α ε] : Source (Filtered σ κ α) α ε where
  pull := Filtered.pull
  size s := Source.size s.source
  size_le := Filtered.size_pull_le
  size_lt := Filtered.size_pull_lt

end Acceptance
