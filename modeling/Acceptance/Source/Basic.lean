/-!
# Sources

A source is pulled for one item at a time. A pull gives an item, or says that the input stops here, or fails; neither
a stop nor a failure is final, and a later pull may give items again. Every source holds finitely many items: its
size falls with each item it gives and never grows, which is why loops over sources end.

A script is the simplest source: the list of answers it will give, and a stop ever after.
-/

namespace Acceptance

/-- What one pull gives. -/
inductive Answer (α ε : Type) where
  | item (a : α)
  | stop
  | failed (e : ε)
deriving DecidableEq, Repr

/-- A state that can be pulled for items. -/
class Source (σ : Type u) (α ε : outParam Type) where
  /-- One pull, and the state after it. -/
  pull : σ → Answer α ε × σ
  /-- A bound on the number of items left. -/
  size : σ → Nat
  size_le : ∀ s, size (pull s).2 ≤ size s
  size_lt : ∀ s a, (pull s).1 = .item a → size (pull s).2 < size s

namespace Source

variable {σ : Type u} {α ε : Type} [Source σ α ε]

theorem size_le_of_pull {s t : σ} {x : Answer α ε} (h : pull s = (x, t)) : size t ≤ size s := by
  have := size_le s
  rwa [h] at this

theorem size_lt_of_pull {s t : σ} {a : α} (h : pull s = (.item a, t)) : size t < size s := by
  have := size_lt s a (by rw [h])
  rwa [h] at this

/-- Pulls until there is an item that `p` accepts, or none. -/
def seek (p : α → Bool) (s : σ) : Answer α ε × σ :=
  match _h : pull s with
  | (.item a, rest) => if p a then (.item a, rest) else seek p rest
  | (.stop, rest) => (.stop, rest)
  | (.failed e, rest) => (.failed e, rest)
termination_by size s
decreasing_by exact size_lt_of_pull _h

theorem seek_of_item (p : α → Bool) {s t : σ} {a : α} (h : pull s = (.item a, t)) :
    seek p s = if p a then (.item a, t) else seek p t := by
  rw [seek]
  split <;> simp_all

theorem seek_of_stop (p : α → Bool) {s t : σ} (h : pull s = (.stop, t)) : seek p s = (.stop, t) := by
  rw [seek]
  split <;> simp_all

theorem seek_of_failed (p : α → Bool) {s t : σ} {e : ε} (h : pull s = (.failed e, t)) :
    seek p s = (.failed e, t) := by
  rw [seek]
  split <;> simp_all

theorem size_seek_le (p : α → Bool) (s : σ) : size (seek p s).2 ≤ size s := by
  fun_induction seek p s with
  | case1 s a rest h ha => exact size_le_of_pull h
  | case2 s a rest h ha ih => exact Nat.le_trans ih (size_le_of_pull h)
  | case3 s rest h => exact size_le_of_pull h
  | case4 s e rest h => exact size_le_of_pull h

theorem size_seek_lt (p : α → Bool) (s : σ) (b : α) (hb : (seek p s).1 = .item b) : size (seek p s).2 < size s := by
  fun_induction seek p s with
  | case1 s a rest h ha => exact size_lt_of_pull h
  | case2 s a rest h ha ih => exact Nat.lt_trans (ih hb) (size_lt_of_pull h)
  | case3 s rest h => cases hb
  | case4 s e rest h => cases hb

/-- The answers of `n` pulls, one after the other. -/
def answers : Nat → σ → List (Answer α ε)
  | 0, _ => []
  | n + 1, s => (pull s).1 :: answers n (pull s).2

/-- The state after `n` pulls. -/
def after : Nat → σ → σ
  | 0, s => s
  | n + 1, s => after n (pull s).2

end Source

/-- Answers to be given one after the other, and then stops. -/
abbrev Script (α ε : Type) := List (Answer α ε)

namespace Script

/-- One pull from a script takes its first answer. -/
def pull : Script α ε → Answer α ε × Script α ε
  | [] => (.stop, [])
  | a :: rest => (a, rest)

end Script

instance : Source (Script α ε) α ε where
  pull := Script.pull
  size := List.length
  size_le s := by cases s <;> simp [Script.pull]
  size_lt s a := by cases s <;> simp [Script.pull]

end Acceptance
