import Acceptance.Source.Basic

/-!
# One step back

A source with a one-slot memory: after `rewind`, the next pull gives the last item again and asks nothing of the
source underneath. A stop empties the memory, a failure leaves it as it is, and to rewind an empty memory, or to
rewind twice, changes nothing.
-/

namespace Acceptance

/-- What a rewindable source remembers. -/
inductive Memory (α : Type) where
  /-- No item to go back to. -/
  | empty
  /-- The last item pulled. -/
  | holding (a : α)
  /-- The last item pulled, to be given again. -/
  | replaying (a : α)
deriving DecidableEq, Repr

namespace Memory

/-- The memory after one step back. -/
def rewind : Memory α → Memory α
  | holding a => replaying a
  | m => m

/-- The number of items waiting to be given again. -/
def waiting : Memory α → Nat
  | replaying _ => 1
  | _ => 0

/-- The memory after an answer of the source underneath. -/
def after (m : Memory α) : Answer α ε → Memory α
  | .item a => .holding a
  | .stop => .empty
  | .failed _ => m

end Memory

/-- A source with a memory of its last item. -/
structure Rewind (σ : Type) (α : Type) where
  source : σ
  memory : Memory α

namespace Rewind

variable {σ α ε : Type} [Source σ α ε]

/-- A source from which nothing has been pulled. -/
def ofSource (source : σ) : Rewind σ α := ⟨source, .empty⟩

def rewind (s : Rewind σ α) : Rewind σ α := { s with memory := s.memory.rewind }

/-- Gives the remembered item again after a step back, and otherwise pulls. -/
def pull (s : Rewind σ α) : Answer α ε × Rewind σ α :=
  match s.memory with
  | .replaying a => (.item a, { s with memory := .holding a })
  | m => ((Source.pull s.source).1, ⟨(Source.pull s.source).2, m.after (Source.pull s.source).1⟩)

/-- The items left, the one to be given again included. -/
def size (s : Rewind σ α) : Nat := Source.size s.source + s.memory.waiting

private theorem waiting_after {m : Memory α} (hm : m.waiting = 0) (x : Answer α ε) : (m.after x).waiting = 0 := by
  cases x <;> simp_all [Memory.after, Memory.waiting]

private theorem size_pull_of_idle {s : Rewind σ α} (hm : s.memory.waiting = 0) :
    pull s = ((Source.pull s.source).1, ⟨(Source.pull s.source).2, s.memory.after (Source.pull s.source).1⟩) ∧
      size (pull s).2 = Source.size (Source.pull s.source).2 ∧ size s = Source.size s.source := by
  obtain ⟨s, m⟩ := s
  cases m with
  | replaying a => simp [Memory.waiting] at hm
  | empty => exact ⟨rfl, by rw [size, pull, waiting_after rfl]; rfl, rfl⟩
  | holding a => exact ⟨rfl, by rw [size, pull, waiting_after rfl]; rfl, rfl⟩

theorem size_pull_le (s : Rewind σ α) : size (pull s).2 ≤ size s := by
  by_cases hm : s.memory.waiting = 0
  · obtain ⟨_, h₁, h₂⟩ := size_pull_of_idle hm
    rw [h₁, h₂]
    exact Source.size_le s.source
  · obtain ⟨s, m⟩ := s
    cases m <;> simp_all [pull, size, Memory.waiting]

theorem size_pull_lt (s : Rewind σ α) (b : α) (hb : (pull s).1 = .item b) : size (pull s).2 < size s := by
  by_cases hm : s.memory.waiting = 0
  · obtain ⟨h, h₁, h₂⟩ := size_pull_of_idle hm
    rw [h₁, h₂]
    exact Source.size_lt s.source b (by rw [h] at hb; exact hb)
  · obtain ⟨s, m⟩ := s
    cases m <;> simp_all [pull, size, Memory.waiting]

end Rewind

instance [Source σ α ε] : Source (Rewind σ α) α ε where
  pull := Rewind.pull
  size := Rewind.size
  size_le := Rewind.size_pull_le
  size_lt := Rewind.size_pull_lt

namespace Rewind

variable {σ α ε : Type} [Source σ α ε]

/-- Takes the next item that `p` accepts if `wanted` holds of it. Any other that `p` accepts stays in front; at a stop
nothing is taken. -/
def takeIf (p wanted : α → Bool) (s : Rewind σ α) : Except ε (Option α) × Rewind σ α :=
  match Source.seek p s with
  | (.item a, rest) => if wanted a then (.ok (some a), rest) else (.ok none, rest.rewind)
  | (.stop, rest) => (.ok none, rest)
  | (.failed e, rest) => (.error e, rest)

private theorem size_rewind_le (s : Rewind σ α) : size s.rewind ≤ Source.size s.source + 1 := by
  obtain ⟨s, m⟩ := s
  cases m <;> simp [rewind, Memory.rewind, size, Memory.waiting]

/-- An item that is taken is gone. -/
theorem size_takeIf_lt {p wanted : α → Bool} {s t : Rewind σ α} {a : α}
    (h : takeIf p wanted s = (.ok (some a), t)) : size t < size s := by
  have hlt := Source.size_seek_lt p s
  unfold takeIf at h
  split at h
  · rename_i b rest hs
    rw [hs] at hlt
    split at h
    · cases h; exact hlt a rfl
    · cases h
  · cases h
  · cases h

/-- Nothing is added by a look at the next item. -/
theorem size_takeIf_le {p wanted : α → Bool} {s t : Rewind σ α} {x : Except ε (Option α)}
    (h : takeIf p wanted s = (x, t)) : size t ≤ size s := by
  have hle := Source.size_seek_le p s
  have hlt := Source.size_seek_lt p s
  unfold takeIf at h
  split at h
  · rename_i b rest hs
    rw [hs] at hlt
    have hrest : size rest < size s := hlt b rfl
    split at h
    · cases h; omega
    · cases h
      have h₁ := size_rewind_le rest
      have h₂ : Source.size rest.source ≤ size rest := Nat.le_add_right _ _
      omega
  · rename_i rest hs
    rw [hs] at hle
    cases h; exact hle
  · rename_i e rest hs
    rw [hs] at hle
    cases h; exact hle

end Rewind

end Acceptance
