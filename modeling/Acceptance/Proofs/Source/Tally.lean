import Acceptance.Proofs.Source.Simulation
import Acceptance.Source.Tally

/-!
# Counted sources

Counting changes nothing about what a source yields, and what has been counted before does not matter to the answers
(`Tally.simulates_continues`).
-/

namespace Acceptance

namespace Tally

variable {σ α ε : Type} [Source σ α ε]

/-- A counted source yields what the source yields. -/
theorem yields_stops {s : σ} {as : List α} (h : Source.Yields s as .stops) (k : Nat) (given : List α) :
    Source.Yields (⟨s, k, given⟩ : Tally σ α) as .stops := by
  induction as generalizing s k given with
  | nil =>
    refine Source.stopped_of_invariant (P := fun t : Tally σ α => Source.Stopped t.source) ?_ h
    rintro ⟨s, k, given⟩ hs
    obtain ⟨t, ht, hst⟩ := hs.pull
    refine ⟨⟨t, k + 1, given⟩, ?_, hst⟩
    show pull _ = _
    rw [pull, ht]
    rfl
  | cons a as ih =>
    obtain ⟨t, ht, hy⟩ := h
    refine ⟨⟨t, k + 1, given ++ [a]⟩, ?_, ih hy _ _⟩
    show pull _ = _
    rw [pull, ht]
    rfl

/-- Up to a failure there is one pull for each item and one for the failure. -/
theorem yields_fails {s t : σ} {as : List α} {e : ε} (h : Source.Yields s as (.fails e t)) (k : Nat)
    (given : List α) :
    Source.Yields (⟨s, k, given⟩ : Tally σ α) as (.fails e ⟨t, k + (as.length + 1), given ++ as⟩) := by
  induction as generalizing s k given with
  | nil =>
    have hs : Source.pull s = (.failed e, t) := h
    show pull _ = _
    rw [pull, hs, List.append_nil]
    rfl
  | cons a as ih =>
    obtain ⟨u, hu, hy⟩ := h
    refine ⟨⟨u, k + 1, given ++ [a]⟩, ?_, ?_⟩
    · show pull _ = _
      rw [pull, hu]
      rfl
    · have hnext := ih hy (k + 1) (given ++ [a])
      rwa [List.append_assoc, Nat.add_assoc, Nat.add_comm 1] at hnext

/-- What a counted source yields is what its source yields. -/
theorem yields_source {t u : Tally σ α} {as : List α} {e : ε} (h : Source.Yields u as (.fails e t)) :
    Source.Yields u.source as (.fails e t.source) := by
  induction as generalizing u with
  | nil =>
    have hu : pull u = (.failed e, t) := h
    have h₁ : (Source.pull u.source).1 = .failed e := congrArg Prod.fst hu
    have h₂ : (Source.pull u.source).2 = t.source := congrArg (fun p => p.2.source) hu
    exact Prod.ext h₁ h₂
  | cons a as ih =>
    obtain ⟨v, hv, hy⟩ := h
    have hu : pull u = (.item a, v) := hv
    have h₁ : (Source.pull u.source).1 = .item a := congrArg Prod.fst hu
    have h₂ : (Source.pull u.source).2 = v.source := congrArg (fun p => p.2.source) hu
    exact ⟨v.source, Prod.ext h₁ h₂, ih hy⟩

/-- The same source, with `k` more pulls and the items `given` before the others. -/
def Continues (k : Nat) (given : List α) (s t : Tally σ α) : Prop :=
  s = ⟨t.source, k + t.pulls, given ++ t.given⟩

theorem record_append (given as : List α) (x : Answer α ε) : record (given ++ as) x = given ++ record as x := by
  cases x with
  | item a => exact List.append_assoc ..
  | stop | failed => rfl

theorem simulates_continues (k : Nat) (given : List α) :
    Source.Simulates (σ := Tally σ α) (τ := Tally σ α) (Continues k given) := by
  rintro _ ⟨s, j, as⟩ rfl
  refine ⟨rfl, ?_⟩
  show Tally.mk (Source.pull s).2 (k + j + 1) (record (given ++ as) (Source.pull s).1) =
    Tally.mk (Source.pull s).2 (k + (j + 1)) (given ++ record as (Source.pull s).1)
  rw [record_append, Nat.add_assoc]

end Tally

end Acceptance
