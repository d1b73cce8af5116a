import Acceptance.Proofs.Source.Simulation
import Acceptance.Proofs.Spec.Reading

/-!
# Parsers of sources that answer alike

The parser looks at its source only past prose.  From sources that answer alike there every function of the grammar
makes the same, one lemma `parallel_...` for each, and so does any number of calls of the parser (`parallel_parse`).
-/

namespace Acceptance

namespace Parser

open Rewind (Alike Parallel parallel_takeIf)

variable {σ τ ε : Type} [Source σ Token ε] [Source τ Token ε] {R : σ → τ → Prop} {s : Rewind σ Token}
  {t : Rewind τ Token}

theorem parallel_commands (hR : Source.SimulatesPast Token.isSignificant R) (h : Alike R s t) :
    Parallel (ε := ε) R commands commands s t := by
  induction hn : s.size using Nat.strongRecOn generalizing s t with
  | ind n ih =>
    subst hn
    rw [commands_eq (τ := σ), commands_eq (τ := τ)]
    refine (parallel_takeIf hR _ h).ifSome (fun token s' t' hs hnext => ?_) []
    exact (ih s'.size (Rewind.size_takeIf_lt hs) hnext rfl).andMake _

theorem parallel_block (hR : Source.SimulatesPast Token.isSignificant R) (head : Token) (h : Alike R s t) :
    Parallel (ε := ε) R (block head) (block head) s t := by
  rw [block_eq (τ := σ), block_eq (τ := τ)]
  exact (parallel_commands hR h).andMake _

theorem parallel_blocks (hR : Source.SimulatesPast Token.isSignificant R) (kind : TokenKind) (h : Alike R s t) :
    Parallel (ε := ε) R (blocks kind) (blocks kind) s t := by
  induction hn : s.size using Nat.strongRecOn generalizing s t with
  | ind n ih =>
    subst hn
    rw [blocks_eq (τ := σ), blocks_eq (τ := τ)]
    refine (parallel_takeIf hR _ h).ifSome (fun head s₁ t₁ hs₁ h₁ => ?_) []
    refine (parallel_block hR head h₁).andThen fun b s₂ t₂ hs₂ h₂ => ?_
    have hlt : s₂.size < s.size := Nat.lt_of_le_of_lt (size_block_le hs₂) (Rewind.size_takeIf_lt hs₁)
    exact (ih s₂.size hlt h₂ rfl).andMake _

theorem parallel_linked (hR : Source.SimulatesPast Token.isSignificant R) (first : Expression) (h : Alike R s t) :
    Parallel (ε := ε) R (linked first) (linked first) s t := by
  rw [linked_eq (τ := σ), linked_eq (τ := τ)]
  refine (parallel_takeIf hR _ h).ifSome (fun link s₁ t₁ _ h₁ => ?_) first
  refine (parallel_block hR link h₁).andThen fun second s₂ t₂ _ h₂ => ?_
  exact (parallel_blocks hR link.kind h₂).andMake _

theorem parallel_chunk (hR : Source.SimulatesPast Token.isSignificant R) (d : Directive) (h : Alike R s t) :
    Parallel (ε := ε) R (chunk d) (chunk d) s t := by
  rw [chunk_eq (τ := σ), chunk_eq (τ := τ)]
  refine (parallel_takeIf hR _ h).ifSome (fun head s₁ t₁ _ h₁ => ?_) none
  refine (parallel_block hR head h₁).andThen fun first s₂ t₂ _ h₂ => ?_
  exact (parallel_linked hR first h₂).andMake some

theorem parallel_behavior (hR : Source.SimulatesPast Token.isSignificant R) (h : Alike R s t) :
    Parallel (ε := ε) R behavior behavior s t := by
  rw [behavior_eq (τ := σ), behavior_eq (τ := τ)]
  refine (parallel_chunk hR .action h).andThen fun action s₁ t₁ _ h₁ => ?_
  exact (parallel_chunk hR .expectation h₁).andMake _

theorem parallel_behaviors (hR : Source.SimulatesPast Token.isSignificant R) (h : Alike R s t) :
    Parallel (ε := ε) R behaviors behaviors s t := by
  induction hn : s.size using Nat.strongRecOn generalizing s t with
  | ind n ih =>
    subst hn
    rw [behaviors_eq (τ := σ), behaviors_eq (τ := τ)]
    refine (parallel_behavior hR h).ifSome (fun b s' t' hs hnext => ?_) []
    exact (ih s'.size ((size_behavior hs).2 b rfl) hnext rfl).andMake _

theorem parallel_scenario (hR : Source.SimulatesPast Token.isSignificant R) (h : Alike R s t) :
    Parallel (ε := ε) R scenario scenario s t := by
  rw [scenario_eq (τ := σ), scenario_eq (τ := τ)]
  refine (parallel_chunk hR .precondition h).ifSome (fun precondition s₁ t₁ _ h₁ => ?_) none
  refine (parallel_behaviors hR h₁).andThen fun bs s₂ t₂ _ h₂ => ?_
  exact (parallel_chunk hR .cleanup h₂).andMake _

theorem parallel_parse (hR : Source.SimulatesPast Token.isSignificant R) (h : Alike R s t) : Parallel (ε := ε) R parse parse s t := by
  induction hn : s.size using Nat.strongRecOn generalizing s t with
  | ind n ih =>
    subst hn
    rw [parse_eq (τ := σ), parse_eq (τ := τ)]
    refine (parallel_scenario hR h).ifSome (fun sc s' t' hs hnext => ?_) []
    exact (ih s'.size (size_scenario_lt hs) hnext rfl).andMake _

end Parser

end Acceptance
