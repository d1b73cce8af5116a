import Acceptance.Proofs.Source.Spending
import Acceptance.Proofs.Spec.Failure

/-!
# How often the parser pulls

The parser pulls each answer of its source once and, where nothing is left, at most seven times more: one lemma
`spends_...` for each function of the grammar.  Where it stops in front of a token, that token was the last to be pulled
and begins no scenario, so the parser stays there without another pull (`parse_ofScript_frugal`).
-/

namespace Acceptance

namespace Parser

open Rewind (Placed Spends spends_ifSome_takeIf takeIf)

variable {ε : Type}

/-! ### The pulls of a call -/

section Pulls

variable {script : Script Token ε} {s : Parser (Tally (Script Token ε) Token)}

theorem spends_commands (h : Placed script Token.isSignificant s) : Spends script Token.isSignificant [] 1 1 commands s := by
  induction hn : s.size using Nat.strongRecOn generalizing s with
  | ind n ih =>
    subst hn
    rw [commands_eq]
    refine spends_ifSome_takeIf h [] (fun token t ht hp => ?_) (Nat.le_refl 1)
    exact ⟨_, _, (ih t.size (Rewind.size_takeIf_lt ht) hp rfl).andMake _⟩

theorem spends_block (head : Token) (h : Placed script Token.isSignificant s) :
    Spends script Token.isSignificant (.block head.value []) 1 1 (block head) s := by
  rw [block_eq]
  exact (spends_commands h).andMake _

theorem spends_blocks (kind : TokenKind) (h : Placed script Token.isSignificant s) : Spends script Token.isSignificant [] 1 2 (blocks kind) s := by
  induction hn : s.size using Nat.strongRecOn generalizing s with
  | ind n ih =>
    subst hn
    rw [blocks_eq]
    -- to spare: a look for commands of the last block, and one for another block
    refine spends_ifSome_takeIf h [] (fun head s₁ hs₁ h₁ => ?_) (by decide)
    have hrest := (spends_block head h₁).andThen fun b s₂ hs₂ h₂ =>
      have hlt : s₂.size < s.size := Nat.lt_of_le_of_lt (size_block_le hs₂) (Rewind.size_takeIf_lt hs₁)
      (ih s₂.size hlt h₂ rfl).andMake (b :: ·)
    exact ⟨_, _, hrest⟩

theorem spends_linked (first : Expression) (h : Placed script Token.isSignificant s) : Spends script Token.isSignificant first 1 2 (linked first) s := by
  rw [linked_eq]
  refine spends_ifSome_takeIf h first (fun link s₁ _ h₁ => ?_) (by decide)
  have hrest := (spends_block link h₁).andThen fun second s₂ _ h₂ =>
    (spends_blocks link.kind h₂).andMake fun others => chain link.kind (first :: second :: others)
  exact ⟨_, _, hrest⟩

theorem spends_chunk (d : Directive) (h : Placed script Token.isSignificant s) : Spends script Token.isSignificant none 1 2 (chunk d) s := by
  rw [chunk_eq]
  refine spends_ifSome_takeIf h none (fun head s₁ _ h₁ => ?_) (by decide)
  have hrest := (spends_block head h₁).andThen fun first s₂ _ h₂ => (spends_linked first h₂).andMake some
  exact ⟨_, _, hrest⟩

theorem spends_behavior (h : Placed script Token.isSignificant s) : Spends script Token.isSignificant none 2 3 behavior s := by
  rw [behavior_eq]
  -- to spare: what an action has, and a look for an expectation
  have hboth := (spends_chunk .action h).andThen fun action s₁ _ h₁ =>
    (spends_chunk .expectation h₁).andMake (sided action)
  exact hboth

theorem spends_behaviors (h : Placed script Token.isSignificant s) : Spends script Token.isSignificant [] 2 5 behaviors s := by
  induction hn : s.size using Nat.strongRecOn generalizing s with
  | ind n ih =>
    subst hn
    rw [behaviors_eq]
    -- to spare: what the last behavior has, and a look for either side of another one
    have hmore := (spends_behavior h).ifSome (fun b t ht hp =>
      ⟨_, (ih t.size ((size_behavior ht).2 b rfl) hp rfl).andMake (b :: ·)⟩) []
    exact hmore

theorem spends_scenario (h : Placed script Token.isSignificant s) : Spends script Token.isSignificant none 1 6 scenario s := by
  rw [scenario_eq]
  -- to spare: what the behaviors have, and a look for the cleanup
  have hrest := (spends_chunk .precondition h).ifSome (fun precondition s₁ _ h₁ =>
    ⟨_, (spends_behaviors h₁).andThen fun bs s₂ _ h₂ =>
      (spends_chunk .cleanup h₂).andMake fun cleanup => some (Scenario.mk precondition bs cleanup)⟩) none
  exact hrest

theorem spends_parse (h : Placed script Token.isSignificant s) : Spends script Token.isSignificant [] 1 7 parse s := by
  induction hn : s.size using Nat.strongRecOn generalizing s with
  | ind n ih =>
    subst hn
    rw [parse_eq]
    -- to spare: what the last scenario has, and a look for another one
    have hmore := (spends_scenario h).ifSome (fun sc t ht hp =>
      ⟨_, (ih t.size (size_scenario_lt ht) hp rfl).andMake (sc :: ·)⟩) []
    exact hmore

end Pulls

/-! ### Where the parser stops -/

section Stops

variable {τ : Type} [Source τ Token ε] {s t : Rewind τ Token}

theorem takeIf_of_chunk_none {d : Directive} (h : chunk d s = (.ok none, t)) :
    takeIf Token.isSignificant (·.kind == .directive d) s = (.ok none, t) := by
  rw [chunk] at h
  split at h
  · split at h
    · split at h <;> cases h
    · cases h
  · cases h
    assumption
  · cases h

theorem chunk_of_scenario_none (h : scenario s = (.ok none, t)) : chunk .precondition s = (.ok none, t) := by
  rw [scenario] at h
  split at h
  · split at h
    · split at h <;> cases h
    · cases h
  · cases h
    assumption
  · cases h

/-- A call that does not fail ends with a look at a token that is no precondition. -/
theorem exists_takeIf_of_parse {ss : List Scenario} (h : parse s = (.ok ss, t)) :
    ∃ u : Rewind τ Token, takeIf Token.isSignificant (·.kind == .directive .precondition) u = (.ok none, t) := by
  induction hn : s.size using Nat.strongRecOn generalizing s ss with
  | ind n ih =>
    subst hn
    rw [parse_eq] at h
    cases hs : scenario s with
    | mk x u =>
      rcases x with e | _ | sc
      · rw [Rewind.ifSome_of_error hs] at h
        cases h
      · rw [Rewind.ifSome_of_none hs] at h
        cases h
        exact ⟨s, takeIf_of_chunk_none (chunk_of_scenario_none hs)⟩
      · rw [Rewind.ifSome_of_some hs] at h
        cases hp : parse u with
        | mk y v =>
          cases y with
          | error e =>
            rw [Rewind.andMake_of_error hp] at h
            cases h
          | ok rest =>
            rw [Rewind.andMake_of_ok hp] at h
            cases h
            exact ih u.size (size_scenario_lt hs) hp rfl

/-- In front of a token that was put back and is no precondition, the parser takes nothing. -/
theorem parse_of_replaying {token : Token} (hm : s.memory = .replaying token) (hs : token.isSignificant = true)
    (hk : token.kind ≠ .directive .precondition) : parse s = (.ok [], s) := by
  have htake : takeIf Token.isSignificant (·.kind == .directive .precondition) s = (.ok none, s) :=
    Rewind.takeIf_of_replaying hm hs (by simpa using hk)
  have hchunk : chunk .precondition s = (.ok none, s) := by rw [chunk_eq, Rewind.ifSome_of_none htake]
  have hscenario : scenario s = (.ok none, s) := by rw [scenario_eq, Rewind.ifSome_of_none hchunk]
  rw [parse_eq, Rewind.ifSome_of_none hscenario]

end Stops

section Calls

variable {σ : Type} [Source σ Token ε] {s : Parser (Tally σ Token)}

/-- Where a call changes nothing, no later call does. -/
theorem calls_of_parse_eq (h : parse s = (.ok [], s)) (n : Nat) :
    calls n s = List.replicate n ⟨.ok [], 0, []⟩ ∧ afterCalls n s = s := by
  have hcall : call s = ⟨.ok [], 0, []⟩ := by simp [call, h]
  induction n with
  | zero => exact ⟨rfl, rfl⟩
  | succ n ih =>
    rw [calls, afterCalls, hcall, h, ih.1, ih.2]
    exact ⟨rfl, rfl⟩

end Calls

/-- A call of a new parser uses each answer of its script at most once and in order, and pulls at most seven times more
than there are answers.  If it succeeds and stops in front of a token that it had pulled, then that token is neither
prose nor a precondition, it is the last that was pulled, and any number of later calls make nothing, pull nothing and
leave the parser there. -/
theorem parse_ofScript_frugal (script : Script Token ε) :
    let r := parse (ofScript script)
    let k := r.2.source.pulls
    k ≤ script.length + 7 ∧
    r.2.source = ⟨script.drop k, k, (script.take k).filterMap Answer.item?⟩ ∧
    ∀ ss token, r.1 = .ok ss → r.2.memory = .replaying token →
      token.kind ≠ .prose ∧ token.kind ≠ .directive .precondition ∧
      (∃ j, k = j + 1 ∧ script[j]? = some (.item token)) ∧ r.2.source.given.getLast? = some token ∧
      ∀ n, calls n r.2 = List.replicate n ⟨.ok [], 0, []⟩ ∧ afterCalls n r.2 = r.2 := by
  intro r k
  have hstart : Placed script Token.isSignificant (ofScript script) := Rewind.placed_place (k := 0) rfl
  obtain ⟨⟨hplace, hreplaying⟩, -, hwithin⟩ := spends_parse hstart
  have hsource : r.2.source = .pulled script k := congrArg (fun s => s.source) hplace
  refine ⟨?_, hsource, fun ss token hok hmemory => ?_⟩
  · have hzero : (ofScript script).pulls = 0 := rfl
    have hk : r.2.pulls = k := rfl
    rw [Rewind.Within, hzero, Nat.zero_max, hk] at hwithin
    omega
  · obtain ⟨hsignificant, j, hj, hlast⟩ := hreplaying token hmemory
    obtain ⟨u, hu⟩ := exists_takeIf_of_parse (s := ofScript script) (t := r.2) (Prod.ext hok rfl)
    have hkind : token.kind ≠ .directive .precondition := by
      simpa using Rewind.eq_false_of_replaying hu hmemory
    have hk : k = j + 1 := hj
    refine ⟨fun hprose => ?_, hkind, ⟨j, hk, hlast⟩, ?_, ?_⟩
    · simp [Token.isSignificant, hprose] at hsignificant
    · rw [hsource, hk]
      simp [Tally.pulled, List.take_add_one, hlast, Answer.item?]
    · exact calls_of_parse_eq (parse_of_replaying hmemory hsignificant hkind)

/-- Seven pulls can be needed where nothing is left: for commands, a link, an expectation, another action and an
expectation of it, a cleanup and another scenario. -/
example :
    let script : Script Token Fault := [.item ⟨.directive .precondition, "g", 1⟩, .item ⟨.directive .action, "w", 2⟩]
    (parse (ofScript script)).2.source.pulls = script.length + 7 := by
  decide +kernel

/-- An end within the input, prose, a failure that is not reached, and a stray command in front of a precondition. -/
theorem parse_ofScript_frugal_stray :
    let stray : Token := ⟨.command, "c", 4⟩
    let script : Script Token Fault := [.item ⟨.directive .precondition, "g", 1⟩, .stop, .item ⟨.prose, "p", 2⟩,
      .item stray, .item ⟨.directive .precondition, "h", 5⟩, .failed .nulInPath]
    let r := parse (ofScript script)
    (r.1 = .ok [⟨.block "g" [], [], none⟩] ∧ r.2.memory = .replaying stray ∧ r.2.source.pulls = 4) ∧
    r.2.source.given.getLast? = some stray ∧
    ∀ n, calls n r.2 = List.replicate n ⟨.ok [], 0, []⟩ ∧ afterCalls n r.2 = r.2 := by
  intro stray script r
  have hok : r.1 = .ok [⟨.block "g" [], [], none⟩] := by decide +kernel
  have hmemory : r.2.memory = .replaying stray := by decide +kernel
  obtain ⟨-, -, -, hlast, hlater⟩ := (parse_ofScript_frugal script).2.2 _ stray hok hmemory
  exact ⟨⟨hok, hmemory, by decide +kernel⟩, hlast, hlater⟩

end Parser

end Acceptance
