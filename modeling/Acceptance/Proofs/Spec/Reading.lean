import Acceptance.Proofs.Source.Steps
import Acceptance.Proofs.Spec.Grammar
import Acceptance.Spec.Parser

/-!
# What the parser reads

Every step of the parser makes a canonical tree and takes exactly the tokens that spell it, up to a token that cannot
go on with the tree: one lemma `reads_...` for each function of the grammar, from the commands of a block up to
`reads_parse`.  Since tokens can be divided in only one such way, what the parser makes is the longest reading of its
tokens (`parse_longestReading`).
-/

namespace Acceptance

theorem refused_contents {f : TokenKind → Bool} {ts : List Token} :
    Refused f (contents ts) ↔ ∀ t ∈ ts.head?, f t.kind = false := by
  cases ts <;> simp [Refused, contents, Token.content]

/-- Either no token that satisfies `f` is in front, or it can be taken. -/
private theorem refused_or_cons (f : TokenKind → Bool) (ts : List Token) :
    Refused f (contents ts) ∨ ∃ head rest, ts = head :: rest ∧ f head.kind = true := by
  cases ts with
  | nil => exact .inl (refused_nil f)
  | cons head rest =>
    by_cases h : f head.kind = true
    · exact .inr ⟨head, rest, rfl, h⟩
    · exact .inl (refused_contents.2 (by simpa using h))

/-- Chunks with canonical expressions, of which the last takes nothing of what follows. -/
structure Complete (ps : List Part) (r : List Content) : Prop where
  canonical : ∀ p ∈ ps, p.2.Canonical
  refused : ∀ p ∈ ps.getLast?, Refused p.2.takes r

theorem Complete.append {ps qs : List Part} {r : List Content} (h : Complete ps (spellParts qs ++ r))
    (h' : Complete qs r) : Complete (ps ++ qs) r := by
  refine ⟨fun p hp => ?_, fun p hp => ?_⟩
  · rcases List.mem_append.1 hp with hp | hp
    · exact h.canonical p hp
    · exact h'.canonical p hp
  · cases qs with
    | nil => exact h.refused p (by simpa using hp)
    | cons q qs => exact h'.refused p (by simpa using hp)

namespace Parser

variable {τ ε : Type} [Source τ Token ε]

open Rewind (Step andThen andMake ifSome takeIf andThen_of_ok andThen_of_error andMake_of_ok andMake_of_error
  ifSome_of_some ifSome_of_none ifSome_of_error)

/-! ### The grammar as steps -/

theorem commands_eq : (commands : Step τ Token ε (List String)) =
    ifSome (takeIf Token.isSignificant (·.kind == .command)) (fun token => andMake commands (token.value :: ·)) [] := by
  funext s
  rw [commands]
  split <;> rename_i h
  · rw [ifSome_of_some h]
    split <;> rename_i hc
    · rw [andMake_of_ok hc]
    · rw [andMake_of_error hc]
  · rw [ifSome_of_none h]
  · rw [ifSome_of_error h]

theorem block_eq (head : Token) :
    (block head : Step τ Token ε Expression) = andMake commands (.block head.value) := by
  funext s
  rw [block]
  split <;> rename_i h
  · rw [andMake_of_ok h]
  · rw [andMake_of_error h]

theorem blocks_eq (kind : TokenKind) : (blocks kind : Step τ Token ε (List Expression)) =
    ifSome (takeIf Token.isSignificant (·.kind == kind)) (fun head => andThen (block head) fun b =>
      andMake (blocks kind) (b :: ·)) [] := by
  funext s
  rw [blocks]
  split <;> rename_i h
  · rw [ifSome_of_some h]
    split <;> rename_i hb
    · rw [andThen_of_ok hb]
      split <;> rename_i hbs
      · rw [andMake_of_ok hbs]
      · rw [andMake_of_error hbs]
    · rw [andThen_of_error hb]
  · rw [ifSome_of_none h]
  · rw [ifSome_of_error h]

theorem linked_eq (first : Expression) : (linked first : Step τ Token ε Expression) =
    ifSome (takeIf Token.isSignificant isLink) (fun link => andThen (block link) fun second =>
      andMake (blocks link.kind) fun others => chain link.kind (first :: second :: others)) first := by
  funext s
  rw [linked]
  split <;> rename_i h
  · rw [ifSome_of_some h]
    split <;> rename_i hb
    · rw [andThen_of_ok hb]
      split <;> rename_i hbs
      · rw [andMake_of_ok hbs]
      · rw [andMake_of_error hbs]
    · rw [andThen_of_error hb]
  · rw [ifSome_of_none h]
  · rw [ifSome_of_error h]

theorem chunk_eq (d : Directive) : (chunk d : Step τ Token ε (Option Expression)) =
    ifSome (takeIf Token.isSignificant (·.kind == .directive d)) (fun head => andThen (block head) fun first =>
      andMake (linked first) some) none := by
  funext s
  rw [chunk]
  split <;> rename_i h
  · rw [ifSome_of_some h]
    split <;> rename_i hb
    · rw [andThen_of_ok hb]
      split <;> rename_i hl
      · rw [andMake_of_ok hl]
      · rw [andMake_of_error hl]
    · rw [andThen_of_error hb]
  · rw [ifSome_of_none h]
  · rw [ifSome_of_error h]

/-- The behavior of an action and an expectation, if there is one of them. -/
def sided (action expectation : Option Expression) : Option Behavior :=
  if action.isNone && expectation.isNone then none else some ⟨action, expectation⟩

theorem behavior_eq : (behavior : Step τ Token ε (Option Behavior)) =
    andThen (chunk .action) fun action => andMake (chunk .expectation) (sided action) := by
  funext s
  rw [behavior]
  split <;> rename_i ha
  · rw [andThen_of_ok ha]
    split <;> rename_i he
    · rw [andMake_of_ok he, sided]
      split <;> rfl
    · rw [andMake_of_error he]
  · rw [andThen_of_error ha]

theorem behaviors_eq : (behaviors : Step τ Token ε (List Behavior)) =
    ifSome behavior (fun b => andMake behaviors (b :: ·)) [] := by
  funext s
  rw [behaviors]
  split <;> rename_i h
  · rw [ifSome_of_some h]
    split <;> rename_i hbs
    · rw [andMake_of_ok hbs]
    · rw [andMake_of_error hbs]
  · rw [ifSome_of_none h]
  · rw [ifSome_of_error h]

theorem scenario_eq : (scenario : Step τ Token ε (Option Scenario)) =
    ifSome (chunk .precondition) (fun precondition => andThen behaviors fun bs =>
      andMake (chunk .cleanup) fun cleanup => some ⟨precondition, bs, cleanup⟩) none := by
  funext s
  rw [scenario]
  split <;> rename_i h
  · rw [ifSome_of_some h]
    split <;> rename_i hb
    · rw [andThen_of_ok hb]
      split <;> rename_i hc
      · rw [andMake_of_ok hc]
      · rw [andMake_of_error hc]
    · rw [andThen_of_error hb]
  · rw [ifSome_of_none h]
  · rw [ifSome_of_error h]

theorem parse_eq : (parse : Step τ Token ε (List Scenario)) =
    ifSome scenario (fun sc => andMake parse (sc :: ·)) [] := by
  funext s
  rw [parse, course]
  split <;> rename_i h
  · rename_i sc t
    rw [ifSome_of_some h]
    dsimp only [parse, Course.result, andMake]
    cases (course t).failure <;> rfl
  · exact (ifSome_of_none h).symm
  · exact (ifSome_of_error h).symm

/-! ### What the steps read -/

/-- Facing the tokens `ts` and prose, the step `f` makes `b` and leaves `rest`. -/
abbrev Reads {β : Type} (f : Step τ Token ε β) (ts : List Token) (b : β) (rest : List Token) : Prop :=
  Rewind.Reads Token.isSignificant f ts b rest

/-- With no command in front, no commands are taken. -/
private theorem reads_commands_nil {ts : List Token} (hr : Refused (· == .command) (contents ts)) :
    Reads (τ := τ) (ε := ε) commands ts [] ts := by
  rw [commands_eq]
  exact (Rewind.reads_takeIf_none (refused_contents.1 hr)).ifSome_none []

/-- The commands in front are all the tokens up to one of another kind. -/
theorem reads_commands (ts : List Token) :
    ∃ cs rest, contents ts = cs.map (Prod.mk .command) ++ contents rest ∧
      Refused (· == .command) (contents rest) ∧ Reads (τ := τ) (ε := ε) commands ts cs rest := by
  induction ts with
  | nil => exact ⟨[], [], rfl, refused_nil _, reads_commands_nil (refused_nil _)⟩
  | cons token ts ih =>
    by_cases hk : token.kind = .command
    · obtain ⟨cs, rest, hc, hr, hreads⟩ := ih
      refine ⟨token.value :: cs, rest, ?_, hr, ?_⟩
      · show (token.kind, token.value) :: contents ts = _
        rw [hc, hk]
        rfl
      · rw [commands_eq]
        exact .ifSome_takeIf [] (by simp [hk]) (hreads.andMake (token.value :: ·))
    · have hr : Refused (· == .command) (contents (token :: ts)) := refused_contents.2 (by simpa using hk)
      exact ⟨[], token :: ts, rfl, hr, reads_commands_nil hr⟩

/-- A block is made of a head and the commands after it. -/
theorem reads_block (head : Token) (ts : List Token) :
    ∃ b rest, b.IsBlock ∧ (∀ d, head.kind = .directive d → contents (head :: ts) = b.spelling d ++ contents rest) ∧
      Refused (· == .command) (contents rest) ∧ Reads (τ := τ) (ε := ε) (block head) ts b rest := by
  obtain ⟨cs, rest, hc, hr, hreads⟩ := reads_commands (τ := τ) (ε := ε) ts
  refine ⟨.block head.value cs, rest, trivial, ?_, hr, ?_⟩
  · intro d hd
    show (head.kind, head.value) :: contents ts = _
    rw [hc, hd]
    rfl
  · rw [block_eq]
    exact hreads.andMake (Expression.block head.value)

private theorem reads_blocks_nil {kind : TokenKind} {ts : List Token} (hr : Refused (· == kind) (contents ts)) :
    Reads (τ := τ) (ε := ε) (blocks kind) ts [] ts := by
  rw [blocks_eq]
  exact (Rewind.reads_takeIf_none (refused_contents.1 hr)).ifSome_none []

/-- What is left after a step from nothing is nothing. -/
private theorem eq_nil_of_contents {ts rest : List Token} {r : List Content} (h : contents ts = r ++ contents rest)
    (hts : ts = []) : rest = [] := by
  subst hts
  have := congrArg List.length h
  simp [contents] at this
  exact List.eq_nil_of_length_eq_zero (by omega)

/-- A chunk takes at least its directive. -/
private theorem length_lt_of_contents {ts rest : List Token} {p : Part} {ps : List Part} (hp : p.2.Canonical)
    (h : contents ts = spellParts (p :: ps) ++ contents rest) : rest.length < ts.length := by
  obtain ⟨t, r, hs⟩ := Expression.head_spelling hp p.1
  have := congrArg List.length h
  simp [hs, contents, spellParts] at this
  omega

/-- The blocks in front that one link heads. -/
theorem reads_blocks (link : Directive) (ts : List Token) (hc : Refused (· == .command) (contents ts)) :
    ∃ bs rest, (∀ b ∈ bs, b.IsBlock) ∧
      contents ts = Expression.chainSpelling link link bs ++ contents rest ∧
      Refused (fun k => k == .command || k == .directive link) (contents rest) ∧
      Reads (τ := τ) (ε := ε) (blocks (.directive link)) ts bs rest := by
  induction hn : ts.length using Nat.strongRecOn generalizing ts with
  | ind n ih =>
    subst hn
    rcases refused_or_cons (· == .directive link) ts with hr | ⟨head, ts, rfl, hw⟩
    · refine ⟨[], ts, nofun, rfl, ?_, reads_blocks_nil hr⟩
      intro c hmem
      simp [hc c hmem, hr c hmem]
    · have hk : head.kind = .directive link := by simpa using hw
      obtain ⟨b, rest₁, hb, hs₁, hr₁, hreads₁⟩ := reads_block (τ := τ) (ε := ε) head ts
      have hspell : contents (head :: ts) = spellParts [(link, b)] ++ contents rest₁ := by
        simpa [spellParts] using hs₁ link hk
      have hlen : rest₁.length < (head :: ts).length := length_lt_of_contents hb.canonical hspell
      obtain ⟨bs, rest, hbs, hs₂, hr₂, hreads₂⟩ := ih rest₁.length hlen rest₁ hr₁ rfl
      refine ⟨b :: bs, rest, by simpa using ⟨hb, hbs⟩, ?_, hr₂, ?_⟩
      · rw [hs₁ link hk, hs₂, Expression.chainSpelling, List.append_assoc]
      · rw [blocks_eq]
        exact .ifSome_takeIf [] hw (hreads₁.andThen (hreads₂.andMake (b :: ·)) (eq_nil_of_contents hs₂))

/-- Blocks that are linked to a first one make a chain with it. -/
private theorem reads_linked_some {first : Expression} (hf : first.IsBlock) {l : Directive}
    (hl : l = .also ∨ l = .instead) {link : Token} (hk : link.kind = .directive l) (ts : List Token) :
    ∃ e rest, e.Canonical ∧ (∀ d, first.spelling d ++ contents (link :: ts) = e.spelling d ++ contents rest) ∧
      Refused e.takes (contents rest) ∧ Reads (τ := τ) (ε := ε) (linked first) (link :: ts) e rest := by
  have hw : isLink link = true := by rcases hl with rfl | rfl <;> simp [isLink, hk]
  obtain ⟨second, rest₁, hb, hs₁, hr₁, hreads₁⟩ := reads_block (τ := τ) (ε := ε) link ts
  obtain ⟨others, rest, hbs, hs₂, hr₂, hreads₂⟩ := reads_blocks (τ := τ) (ε := ε) l rest₁ hr₁
  have hreads : Reads (τ := τ) (ε := ε) (linked first) (link :: ts)
      (chain (.directive l) (first :: second :: others)) rest := by
    rw [linked_eq, ← hk]
    rw [← hk] at hreads₂
    refine .ifSome_takeIf first hw ?_
    exact hreads₁.andThen (hreads₂.andMake fun others => chain link.kind (first :: second :: others))
      (eq_nil_of_contents hs₂)
  have hspell (d : Directive) : first.spelling d ++ contents (link :: ts) =
      Expression.chainSpelling d l (first :: second :: others) ++ contents rest := by
    rw [hs₁ l hk, hs₂]
    simp [Expression.chainSpelling]
  have hall : ∀ e ∈ first :: second :: others, e.IsBlock := by simpa using ⟨hf, hb, hbs⟩
  rcases hl with rfl | rfl
  · exact ⟨.all (first :: second :: others), rest, ⟨by simp, hall⟩, hspell, hr₂, hreads⟩
  · exact ⟨.any (first :: second :: others), rest, ⟨by simp, hall⟩, hspell, hr₂, hreads⟩

/-- A block with no link in front stays alone. -/
private theorem reads_linked_none {first : Expression} {ts : List Token}
    (hr : Refused (fun k => k == .directive .also || k == .directive .instead) (contents ts)) :
    Reads (τ := τ) (ε := ε) (linked first) ts first ts := by
  have hlink : ∀ t ∈ ts.head?, isLink t = false := refused_contents.1 hr
  rw [linked_eq]
  exact (Rewind.reads_takeIf_none hlink).ifSome_none first

/-- A chunk goes on from its first block with the blocks linked to it, all in the same way. -/
theorem reads_linked {first : Expression} (hf : first.IsBlock) (ts : List Token)
    (hc : Refused (· == .command) (contents ts)) :
    ∃ e rest, e.Canonical ∧ (∀ d, first.spelling d ++ contents ts = e.spelling d ++ contents rest) ∧
      Refused e.takes (contents rest) ∧ Reads (τ := τ) (ε := ε) (linked first) ts e rest := by
  rcases refused_or_cons (fun k => k == .directive .also || k == .directive .instead) ts with
    hr | ⟨link, ts, rfl, hw⟩
  · refine ⟨first, ts, hf.canonical, fun _ => rfl, ?_, reads_linked_none hr⟩
    obtain ⟨t, cs, rfl⟩ := hf.eq
    intro c hm
    have h₁ := hc c hm
    have h₂ := hr c hm
    simp_all [Expression.takes]
  · have hk : link.kind = .directive .also ∨ link.kind = .directive .instead := by simpa using hw
    rcases hk with hk | hk
    · exact reads_linked_some hf (.inl rfl) hk ts
    · exact reads_linked_some hf (.inr rfl) hk ts

/-- The chunk in front under the directive `d`, if there is one. -/
theorem reads_chunk (d : Directive) (ts : List Token) :
    ∃ o rest, contents ts = spellParts (o.toList.map (Prod.mk d)) ++ contents rest ∧
      Complete (o.toList.map (Prod.mk d)) (contents rest) ∧
      (o = none → Refused (· == .directive d) (contents rest)) ∧
      Reads (τ := τ) (ε := ε) (chunk d) ts o rest := by
  rcases refused_or_cons (· == .directive d) ts with hr | ⟨head, ts, rfl, hw⟩
  · refine ⟨none, ts, rfl, ⟨nofun, nofun⟩, fun _ => hr, ?_⟩
    rw [chunk_eq]
    exact (Rewind.reads_takeIf_none (refused_contents.1 hr)).ifSome_none none
  · have hk : head.kind = .directive d := by simpa using hw
    obtain ⟨first, rest₁, hb, hs₁, hr₁, hreads₁⟩ := reads_block (τ := τ) (ε := ε) head ts
    obtain ⟨e, rest, he, hs₂, hr₂, hreads₂⟩ := reads_linked (τ := τ) (ε := ε) hb rest₁ hr₁
    have hspell : contents (head :: ts) = e.spelling d ++ contents rest := by rw [hs₁ d hk, hs₂ d]
    -- a first block at the end cannot be linked to anything, since its spelling would be a longer one
    have hnil : rest₁ = [] → rest = [] := by
      rintro rfl
      have h : contents [] = [] ++ contents rest :=
        (Expression.spelling_append_inj hb.canonical he (refused_nil _) hr₂ (hs₂ d)).2.2
      exact eq_nil_of_contents h rfl
    refine ⟨some e, rest, by simpa [spellParts] using hspell, ⟨by simpa using he, by simpa using hr₂⟩, nofun, ?_⟩
    rw [chunk_eq]
    exact .ifSome_takeIf none hw (hreads₁.andThen (hreads₂.andMake some) hnil)

/-- The behavior in front, if there is an action or an expectation. -/
theorem reads_behavior (ts : List Token) :
    ∃ o rest, contents ts = spellParts (o.toList.flatMap Behavior.parts) ++ contents rest ∧
      Complete (o.toList.flatMap Behavior.parts) (contents rest) ∧
      (∀ b ∈ o, (b.action ≠ none ∨ b.expectation ≠ none) ∧
        (b.OnlyActs → Refused (· == .directive .expectation) (contents rest))) ∧
      (o = none → Refused (· == .directive .action) (contents rest) ∧
        Refused (· == .directive .expectation) (contents rest)) ∧
      Reads (τ := τ) (ε := ε) behavior ts o rest := by
  obtain ⟨a, rest₁, hs₁, hc₁, ha, hreads₁⟩ := reads_chunk (τ := τ) (ε := ε) .action ts
  obtain ⟨e, rest, hs₂, hc₂, he, hreads₂⟩ := reads_chunk (τ := τ) (ε := ε) .expectation rest₁
  have hreads : Reads (τ := τ) (ε := ε) behavior ts (sided a e) rest := by
    rw [behavior_eq]
    exact hreads₁.andThen (hreads₂.andMake (sided a)) (eq_nil_of_contents hs₂)
  have hspell : contents ts = spellParts (Behavior.parts ⟨a, e⟩) ++ contents rest := by
    rw [hs₁, hs₂]
    simp [spellParts, Behavior.parts]
  have hcomplete : Complete (Behavior.parts ⟨a, e⟩) (contents rest) := (hs₂ ▸ hc₁).append hc₂
  by_cases hn : a = none ∧ e = none
  · obtain ⟨rfl, rfl⟩ := hn
    have h : contents rest₁ = contents rest := hs₂
    exact ⟨none, rest, hspell, hcomplete, by simp, fun _ => ⟨h ▸ ha rfl, he rfl⟩, hreads⟩
  · have hif : sided a e = some ⟨a, e⟩ := by simpa [sided] using hn
    rw [hif] at hreads
    have hside : a ≠ none ∨ e ≠ none := by
      rw [not_and_or] at hn
      exact hn
    refine ⟨some ⟨a, e⟩, rest, by simpa using hspell, by simpa using hcomplete, ?_, by simp, hreads⟩
    rintro b ⟨⟩
    exact ⟨hside, fun hb => he hb.2⟩

/-- The behaviors in front: neighbours are not halves of one, since an expectation after an action belongs to it. -/
theorem reads_behaviors (ts : List Token) :
    ∃ bs rest, contents ts = spellParts (bs.flatMap Behavior.parts) ++ contents rest ∧
      Complete (bs.flatMap Behavior.parts) (contents rest) ∧
      (∀ b ∈ bs, b.action ≠ none ∨ b.expectation ≠ none) ∧
      (bs.IsChain fun b c => ¬ (b.OnlyActs ∧ c.OnlyExpects)) ∧
      Refused (· == .directive .action) (contents rest) ∧ Refused (· == .directive .expectation) (contents rest) ∧
      Reads (τ := τ) (ε := ε) behaviors ts bs rest := by
  induction hn : ts.length using Nat.strongRecOn generalizing ts with
  | ind n ih =>
    subst hn
    obtain ⟨o, rest₁, hs₁, hc₁, ho, hnone, hreads₁⟩ := reads_behavior (τ := τ) (ε := ε) ts
    cases o with
    | none =>
      refine ⟨[], rest₁, hs₁, hc₁, nofun, .nil, (hnone rfl).1, (hnone rfl).2, ?_⟩
      rw [behaviors_eq]
      exact hreads₁.ifSome_none []
    | some b =>
      obtain ⟨hside, honly⟩ := ho b rfl
      have hlen : rest₁.length < ts.length := by
        obtain ⟨p, ps, hp⟩ := List.exists_cons_of_ne_nil (Behavior.parts_ne_nil hside)
        have hmem : p ∈ (some b).toList.flatMap Behavior.parts := by simp [hp]
        exact length_lt_of_contents (hc₁.canonical p hmem) (by simpa [hp] using hs₁)
      obtain ⟨bs, rest, hs₂, hc₂, hsides, hchain, hra, hre, hreads₂⟩ := ih rest₁.length hlen rest₁ rfl
      refine ⟨b :: bs, rest, ?_, ?_, ?_, ?_, hra, hre, ?_⟩
      · rw [hs₁, hs₂]
        simp [spellParts]
      · have h : Complete b.parts (contents rest₁) := by simpa using hc₁
        exact (hs₂ ▸ h).append hc₂
      · simpa using ⟨hside, hsides⟩
      · cases bs with
        | nil => exact .singleton b
        | cons c bs =>
          refine .cons_cons ?_ hchain
          rintro ⟨hb, hac, hec⟩
          obtain ⟨e, he⟩ := Option.ne_none_iff_exists'.1 hec
          have hp : c.parts = [(.expectation, e)] := by simp [Behavior.parts, hac, he]
          obtain ⟨t, r, hs⟩ := Expression.head_spelling (hc₂.canonical (.expectation, e) (by simp [hp])) .expectation
          have hr := honly hb
          rw [hs₂, List.flatMap_cons, hp, spellParts, List.flatMap_append, List.flatMap_singleton, hs] at hr
          simpa using refused_cons.1 hr
      · rw [behaviors_eq]
        exact hreads₁.ifSome_some [] (hreads₂.andMake (b :: ·)) (eq_nil_of_contents hs₂)

/-- The scenario in front, if there is a precondition. -/
theorem reads_scenario (ts : List Token) :
    ∃ o rest, contents ts = spellParts (o.toList.flatMap Scenario.parts) ++ contents rest ∧
      (∀ sc ∈ o, sc.Canonical ∧ ∀ p ∈ sc.parts.getLast?, Refused p.takes (contents rest)) ∧
      (o = none → Refused (· == .directive .precondition) (contents rest)) ∧
      Reads (τ := τ) (ε := ε) scenario ts o rest := by
  obtain ⟨p, rest₁, hs₁, hc₁, hp, hreads₁⟩ := reads_chunk (τ := τ) (ε := ε) .precondition ts
  cases p with
  | none =>
    refine ⟨none, rest₁, hs₁, by simp, fun _ => hp rfl, ?_⟩
    rw [scenario_eq]
    exact hreads₁.ifSome_none none
  | some p =>
    obtain ⟨bs, rest₂, hs₂, hc₂, hsides, hchain, hra, hre, hreads₂⟩ := reads_behaviors (τ := τ) (ε := ε) rest₁
    obtain ⟨c, rest, hs₃, hc₃, hc, hreads₃⟩ := reads_chunk (τ := τ) (ε := ε) .cleanup rest₂
    have hspell : contents rest₁ =
        spellParts (bs.flatMap Behavior.parts ++ c.toList.map (Prod.mk .cleanup)) ++ contents rest := by
      rw [hs₂, hs₃]
      simp [spellParts]
    have hcomplete : Complete (Scenario.parts ⟨p, bs, c⟩) (contents rest) :=
      (hspell ▸ hc₁).append ((hs₃ ▸ hc₂).append hc₃)
    refine ⟨some ⟨p, bs, c⟩, rest, ?_, ?_, by simp, ?_⟩
    · rw [hs₁, hspell]
      simp [spellParts, Scenario.parts]
    · rintro sc ⟨⟩
      refine ⟨⟨hcomplete.canonical, hsides, hchain⟩, fun q hq k hk => ?_⟩
      have hq₁ := hcomplete.refused q hq k hk
      cases c with
      | some e =>
        have hlast : (.cleanup, e) = q := by
          simpa [Scenario.parts, List.getLast?_cons] using hq
        subst hlast
        simpa [Part.takes] using hq₁
      | none =>
        have h : contents rest₂ = contents rest := hs₃
        have h₁ := (h ▸ hra) k hk
        have h₂ := (h ▸ hre) k hk
        have h₃ := hc rfl k hk
        simp_all [Part.takes]
    · rw [scenario_eq]
      refine hreads₁.ifSome_some none ?_ fun h => eq_nil_of_contents hs₃ (eq_nil_of_contents hs₂ h)
      exact Rewind.Reads.andThen (g := fun bs => andMake (chunk .cleanup) fun c => some (Scenario.mk p bs c)) hreads₂
        (hreads₃.andMake fun c => some (Scenario.mk p bs c)) (eq_nil_of_contents hs₃)

/-- A rest that goes on with nothing after the first scenario and nothing after the others goes on with nothing. -/
private theorem stuck_cons {sc : Scenario} {ss : List Scenario} {r : List Content} (hss : Stuck ss r)
    (hsc : ∀ p ∈ sc.parts.getLast?, Refused p.takes (spelling ss ++ r)) : Stuck (sc :: ss) r := by
  cases ss with
  | nil =>
    intro c hc
    have h₁ := hss c hc
    obtain ⟨p, hp⟩ := Option.ne_none_iff_exists'.1 (show sc.parts.getLast? ≠ none by simp [Scenario.parts])
    have h₂ := hsc p hp c hc
    simp_all [takesAfter]
  | cons s ss =>
    rw [Stuck, List.flatMap_cons, List.getLast?_append_of_ne_nil _ (by simp [Scenario.parts])]
    exact hss

/-- The scenarios in front are canonical, and the parser takes exactly the tokens that spell them. -/
theorem reads_parse (ts : List Token) :
    ∃ ss rest, contents ts = spelling ss ++ contents rest ∧ (∀ s ∈ ss, s.Canonical) ∧ Stuck ss (contents rest) ∧
      Reads (τ := τ) (ε := ε) parse ts ss rest := by
  induction hn : ts.length using Nat.strongRecOn generalizing ts with
  | ind n ih =>
    subst hn
    obtain ⟨o, rest₁, hs₁, ho, hnone, hreads₁⟩ := reads_scenario (τ := τ) (ε := ε) ts
    cases o with
    | none =>
      refine ⟨[], rest₁, hs₁, nofun, ?_, ?_⟩
      · exact (hnone rfl).mono fun k hk => by simpa [takesAfter] using hk
      · rw [parse_eq]
        exact hreads₁.ifSome_none []
    | some sc =>
      obtain ⟨hcan, hlast⟩ := ho sc rfl
      have hlen : rest₁.length < ts.length :=
        length_lt_of_contents (hcan.expressions _ sc.precondition_mem_parts)
          (by simpa [Scenario.parts] using hs₁)
      obtain ⟨ss, rest, hs₂, hcans, hstuck, hreads₂⟩ := ih rest₁.length hlen rest₁ rfl
      refine ⟨sc :: ss, rest, ?_, by simpa using ⟨hcan, hcans⟩, ?_, ?_⟩
      · rw [hs₁, hs₂]
        simp [spellParts, spelling]
      · exact stuck_cons hstuck (hs₂ ▸ hlast)
      · rw [parse_eq]
        exact hreads₁.ifSome_some [] (hreads₂.andMake (sc :: ·)) (eq_nil_of_contents hs₂)

theorem faces_ofTokens {s : τ} {ts : List Token} {x : Finish τ ε} (h : Source.Yields s ts x) :
    (ofTokens s).Faces Token.isSignificant (ts.filter Token.isSignificant) x :=
  Rewind.faces_ofSource Token.isSignificant h

/-- What is found in front, past prose. -/
def next (s : Rewind τ Token) : Answer Token ε := (Source.seek Token.isSignificant s).1

/-- There is no token left but prose. -/
def Exhausted (s : Rewind τ Token) : Prop := next s = .stop

instance (s : Rewind τ Token) : Decidable (Exhausted s) :=
  match h : next s with
  | .stop => isTrue h
  | .item _ => isFalse fun hs => by cases h.symm.trans hs
  | .failed _ => isFalse fun hs => by cases h.symm.trans hs

theorem exhausted_iff_of_faces {s : Rewind τ Token} {ts : List Token}
    (h : s.Faces Token.isSignificant ts (.stops : Finish τ ε)) : Exhausted s ↔ ts = [] := by
  cases ts with
  | nil => exact iff_of_true (Rewind.answer_of_faces_nil h) rfl
  | cons t ts =>
    refine iff_of_false (fun hs => ?_) (by simp)
    cases (Rewind.answer_of_faces_cons h).symm.trans hs

/-- Canonical scenarios that the tokens begin with, and that cannot go on with what comes next. -/
def Greedy (cs : List Content) (ss : List Scenario) : Prop :=
  (∀ s ∈ ss, s.Canonical) ∧ ∃ rest, cs = spelling ss ++ rest ∧ Stuck ss rest

theorem Greedy.unique {cs : List Content} {ss ss' : List Scenario} (h : Greedy cs ss) (h' : Greedy cs ss') :
    ss = ss' := by
  obtain ⟨hcan, rest, hs, hstuck⟩ := h
  obtain ⟨hcan', rest', hs', hstuck'⟩ := h'
  exact (spelling_append_inj hcan hcan' hstuck hstuck' (hs.symm.trans hs')).1

/-- From a source that yields tokens and stops, the parser does not fail. -/
theorem exists_greedy {s : τ} {ts : List Token} (h : Source.Yields s ts (.stops : Finish τ ε)) :
    ∃ ss, (parse (ofTokens s)).1 = .ok ss ∧ Greedy (contents (ts.filter Token.isSignificant)) ss := by
  obtain ⟨ss, rest, hs, hcan, hstuck, hreads⟩ := reads_parse (τ := τ) (ε := ε) (ts.filter Token.isSignificant)
  obtain ⟨t, ht, -⟩ := hreads.of_stops (faces_ofTokens h)
  exact ⟨ss, congrArg Prod.fst ht, hcan, contents rest, hs, hstuck⟩

/-- From a source that yields tokens and stops, the parser makes the longest reading of those that are not prose, and
it is left in front of the rest. -/
theorem parse_longestReading {σ : Type} [Source σ Token ε] {s : σ} {ts : List Token}
    (h : Source.Yields s ts .stops) :
    ∃ ss rest t, parse (ofTokens s) = (.ok ss, t) ∧ t.Ahead rest .stops ∧
      LongestReading (contents (ts.filter Token.isSignificant)) ss (contents (rest.filter Token.isSignificant)) := by
  obtain ⟨ss, left, hs, hcan, hstuck, hreads⟩ := reads_parse (τ := σ) (ε := ε) (ts.filter Token.isSignificant)
  obtain ⟨t, ht, rest, hta, rfl⟩ := hreads.of_stops (faces_ofTokens h)
  rw [hs]
  exact ⟨ss, rest, t, ht, hta, longestReading_of_stuck hcan hstuck⟩

/-- After blocks of which one must hold, a further block that must hold too stops the parser. -/
theorem parse_longestReading_stray :
    let ts : List Token := [⟨.directive .precondition, "A", 1⟩, ⟨.prose, "p", 2⟩, ⟨.directive .instead, "B", 3⟩,
      ⟨.command, "b", 4⟩, ⟨.directive .also, "C", 5⟩, ⟨.directive .action, "D", 6⟩]
    let s : Script Token Fault := ts.map .item
    Source.Yields s ts .stops ∧ ∃ ss rest t, parse (ofTokens s) = (.ok ss, t) ∧ t.Ahead rest .stops ∧
      LongestReading (contents (ts.filter Token.isSignificant)) ss (contents (rest.filter Token.isSignificant)) :=
  ⟨Script.yields_items _, parse_longestReading (Script.yields_items _)⟩

end Parser

end Acceptance
