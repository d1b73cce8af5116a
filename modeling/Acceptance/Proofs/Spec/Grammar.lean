import Mathlib.Data.List.Chain
import Acceptance.Spec.Basic
import Acceptance.Token.Basic

/-!
# The tokens that spell scenarios

Every scenario can be spelled as tokens in the order of the text: the precondition, the action and the expectation of
each behavior, and the cleanup, each chunk with its directive, its commands and the blocks chained to it.  Of the
trees with the same spelling exactly one is canonical: its expressions are blocks or flat chains of at least two
blocks, each behavior has a side, and no lone action is followed by a lone expectation.

The main result is `spelling_append_inj`: a list of tokens splits in at most one way into the spelling of canonical
scenarios and a rest that cannot go on with them.  It is proved in two steps, from tokens to chunks
(`spellParts_append_inj`) and from chunks to scenarios (`parts_append_inj`).
-/

namespace Acceptance

/-- The kind and the value of a token. -/
abbrev Content := TokenKind × String

/-- A token without its line. -/
def Token.content (t : Token) : Content := (t.kind, t.value)

def contents (ts : List Token) : List Content := ts.map Token.content

namespace Expression

mutual

/-- The tokens of an expression under the directive `d`. -/
def spelling (d : Directive) : Expression → List Content
  | .block description commands => (.directive d, description) :: commands.map (Prod.mk .command)
  | .all children => chainSpelling d .also children
  | .any children => chainSpelling d .instead children

/-- The tokens of expressions in a chain, the first under `d` and the others under `link`. -/
def chainSpelling (d link : Directive) : List Expression → List Content
  | [] => []
  | e :: es => e.spelling d ++ chainSpelling link link es

end

/-- A single block of commands. -/
def IsBlock : Expression → Prop
  | .block .. => True
  | _ => False

/-- A block, or a chain of at least two blocks with nothing nested. -/
def Canonical : Expression → Prop
  | .block .. => True
  | .all children => 2 ≤ children.length ∧ ∀ e ∈ children, e.IsBlock
  | .any children => 2 ≤ children.length ∧ ∀ e ∈ children, e.IsBlock

/-- Whether a token of kind `k` right after the expression would belong to it. -/
def takes : Expression → TokenKind → Bool
  | .block .., k => k == .command || k == .directive .also || k == .directive .instead
  | .all _, k => k == .command || k == .directive .also
  | .any _, k => k == .command || k == .directive .instead

end Expression

/-- An expression and the directive it stands under. -/
abbrev Part := Directive × Expression

namespace Behavior

/-- The sides of a behavior that are present. -/
def parts (b : Behavior) : List Part :=
  b.action.toList.map (Prod.mk .action) ++ b.expectation.toList.map (Prod.mk .expectation)

theorem action_mem_parts {b : Behavior} {e : Expression} (h : e ∈ b.action) : (.action, e) ∈ b.parts := by
  simp [parts, Option.mem_def.1 h]

theorem expectation_mem_parts {b : Behavior} {e : Expression} (h : e ∈ b.expectation) :
    (.expectation, e) ∈ b.parts := by
  simp [parts, Option.mem_def.1 h]

theorem parts_ne_nil {b : Behavior} (h : b.action ≠ none ∨ b.expectation ≠ none) : b.parts ≠ [] := by
  obtain ⟨a, e⟩ := b
  cases a <;> cases e <;> simp_all [parts]

/-- An action without an expectation. -/
def OnlyActs (b : Behavior) : Prop := b.action ≠ none ∧ b.expectation = none

/-- An expectation without an action. -/
def OnlyExpects (b : Behavior) : Prop := b.action = none ∧ b.expectation ≠ none

end Behavior

namespace Scenario

/-- The chunks of a scenario in the order of the text. -/
def parts (s : Scenario) : List Part :=
  (.precondition, s.precondition) :: (s.behaviors.flatMap Behavior.parts ++ s.cleanup.toList.map (Prod.mk .cleanup))

theorem precondition_mem_parts (s : Scenario) : (.precondition, s.precondition) ∈ s.parts := List.mem_cons_self

theorem mem_parts_of_mem_behaviors {s : Scenario} {b : Behavior} {p : Part} (hb : b ∈ s.behaviors)
    (hp : p ∈ b.parts) : p ∈ s.parts :=
  List.mem_cons_of_mem _ (List.mem_append_left _ (List.mem_flatMap.2 ⟨b, hb, hp⟩))

theorem cleanup_mem_parts {s : Scenario} {e : Expression} (h : e ∈ s.cleanup) : (.cleanup, e) ∈ s.parts := by
  simp [parts, Option.mem_def.1 h]

/-- The form in which a scenario comes out of a text. -/
structure Canonical (s : Scenario) : Prop where
  /-- Expressions are blocks or flat chains. -/
  expressions : ∀ p ∈ s.parts, p.2.Canonical
  /-- Behaviors are not empty. -/
  sides : ∀ b ∈ s.behaviors, b.action ≠ none ∨ b.expectation ≠ none
  /-- Two neighbours are not halves of one behavior. -/
  unpaired : s.behaviors.IsChain fun b c => ¬ (b.OnlyActs ∧ c.OnlyExpects)

end Scenario

/-- The tokens of chunks, one after the other. -/
def spellParts (ps : List Part) : List Content := ps.flatMap fun p => p.2.spelling p.1

/-- The tokens of scenarios, one after the other. -/
def spelling (ss : List Scenario) : List Content := spellParts (ss.flatMap Scenario.parts)

/-- Whether a token of kind `k` right after the chunk would belong to the same scenario. -/
def Part.takes (p : Part) (k : TokenKind) : Bool :=
  p.2.takes k ||
    (p.1 != .cleanup && (k == .directive .action || k == .directive .expectation || k == .directive .cleanup))

/-- Whether a token of kind `k` can stand after scenarios of which `last` is the last chunk. -/
def takesAfter (last : Option Part) (k : TokenKind) : Bool :=
  k == .directive .precondition || last.any (·.takes k)

/-- The token in front is not one that is taken. -/
def Refused (taken : TokenKind → Bool) (r : List Content) : Prop := ∀ c ∈ r.head?, taken c.1 = false

theorem refused_nil (taken : TokenKind → Bool) : Refused taken [] := nofun

theorem refused_cons {taken : TokenKind → Bool} {c : Content} {r : List Content} :
    Refused taken (c :: r) ↔ taken c.1 = false := by
  simp [Refused]

theorem Refused.mono {f g : TokenKind → Bool} {r : List Content} (h : Refused f r) (hfg : ∀ k, g k → f k) :
    Refused g r := by
  intro c hc
  have hf := h c hc
  by_contra hg
  rw [hfg c.1 (by simpa using hg)] at hf
  cases hf

/-! ### From tokens to chunks -/

namespace Expression

theorem IsBlock.eq {e : Expression} (h : e.IsBlock) : ∃ description commands, e = .block description commands := by
  cases e with
  | block d cs => exact ⟨d, cs, rfl⟩
  | all | any => cases h

theorem IsBlock.canonical {e : Expression} (h : e.IsBlock) : e.Canonical := by
  obtain ⟨d, cs, rfl⟩ := h.eq
  trivial

private theorem commands_append_inj {cs cs' : List String} {r r' : List Content}
    (hr : Refused (· == .command) r) (hr' : Refused (· == .command) r')
    (h : cs.map (Prod.mk TokenKind.command) ++ r = cs'.map (Prod.mk .command) ++ r') : cs = cs' ∧ r = r' := by
  induction cs generalizing cs' with
  | nil =>
    cases cs' with
    | nil => exact ⟨rfl, h⟩
    | cons c' cs' =>
      rw [List.map_nil, List.nil_append] at h
      rw [h, List.map_cons, List.cons_append, refused_cons] at hr
      cases hr
  | cons c cs ih =>
    cases cs' with
    | nil =>
      rw [List.map_nil, List.nil_append] at h
      rw [← h, List.map_cons, List.cons_append, refused_cons] at hr'
      cases hr'
    | cons c' cs' =>
      simp only [List.map_cons, List.cons_append, List.cons.injEq, Prod.mk.injEq, true_and] at h
      obtain ⟨rfl, hr⟩ := ih h.2
      exact ⟨by rw [h.1], hr⟩

private theorem block_append_inj {d d' : Directive} {b b' : Expression} {r r' : List Content} (hb : b.IsBlock)
    (hb' : b'.IsBlock) (hr : Refused (· == .command) r) (hr' : Refused (· == .command) r')
    (h : b.spelling d ++ r = b'.spelling d' ++ r') : d = d' ∧ b = b' ∧ r = r' := by
  obtain ⟨t, cs, rfl⟩ := hb.eq
  obtain ⟨t', cs', rfl⟩ := hb'.eq
  simp only [spelling, List.cons_append, List.cons.injEq, Prod.mk.injEq, TokenKind.directive.injEq] at h
  obtain ⟨⟨rfl, rfl⟩, h⟩ := h
  obtain ⟨rfl, rfl⟩ := commands_append_inj hr hr' h
  exact ⟨rfl, rfl, rfl⟩

/-- A chain of blocks begins with its link. -/
private theorem head_chain (link : Directive) {e : Expression} (es : List Expression) (he : e.IsBlock)
    (r : List Content) : ∃ t r₁, chainSpelling link link (e :: es) ++ r = (.directive link, t) :: r₁ := by
  obtain ⟨t, cs, rfl⟩ := he.eq
  exact ⟨t, _, rfl⟩

private theorem refused_chain {link : Directive} {es : List Expression} {r : List Content}
    (hes : ∀ e ∈ es, e.IsBlock) (hr : Refused (· == .command) r) :
    Refused (· == .command) (chainSpelling link link es ++ r) := by
  cases es with
  | nil => exact hr
  | cons e es =>
    obtain ⟨t, r₁, h⟩ := head_chain link es (hes e (by simp)) r
    rw [h, refused_cons]
    rfl

private theorem chain_append_inj {link : Directive} {es es' : List Expression} {r r' : List Content}
    (hes : ∀ e ∈ es, e.IsBlock) (hes' : ∀ e ∈ es', e.IsBlock)
    (hr : Refused (fun k => k == .command || k == .directive link) r)
    (hr' : Refused (fun k => k == .command || k == .directive link) r')
    (h : chainSpelling link link es ++ r = chainSpelling link link es' ++ r') : es = es' ∧ r = r' := by
  have hc : Refused (· == .command) r := hr.mono (by simp_all)
  have hc' : Refused (· == .command) r' := hr'.mono (by simp_all)
  induction es generalizing es' with
  | nil =>
    cases es' with
    | nil => exact ⟨rfl, h⟩
    | cons e' es' =>
      obtain ⟨t, r₁, hh⟩ := head_chain link es' (hes' e' (by simp)) r'
      rw [hh] at h
      rw [show r = _ from h, refused_cons] at hr
      simp at hr
  | cons e es ih =>
    cases es' with
    | nil =>
      obtain ⟨t, r₁, hh⟩ := head_chain link es (hes e (by simp)) r
      rw [hh] at h
      rw [show r' = _ from h.symm, refused_cons] at hr'
      simp at hr'
    | cons e' es' =>
      simp only [chainSpelling, List.append_assoc] at h
      have hes₁ : ∀ e ∈ es, e.IsBlock := fun e he => hes e (by simp [he])
      have hes₁' : ∀ e ∈ es', e.IsBlock := fun e he => hes' e (by simp [he])
      obtain ⟨-, rfl, h₁⟩ := block_append_inj (hes e (by simp)) (hes' e' (by simp)) (refused_chain hes₁ hc)
        (refused_chain hes₁' hc') h
      obtain ⟨rfl, rfl⟩ := ih hes₁ hes₁' h₁
      exact ⟨rfl, rfl⟩

/-- The block an expression begins with. -/
private def firstBlock : Expression → Expression
  | .all (e :: _) => e
  | .any (e :: _) => e
  | e => e

/-- The tokens after the first block of an expression. -/
private def linkSpelling : Expression → List Content
  | .all (_ :: es) => chainSpelling .also .also es
  | .any (_ :: es) => chainSpelling .instead .instead es
  | _ => []

/-- A canonical expression is a block, or a chain that begins with two blocks. -/
private theorem Canonical.cases {e : Expression} (h : e.Canonical) :
    e.IsBlock ∨ ∃ a b es, (a.IsBlock ∧ b.IsBlock ∧ ∀ e ∈ es, e.IsBlock) ∧
      (e = .all (a :: b :: es) ∨ e = .any (a :: b :: es)) := by
  cases e with
  | block d cs => exact .inl trivial
  | all children | any children =>
    obtain ⟨hlen, hb⟩ := h
    rcases children with _ | ⟨a, _ | ⟨b, es⟩⟩
    · simp at hlen
    · simp at hlen
    · exact .inr ⟨a, b, es, ⟨hb a (by simp), hb b (by simp), fun e he => hb e (by simp [he])⟩, by simp⟩

private theorem spelling_eq_append {e : Expression} (h : e.Canonical) (d : Directive) :
    e.firstBlock.IsBlock ∧ e.spelling d = e.firstBlock.spelling d ++ e.linkSpelling := by
  rcases h.cases with h | ⟨a, b, es, ⟨ha, -, -⟩, rfl | rfl⟩
  · obtain ⟨t, cs, rfl⟩ := h.eq
    exact ⟨trivial, (List.append_nil _).symm⟩
  · exact ⟨ha, by simp only [spelling, chainSpelling, firstBlock, linkSpelling]⟩
  · exact ⟨ha, by simp only [spelling, chainSpelling, firstBlock, linkSpelling]⟩

private theorem refused_linkSpelling {e : Expression} {r : List Content} (h : e.Canonical)
    (hr : Refused e.takes r) : Refused (· == .command) (e.linkSpelling ++ r) := by
  rcases h.cases with h | ⟨a, b, es, ⟨-, hb, hes⟩, rfl | rfl⟩
  · obtain ⟨t, cs, rfl⟩ := h.eq
    exact hr.mono (by simp_all [takes])
  · exact refused_chain (by simpa using ⟨hb, hes⟩) (hr.mono (by simp_all [takes]))
  · exact refused_chain (by simpa using ⟨hb, hes⟩) (hr.mono (by simp_all [takes]))

private theorem linkSpelling_append_inj {e e' : Expression} {r r' : List Content} (h : e.Canonical)
    (h' : e'.Canonical) (hr : Refused e.takes r) (hr' : Refused e'.takes r') (hf : e.firstBlock = e'.firstBlock)
    (heq : e.linkSpelling ++ r = e'.linkSpelling ++ r') : e = e' ∧ r = r' := by
  rcases h.cases with h | ⟨a, b, es, ⟨-, hb, hes⟩, hd⟩ <;>
    rcases h'.cases with h' | ⟨a', b', es', ⟨-, hb', hes'⟩, hd'⟩
  · obtain ⟨t, cs, rfl⟩ := h.eq
    obtain ⟨t', cs', rfl⟩ := h'.eq
    exact ⟨hf, heq⟩
  · -- the second expression goes on with a link that the first would have taken
    obtain ⟨t, cs, rfl⟩ := h.eq
    obtain ⟨u, r₁, hu⟩ := head_chain .also es' hb' r'
    obtain ⟨v, r₂, hv⟩ := head_chain .instead es' hb' r'
    have hr₁ : r = e'.linkSpelling ++ r' := heq
    rcases hd' with rfl | rfl <;> simp only [linkSpelling, hu, hv] at hr₁ <;> rw [hr₁, refused_cons] at hr <;>
      simp [takes] at hr
  · obtain ⟨t, cs, rfl⟩ := h'.eq
    obtain ⟨u, r₁, hu⟩ := head_chain .also es hb r
    obtain ⟨v, r₂, hv⟩ := head_chain .instead es hb r
    have hr₁ : r' = e.linkSpelling ++ r := heq.symm
    rcases hd with rfl | rfl <;> simp only [linkSpelling, hu, hv] at hr₁ <;> rw [hr₁, refused_cons] at hr' <;>
      simp [takes] at hr'
  · have hbs : ∀ e ∈ b :: es, e.IsBlock := by simpa using ⟨hb, hes⟩
    have hbs' : ∀ e ∈ b' :: es', e.IsBlock := by simpa using ⟨hb', hes'⟩
    rcases hd with rfl | rfl <;> rcases hd' with rfl | rfl
    · obtain ⟨hl, hrest⟩ := chain_append_inj hbs hbs' hr hr' heq
      exact ⟨by rw [hl, show a = a' from hf], hrest⟩
    · obtain ⟨u, r₁, hu⟩ := head_chain .also es hb r
      obtain ⟨v, r₂, hv⟩ := head_chain .instead es' hb' r'
      simp [linkSpelling, hu, hv] at heq
    · obtain ⟨u, r₁, hu⟩ := head_chain .instead es hb r
      obtain ⟨v, r₂, hv⟩ := head_chain .also es' hb' r'
      simp [linkSpelling, hu, hv] at heq
    · obtain ⟨hl, hrest⟩ := chain_append_inj hbs hbs' hr hr' heq
      exact ⟨by rw [hl, show a = a' from hf], hrest⟩

/-- A canonical expression and its directive can be told from the tokens, up to a token it does not take. -/
theorem spelling_append_inj {d d' : Directive} {e e' : Expression} {r r' : List Content} (h : e.Canonical)
    (h' : e'.Canonical) (hr : Refused e.takes r) (hr' : Refused e'.takes r')
    (heq : e.spelling d ++ r = e'.spelling d' ++ r') : d = d' ∧ e = e' ∧ r = r' := by
  obtain ⟨hb, hs⟩ := spelling_eq_append h d
  obtain ⟨hb', hs'⟩ := spelling_eq_append h' d'
  rw [hs, hs', List.append_assoc, List.append_assoc] at heq
  obtain ⟨hd, hf, hl⟩ := block_append_inj hb hb' (refused_linkSpelling h hr) (refused_linkSpelling h' hr') heq
  exact ⟨hd, linkSpelling_append_inj h h' hr hr' hf hl⟩

/-- An expression is spelled with its directive in front. -/
theorem head_spelling {e : Expression} (h : e.Canonical) (d : Directive) :
    ∃ t r, e.spelling d = (.directive d, t) :: r := by
  obtain ⟨hb, hs⟩ := spelling_eq_append h d
  obtain ⟨t, cs, hf⟩ := hb.eq
  rw [hs, hf]
  exact ⟨t, _, rfl⟩

end Expression

/-- A directive that starts a chunk, rather than chaining a block to one. -/
def Directive.Opens (d : Directive) : Prop := d ≠ .also ∧ d ≠ .instead

/-- A chunk of a canonical scenario. -/
def IsChunk (p : Part) : Prop := p.1.Opens ∧ p.2.Canonical

theorem Expression.not_takes_of_opens {d : Directive} (h : d.Opens) (e : Expression) :
    e.takes (.directive d) = false := by
  obtain ⟨h₁, h₂⟩ := h
  cases e <;> simp [takes, h₁, h₂]

/-- What follows an expression in a list of chunks is refused by it. -/
theorem refused_spellParts {ps : List Part} {r : List Content} (hps : ∀ p ∈ ps, IsChunk p) (e : Expression)
    (hr : ps = [] → Refused e.takes r) : Refused e.takes (spellParts ps ++ r) := by
  cases ps with
  | nil => exact hr rfl
  | cons p ps =>
    obtain ⟨hd, he⟩ := hps p (by simp)
    obtain ⟨t, r₁, hs⟩ := Expression.head_spelling he p.1
    rw [spellParts, List.flatMap_cons, hs]
    exact refused_cons.2 (Expression.not_takes_of_opens hd e)

/-- Of two ways to read tokens as chunks, one goes further than the other. -/
theorem spellParts_append_inj {ps ps' : List Part} {r r' : List Content} (hps : ∀ p ∈ ps, IsChunk p)
    (hps' : ∀ p ∈ ps', IsChunk p) (hr : ∀ p ∈ ps.getLast?, Refused p.2.takes r)
    (hr' : ∀ p ∈ ps'.getLast?, Refused p.2.takes r') (h : spellParts ps ++ r = spellParts ps' ++ r') :
    (∃ qs, ps' = ps ++ qs ∧ r = spellParts qs ++ r') ∨ ∃ qs, ps = ps' ++ qs ∧ r' = spellParts qs ++ r := by
  induction ps generalizing ps' with
  | nil => exact .inl ⟨ps', rfl, h⟩
  | cons p ps ih =>
    cases ps' with
    | nil => exact .inr ⟨p :: ps, rfl, h.symm⟩
    | cons p' ps' =>
      have hps₁ : ∀ q ∈ ps, IsChunk q := fun q hq => hps q (by simp [hq])
      have hps₁' : ∀ q ∈ ps', IsChunk q := fun q hq => hps' q (by simp [hq])
      have hp : Refused p.2.takes (spellParts ps ++ r) :=
        refused_spellParts hps₁ p.2 fun hn => hr p (by simp [hn])
      have hp' : Refused p'.2.takes (spellParts ps' ++ r') :=
        refused_spellParts hps₁' p'.2 fun hn => hr' p' (by simp [hn])
      simp only [spellParts, List.flatMap_cons, List.append_assoc] at h hp hp'
      obtain ⟨hd, he, h₁⟩ := Expression.spelling_append_inj (hps p (by simp)).2 (hps' p' (by simp)).2 hp hp' h
      have hl : ∀ q ∈ ps.getLast?, Refused q.2.takes r := fun q hq => hr q (by
        rw [List.getLast?_cons, Option.mem_def.1 hq]; rfl)
      have hl' : ∀ q ∈ ps'.getLast?, Refused q.2.takes r' := fun q hq => hr' q (by
        rw [List.getLast?_cons, Option.mem_def.1 hq]; rfl)
      rw [show p = p' from Prod.ext hd he]
      rcases ih hps₁ hps₁' hl hl' h₁ with ⟨qs, hqs, hrest⟩ | ⟨qs, hqs, hrest⟩
      · exact .inl ⟨qs, by rw [hqs]; rfl, hrest⟩
      · exact .inr ⟨qs, by rw [hqs]; rfl, hrest⟩

/-! ### From chunks to scenarios -/

/-- The directive of the first chunk is not `d`. -/
def NotNext (d : Directive) (ps : List Part) : Prop := ∀ p ∈ ps.head?, p.1 ≠ d

namespace Behavior

/-- After a lone action no expectation comes next, in behaviors of which no two are halves of one. -/
private theorem notNext_expectation {b : Behavior} {bs : List Behavior} {ps : List Part}
    (hs : ∀ c ∈ bs, c.action ≠ none ∨ c.expectation ≠ none)
    (hu : (b :: bs).IsChain fun b c => ¬ (b.OnlyActs ∧ c.OnlyExpects)) (hb : b.OnlyActs)
    (hps : NotNext .expectation ps) : NotNext .expectation (bs.flatMap parts ++ ps) := by
  cases bs with
  | nil => exact hps
  | cons c bs =>
    have hbc : ¬ (b.OnlyActs ∧ c.OnlyExpects) := (List.isChain_cons_cons.1 hu).1
    obtain ⟨a, e⟩ := c
    cases a with
    | some a => rintro p ⟨⟩; simp
    | none =>
      have he : e ≠ none := by simpa using hs ⟨none, e⟩ (by simp)
      exact absurd ⟨hb, rfl, he⟩ hbc

/-- A behavior can be told from the chunks, if a lone action is not followed by an expectation. -/
private theorem parts_append_inj_left {b b' : Behavior} {ps ps' : List Part}
    (hs : b.action ≠ none ∨ b.expectation ≠ none) (hs' : b'.action ≠ none ∨ b'.expectation ≠ none)
    (hn : b.OnlyActs → NotNext .expectation ps) (hn' : b'.OnlyActs → NotNext .expectation ps')
    (h : b.parts ++ ps = b'.parts ++ ps') : b = b' ∧ ps = ps' := by
  obtain ⟨a, e⟩ := b
  obtain ⟨a', e'⟩ := b'
  rcases a with _ | a <;> rcases a' with _ | a'
  · -- both begin with their expectation
    obtain ⟨e, rfl⟩ := Option.ne_none_iff_exists'.1 (by simpa using hs)
    obtain ⟨e', rfl⟩ := Option.ne_none_iff_exists'.1 (by simpa using hs')
    simpa [parts] using h
  · obtain ⟨e, rfl⟩ := Option.ne_none_iff_exists'.1 (by simpa using hs)
    simp [parts] at h
  · obtain ⟨e', rfl⟩ := Option.ne_none_iff_exists'.1 (by simpa using hs')
    simp [parts] at h
  · simp only [parts, Option.toList_some, List.map_cons, List.map_nil, List.cons_append, List.nil_append,
      List.cons.injEq, Prod.mk.injEq, true_and] at h
    obtain ⟨rfl, h⟩ := h
    rcases e with _ | e <;> rcases e' with _ | e'
    · exact ⟨rfl, h⟩
    · have := hn ⟨by simp, rfl⟩ (.expectation, e') (by rw [show ps = _ from h]; rfl)
      exact absurd rfl this
    · have := hn' ⟨by simp, rfl⟩ (.expectation, e) (by rw [show ps' = _ from h.symm]; rfl)
      exact absurd rfl this
    · simpa using h

/-- A behavior begins with its action or its expectation. -/
private theorem head_parts {b : Behavior} (hs : b.action ≠ none ∨ b.expectation ≠ none) (ps : List Part) :
    ¬ (NotNext .action (b.parts ++ ps) ∧ NotNext .expectation (b.parts ++ ps)) := by
  obtain ⟨a, e⟩ := b
  rintro ⟨ha, he⟩
  rcases a with _ | a
  · obtain ⟨e, rfl⟩ := Option.ne_none_iff_exists'.1 (by simpa using hs)
    exact he _ rfl rfl
  · exact ha _ rfl rfl

/-- Behaviors can be told from the chunks, up to one that is neither an action nor an expectation. -/
private theorem flatMap_parts_append_inj {bs bs' : List Behavior} {ps ps' : List Part}
    (hs : ∀ b ∈ bs, b.action ≠ none ∨ b.expectation ≠ none)
    (hs' : ∀ b ∈ bs', b.action ≠ none ∨ b.expectation ≠ none)
    (hu : bs.IsChain fun b c => ¬ (b.OnlyActs ∧ c.OnlyExpects))
    (hu' : bs'.IsChain fun b c => ¬ (b.OnlyActs ∧ c.OnlyExpects))
    (hn : NotNext .action ps ∧ NotNext .expectation ps) (hn' : NotNext .action ps' ∧ NotNext .expectation ps')
    (h : bs.flatMap parts ++ ps = bs'.flatMap parts ++ ps') : bs = bs' ∧ ps = ps' := by
  induction bs generalizing bs' with
  | nil =>
    cases bs' with
    | nil => exact ⟨rfl, h⟩
    | cons b' bs' =>
      rw [List.flatMap_cons, List.append_assoc] at h
      rw [show ps = _ from h] at hn
      exact absurd hn (head_parts (hs' b' (by simp)) _)
  | cons b bs ih =>
    cases bs' with
    | nil =>
      rw [List.flatMap_cons, List.append_assoc] at h
      rw [show ps' = _ from h.symm] at hn'
      exact absurd hn' (head_parts (hs b (by simp)) _)
    | cons b' bs' =>
      have hs₁ : ∀ c ∈ bs, c.action ≠ none ∨ c.expectation ≠ none := fun c hc => hs c (by simp [hc])
      have hs₁' : ∀ c ∈ bs', c.action ≠ none ∨ c.expectation ≠ none := fun c hc => hs' c (by simp [hc])
      rw [List.flatMap_cons, List.flatMap_cons, List.append_assoc, List.append_assoc] at h
      obtain ⟨rfl, h₁⟩ := parts_append_inj_left (hs b (by simp)) (hs' b' (by simp))
        (fun hb => notNext_expectation hs₁ hu hb hn.2) (fun hb => notNext_expectation hs₁' hu' hb hn'.2) h
      obtain ⟨rfl, hps⟩ := ih hs₁ hs₁' hu.tail hu'.tail h₁
      exact ⟨rfl, hps⟩

end Behavior

/-- The last chunk of a scenario without a cleanup is no cleanup. -/
private theorem getLast?_parts {s : Scenario} (hc : s.cleanup = none) :
    ∃ p ∈ s.parts.getLast?, p.1 ≠ .cleanup := by
  have hall : ∀ p ∈ s.parts, p.1 ≠ .cleanup := by
    simp only [Scenario.parts, hc, Option.toList_none, List.map_nil, List.append_nil, List.mem_cons,
      List.mem_flatMap, Behavior.parts, List.mem_append, List.mem_map]
    rintro p (rfl | ⟨b, -, ⟨e, -, rfl⟩ | ⟨e, -, rfl⟩⟩) <;> simp
  obtain ⟨p, hp⟩ := Option.ne_none_iff_exists'.1 (show s.parts.getLast? ≠ none by simp [Scenario.parts])
  exact ⟨p, hp, hall p (List.mem_of_getLast? hp)⟩

/-- A precondition can stand after anything. -/
private theorem takesAfter_none {last : Option Part} {k : TokenKind} (h : takesAfter last k = false) :
    takesAfter none k = false := by
  cases last with
  | none => exact h
  | some p => simp_all [takesAfter]

/-- What is refused after a scenario without a cleanup starts neither a behavior nor a cleanup. -/
private theorem notNext_of_refused {s : Scenario} {ss : List Scenario} {more : List Part} {d : Directive}
    (hd : d = .action ∨ d = .expectation ∨ d = .cleanup) (hc : s.cleanup = none)
    (hm : ∀ p ∈ more.head?, takesAfter ((s :: ss).flatMap Scenario.parts).getLast? (.directive p.1) = false) :
    NotNext d (ss.flatMap Scenario.parts ++ more) := by
  cases ss with
  | cons s₁ ss => rintro p ⟨⟩; rcases hd with rfl | rfl | rfl <;> simp
  | nil =>
    obtain ⟨⟨d', e⟩, hp, hd'⟩ := getLast?_parts hc
    rintro q hq rfl
    have := hm q hq
    rw [List.flatMap_singleton, Option.mem_def.1 hp] at this
    rcases hd with h | h | h <;> simp_all [takesAfter, Part.takes]

private theorem notNext_flatMap_parts {d : Directive} (hd : d ≠ .precondition) (ss : List Scenario) :
    NotNext d (ss.flatMap Scenario.parts) := by
  cases ss with
  | nil => nofun
  | cons s ss => rintro p ⟨⟩; exact hd.symm

private theorem notNext_cleanup_append {d : Directive} {c : Option Expression} {ps : List Part}
    (hd : d ≠ .cleanup) (h : c = none → NotNext d ps) : NotNext d (c.toList.map (Prod.mk .cleanup) ++ ps) := by
  cases c with
  | none => exact h rfl
  | some e => rintro p ⟨⟩; exact hd.symm

/-- A cleanup can be told from the chunks, if none comes where it is missing. -/
private theorem cleanup_append_inj {c c' : Option Expression} {ps ps' : List Part}
    (hn : c = none → NotNext .cleanup ps) (hn' : c' = none → NotNext .cleanup ps')
    (h : c.toList.map (Prod.mk Directive.cleanup) ++ ps = c'.toList.map (Prod.mk .cleanup) ++ ps') :
    c = c' ∧ ps = ps' := by
  rcases c with _ | e <;> rcases c' with _ | e'
  · exact ⟨rfl, h⟩
  · exact absurd rfl (hn rfl (.cleanup, e') (by rw [show ps = _ from h]; rfl))
  · exact absurd rfl (hn' rfl (.cleanup, e) (by rw [show ps' = _ from h.symm]; rfl))
  · simpa using h

/-- Chunks split in one way into scenarios and further chunks that cannot come after them. -/
theorem parts_append_inj {ss ss' : List Scenario} {more : List Part} (hss : ∀ s ∈ ss, s.Canonical)
    (hss' : ∀ s ∈ ss', s.Canonical)
    (hm : ∀ p ∈ more.head?, takesAfter (ss.flatMap Scenario.parts).getLast? (.directive p.1) = false)
    (h : ss.flatMap Scenario.parts ++ more = ss'.flatMap Scenario.parts) : ss = ss' ∧ more = [] := by
  induction ss generalizing ss' with
  | nil =>
    cases ss' with
    | nil => exact ⟨rfl, h⟩
    | cons s' ss' =>
      rw [show more = _ from h] at hm
      simpa [takesAfter] using hm _ rfl
  | cons s ss ih =>
    cases ss' with
    | nil => simp [Scenario.parts] at h
    | cons s' ss' =>
      have hs := hss s (by simp)
      have hs' := hss' s' (by simp)
      have hn (d : Directive) (hd : d = .action ∨ d = .expectation ∨ d = .cleanup) (hc : s.cleanup = none) :
          NotNext d (ss.flatMap Scenario.parts ++ more) := notNext_of_refused hd hc hm
      have hn' (d : Directive) (hd : d ≠ .precondition) : NotNext d (ss'.flatMap Scenario.parts) :=
        notNext_flatMap_parts hd ss'
      simp only [List.flatMap_cons, Scenario.parts, List.cons_append, List.append_assoc, List.cons.injEq,
        Prod.mk.injEq, true_and] at h
      obtain ⟨hp, h⟩ := h
      obtain ⟨hb, h⟩ := Behavior.flatMap_parts_append_inj hs.sides hs'.sides hs.unpaired hs'.unpaired
        ⟨notNext_cleanup_append (by simp) (hn .action (by simp)),
          notNext_cleanup_append (by simp) (hn .expectation (by simp))⟩
        ⟨notNext_cleanup_append (by simp) fun _ => hn' .action (by simp),
          notNext_cleanup_append (by simp) fun _ => hn' .expectation (by simp)⟩ h
      obtain ⟨hc, h⟩ := cleanup_append_inj (hn .cleanup (by simp)) (fun _ => hn' .cleanup (by simp)) h
      have hm₁ : ∀ p ∈ more.head?, takesAfter (ss.flatMap Scenario.parts).getLast? (.directive p.1) = false := by
        intro p hmp
        have := hm p hmp
        rw [List.flatMap_cons, List.getLast?_append] at this
        cases hl : (ss.flatMap Scenario.parts).getLast? with
        | none => exact takesAfter_none this
        | some q => rwa [hl] at this
      obtain ⟨rfl, hmore⟩ := ih (fun t ht => hss t (by simp [ht])) (fun t ht => hss' t (by simp [ht])) hm₁ h
      obtain ⟨_, _, _⟩ := s
      obtain ⟨_, _, _⟩ := s'
      cases hp; cases hb; cases hc
      exact ⟨rfl, hmore⟩

/-! ### From tokens to scenarios -/

/-- The rest does not go on with the scenarios. -/
def Stuck (ss : List Scenario) (r : List Content) : Prop :=
  Refused (takesAfter (ss.flatMap Scenario.parts).getLast?) r

theorem isChunk_of_canonical {ss : List Scenario} (hss : ∀ s ∈ ss, s.Canonical) :
    ∀ p ∈ ss.flatMap Scenario.parts, IsChunk p := by
  intro p hp
  obtain ⟨s, hs, hps⟩ := List.mem_flatMap.1 hp
  refine ⟨?_, (hss s hs).expressions p hps⟩
  simp only [Scenario.parts, List.mem_cons, List.mem_append, List.mem_flatMap, Behavior.parts, List.mem_map] at hps
  rcases hps with rfl | ⟨b, -, ⟨e, -, rfl⟩ | ⟨e, -, rfl⟩⟩ | ⟨e, -, rfl⟩ <;> exact ⟨by simp, by simp⟩

private theorem refused_of_stuck {ss : List Scenario} {r : List Content} (h : Stuck ss r) :
    ∀ p ∈ (ss.flatMap Scenario.parts).getLast?, Refused p.2.takes r := by
  intro p hp
  rw [Stuck, Option.mem_def.1 hp] at h
  exact h.mono fun k hk => by simp [takesAfter, Part.takes, hk]

private theorem stuck_parts {ss : List Scenario} {more : List Part} {r : List Content}
    (hmore : ∀ p ∈ more, IsChunk p) (h : Stuck ss (spellParts more ++ r)) :
    ∀ p ∈ more.head?, takesAfter (ss.flatMap Scenario.parts).getLast? (.directive p.1) = false := by
  rintro p hp
  obtain ⟨q, qs, rfl⟩ : ∃ q qs, more = q :: qs := by
    cases more with
    | nil => cases hp
    | cons q qs => exact ⟨q, qs, rfl⟩
  cases hp
  obtain ⟨t, r₁, hs⟩ := Expression.head_spelling (hmore p (by simp)).2 p.1
  rw [Stuck, spellParts, List.flatMap_cons, hs] at h
  exact refused_cons.1 h

/-- Tokens split in at most one way into the spelling of canonical scenarios and a rest that does not go on with
them. -/
theorem spelling_append_inj {ss ss' : List Scenario} {r r' : List Content} (hss : ∀ s ∈ ss, s.Canonical)
    (hss' : ∀ s ∈ ss', s.Canonical) (hr : Stuck ss r) (hr' : Stuck ss' r')
    (h : spelling ss ++ r = spelling ss' ++ r') : ss = ss' ∧ r = r' := by
  have hps := isChunk_of_canonical hss
  have hps' := isChunk_of_canonical hss'
  rcases spellParts_append_inj hps hps' (refused_of_stuck hr) (refused_of_stuck hr') h with
    ⟨more, hm, hrest⟩ | ⟨more, hm, hrest⟩
  · have hmore : ∀ p ∈ more, IsChunk p := fun p hp => hps' p (by rw [hm]; simp [hp])
    rw [hrest] at hr
    obtain ⟨hs, rfl⟩ := parts_append_inj hss hss' (stuck_parts hmore hr) hm.symm
    exact ⟨hs, hrest⟩
  · have hmore : ∀ p ∈ more, IsChunk p := fun p hp => hps p (by rw [hm]; simp [hp])
    rw [hrest] at hr'
    obtain ⟨hs, rfl⟩ := parts_append_inj hss' hss (stuck_parts hmore hr') hm.symm
    exact ⟨hs.symm, hrest.symm⟩

/-- A reading of tokens as scenarios that goes as far as any other. -/
structure LongestReading (cs : List Content) (ss : List Scenario) (rest : List Content) : Prop where
  canonical : ∀ s ∈ ss, s.Canonical
  /-- The scenarios spell what is before the rest. -/
  split : cs = spelling ss ++ rest
  /-- Canonical scenarios spell no longer part of the tokens. -/
  longest : ∀ ss' : List Scenario, (∀ s ∈ ss', s.Canonical) → spelling ss' <+: cs →
    (spelling ss').length ≤ (spelling ss).length
  /-- Other canonical scenarios spell something else. -/
  unique : ∀ ss' : List Scenario, (∀ s ∈ ss', s.Canonical) → spelling ss' = spelling ss → ss' = ss

theorem stuck_nil (ss : List Scenario) : Stuck ss [] := refused_nil _

/-- A reading that cannot go on is a longest one. -/
theorem longestReading_of_stuck {ss : List Scenario} {rest : List Content} (hss : ∀ s ∈ ss, s.Canonical)
    (hr : Stuck ss rest) : LongestReading (spelling ss ++ rest) ss rest := by
  refine ⟨hss, rfl, ?_, ?_⟩
  · rintro ss' hss' ⟨q, hq⟩
    by_contra hlen
    rcases List.append_eq_append_iff.1 hq with ⟨r, hr₁, -⟩ | ⟨r, hr₁, hr₂⟩
    · rw [hr₁, List.length_append] at hlen
      omega
    · -- the longer spelling goes on with the first token of the rest
      have hstuck : Stuck ss r := by
        intro c hc
        rw [hr₂] at hr
        cases r with
        | nil => cases hc
        | cons a r => exact hr c hc
      obtain ⟨-, rfl⟩ := spelling_append_inj hss hss' hstuck (stuck_nil ss') (by rw [hr₁, List.append_nil])
      rw [hr₁, List.append_nil] at hlen
      exact hlen (Nat.le_refl _)
  · intro ss' hss' h
    exact (spelling_append_inj hss' hss (stuck_nil ss') (stuck_nil ss) (by rw [h])).1

end Acceptance
