import Acceptance.Source.Rewind
import Acceptance.Spec.Basic
import Acceptance.Token.Lexer

/-!
# Parsing scenarios

```text
program    := scenario*
scenario   := chunk(precondition) behavior* chunk(cleanup)?
behavior   := chunk(action)? chunk(expectation)?          (at least one of them)
chunk(d)   := d block ((also block)+ | (instead block)+)?
block      := command*
```

Prose is passed over. There are no syntax errors: parsing stops in front of the first token that cannot start what is
expected next. A failure of the source ends the parsing and drops the scenarios parsed before it.

Every step of the grammar looks past prose with `Rewind.takeIf`, and a token that it does not take is put back: what
is put back is never prose.
-/

namespace Acceptance

/-- Tokens, of which the last can be put back. -/
abbrev Parser (σ : Type) := Rewind σ Token

namespace Parser

variable {τ ε : Type} [Source τ Token ε]

def commands (s : Rewind τ Token) : Except ε (List String) × Rewind τ Token :=
  match _h : s.takeIf Token.isSignificant (·.kind == .command) with
  | (.ok (some token), s) =>
    match commands s with
    | (.ok cs, s) => (.ok (token.value :: cs), s)
    | (.error e, s) => (.error e, s)
  | (.ok none, s) => (.ok [], s)
  | (.error e, s) => (.error e, s)
termination_by s.size
decreasing_by exact Rewind.size_takeIf_lt _h

/-- The block that a directive heads. -/
def block (head : Token) (s : Rewind τ Token) : Except ε Expression × Rewind τ Token :=
  match commands s with
  | (.ok cs, s) => (.ok (.block head.value cs), s)
  | (.error e, s) => (.error e, s)

theorem size_commands_le (s : Rewind τ Token) : (commands s).2.size ≤ s.size := by
  fun_induction commands s with
  | case1 s token s₁ h cs s₂ hc ih =>
    rw [hc] at ih
    exact Nat.le_trans ih (Rewind.size_takeIf_le h)
  | case2 s token s₁ h e s₂ hc ih =>
    rw [hc] at ih
    exact Nat.le_trans ih (Rewind.size_takeIf_le h)
  | case3 s s₁ h => exact Rewind.size_takeIf_le h
  | case4 s e s₁ h => exact Rewind.size_takeIf_le h

theorem size_block_le {head : Token} {s t : Rewind τ Token} {x : Except ε Expression}
    (h : block head s = (x, t)) : t.size ≤ s.size := by
  have hc := size_commands_le s
  unfold block at h
  split at h <;> rename_i hs <;> rw [hs] at hc <;> cases h <;> exact hc

/-- The blocks in front that directives of one kind head. -/
def blocks (kind : TokenKind) (s : Rewind τ Token) : Except ε (List Expression) × Rewind τ Token :=
  match _h : s.takeIf Token.isSignificant (·.kind == kind) with
  | (.ok (some head), s) =>
    match _hb : block head s with
    | (.ok b, s) =>
      match blocks kind s with
      | (.ok bs, s) => (.ok (b :: bs), s)
      | (.error e, s) => (.error e, s)
    | (.error e, s) => (.error e, s)
  | (.ok none, s) => (.ok [], s)
  | (.error e, s) => (.error e, s)
termination_by s.size
decreasing_by exact Nat.lt_of_le_of_lt (size_block_le _hb) (Rewind.size_takeIf_lt _h)

theorem size_blocks_le (kind : TokenKind) (s : Rewind τ Token) : (blocks kind s).2.size ≤ s.size := by
  fun_induction blocks kind s with
  | case1 s head s₁ h b s₂ hb bs s₃ hr ih =>
    rw [hr] at ih
    exact Nat.le_trans ih (Nat.le_trans (size_block_le hb) (Rewind.size_takeIf_le h))
  | case2 s head s₁ h b s₂ hb e s₃ hr ih =>
    rw [hr] at ih
    exact Nat.le_trans ih (Nat.le_trans (size_block_le hb) (Rewind.size_takeIf_le h))
  | case3 s head s₁ h e s₂ hb => exact Nat.le_trans (size_block_le hb) (Rewind.size_takeIf_le h)
  | case4 s s₁ h => exact Rewind.size_takeIf_le h
  | case5 s e s₁ h => exact Rewind.size_takeIf_le h

/-- Whether a token continues a chunk with a further block. -/
def isLink (token : Token) : Bool := token.kind == .directive .also || token.kind == .directive .instead

/-- The chain that links of one kind make. -/
def chain (kind : TokenKind) (children : List Expression) : Expression :=
  if kind = .directive .also then .all children else .any children

/-- The chunk that begins with the block `first`: further blocks may be linked to it, all in the same way. -/
def linked (first : Expression) (s : Rewind τ Token) : Except ε Expression × Rewind τ Token :=
  match s.takeIf Token.isSignificant isLink with
  | (.ok (some link), s) =>
    match block link s with
    | (.ok second, s) =>
      match blocks link.kind s with
      | (.ok others, s) => (.ok (chain link.kind (first :: second :: others)), s)
      | (.error e, s) => (.error e, s)
    | (.error e, s) => (.error e, s)
  | (.ok none, s) => (.ok first, s)
  | (.error e, s) => (.error e, s)

/-- The chunk in front, if it begins with the directive `d`. -/
def chunk (d : Directive) (s : Rewind τ Token) : Except ε (Option Expression) × Rewind τ Token :=
  match s.takeIf Token.isSignificant (·.kind == .directive d) with
  | (.ok (some head), s) =>
    match block head s with
    | (.ok first, s) =>
      match linked first s with
      | (.ok e, s) => (.ok (some e), s)
      | (.error e, s) => (.error e, s)
    | (.error e, s) => (.error e, s)
  | (.ok none, s) => (.ok none, s)
  | (.error e, s) => (.error e, s)

theorem size_linked_le {first : Expression} {s t : Rewind τ Token} {x : Except ε Expression}
    (h : linked first s = (x, t)) : t.size ≤ s.size := by
  unfold linked at h
  split at h
  · rename_i link s₁ h₁
    have hl := Rewind.size_takeIf_le h₁
    split at h
    · rename_i second s₂ h₂
      have hb := size_block_le h₂
      have hr := size_blocks_le link.kind s₂
      split at h <;> rename_i h₃ <;> rw [h₃] at hr <;> cases h <;> exact Nat.le_trans hr (Nat.le_trans hb hl)
    · rename_i h₂
      cases h
      exact Nat.le_trans (size_block_le h₂) hl
  · rename_i h₁
    cases h
    exact Rewind.size_takeIf_le h₁
  · rename_i h₁
    cases h
    exact Rewind.size_takeIf_le h₁

/-- A chunk takes at least its directive; when there is none, nothing is added. -/
theorem size_chunk {d : Directive} {s t : Rewind τ Token} {x : Except ε (Option Expression)}
    (h : chunk d s = (x, t)) : t.size ≤ s.size ∧ ∀ e, x = .ok (some e) → t.size < s.size := by
  unfold chunk at h
  split at h
  · rename_i head s₁ h₁
    have ht := Rewind.size_takeIf_lt h₁
    split at h
    · rename_i first s₂ h₂
      have hb := size_block_le h₂
      split at h <;> rename_i h₃ <;> have hl := size_linked_le h₃ <;> cases h <;>
        exact ⟨by omega, fun _ _ => by omega⟩
    · rename_i h₂
      have hb := size_block_le h₂
      cases h
      exact ⟨by omega, nofun⟩
  · rename_i h₁
    cases h
    exact ⟨Rewind.size_takeIf_le h₁, nofun⟩
  · rename_i h₁
    cases h
    exact ⟨Rewind.size_takeIf_le h₁, nofun⟩

/-- The behavior in front, if there is an action or an expectation. -/
def behavior (s : Rewind τ Token) : Except ε (Option Behavior) × Rewind τ Token :=
  match chunk .action s with
  | (.ok action, s) =>
    match chunk .expectation s with
    | (.ok expectation, s) =>
      if action.isNone && expectation.isNone then (.ok none, s) else (.ok (some ⟨action, expectation⟩), s)
    | (.error e, s) => (.error e, s)
  | (.error e, s) => (.error e, s)

theorem size_behavior {s t : Rewind τ Token} {x : Except ε (Option Behavior)} (h : behavior s = (x, t)) :
    t.size ≤ s.size ∧ ∀ b, x = .ok (some b) → t.size < s.size := by
  unfold behavior at h
  split at h
  · rename_i action s₁ h₁
    have ha := size_chunk h₁
    split at h
    · rename_i expectation s₂ h₂
      have he := size_chunk h₂
      split at h
      · cases h
        exact ⟨by omega, nofun⟩
      · rename_i hn
        cases h
        refine ⟨by omega, fun b hb => ?_⟩
        cases action with
        | some a => have := ha.2 a rfl; omega
        | none =>
          cases expectation with
          | some e => have := he.2 e rfl; omega
          | none => simp at hn
    · rename_i h₂
      cases h
      have := (size_chunk h₂).1
      exact ⟨by omega, nofun⟩
  · rename_i h₁
    cases h
    exact ⟨(size_chunk h₁).1, nofun⟩

def behaviors (s : Rewind τ Token) : Except ε (List Behavior) × Rewind τ Token :=
  match _h : behavior s with
  | (.ok (some b), s) =>
    match behaviors s with
    | (.ok bs, s) => (.ok (b :: bs), s)
    | (.error e, s) => (.error e, s)
  | (.ok none, s) => (.ok [], s)
  | (.error e, s) => (.error e, s)
termination_by s.size
decreasing_by exact (size_behavior _h).2 _ rfl

theorem size_behaviors_le (s : Rewind τ Token) : (behaviors s).2.size ≤ s.size := by
  fun_induction behaviors s with
  | case1 s b s₁ h bs s₂ hr ih =>
    rw [hr] at ih
    exact Nat.le_trans ih (size_behavior h).1
  | case2 s b s₁ h e s₂ hr ih =>
    rw [hr] at ih
    exact Nat.le_trans ih (size_behavior h).1
  | case3 s s₁ h => exact (size_behavior h).1
  | case4 s e s₁ h => exact (size_behavior h).1

/-- The scenario in front, if there is a precondition. -/
def scenario (s : Rewind τ Token) : Except ε (Option Scenario) × Rewind τ Token :=
  match chunk .precondition s with
  | (.ok (some precondition), s) =>
    match behaviors s with
    | (.ok bs, s) =>
      match chunk .cleanup s with
      | (.ok cleanup, s) => (.ok (some ⟨precondition, bs, cleanup⟩), s)
      | (.error e, s) => (.error e, s)
    | (.error e, s) => (.error e, s)
  | (.ok none, s) => (.ok none, s)
  | (.error e, s) => (.error e, s)

theorem size_scenario_lt {s t : Rewind τ Token} {sc : Scenario} (h : scenario s = (.ok (some sc), t)) :
    t.size < s.size := by
  unfold scenario at h
  split at h
  · rename_i precondition s₁ h₁
    have hp := (size_chunk h₁).2 _ rfl
    split at h
    · rename_i bs s₂ h₂
      have hb := size_behaviors_le s₁
      rw [h₂] at hb
      split at h
      · rename_i h₃
        have hc := (size_chunk h₃).1
        cases h
        exact Nat.lt_of_le_of_lt (Nat.le_trans hc hb) hp
      · cases h
    · cases h
  · cases h
  · cases h

/-- The course of a parsing. -/
structure Course (τ ε : Type) where
  /-- The scenarios, each with the tokens left when it was complete. -/
  completed : List (Scenario × Rewind τ Token)
  /-- The failure that ended the parsing, if one did. -/
  failure : Option ε
  /-- The tokens left at the end. -/
  rest : Rewind τ Token

/-- Parses scenarios as long as there are any. -/
def course (s : Rewind τ Token) : Course τ ε :=
  match _h : scenario s with
  | (.ok (some sc), s) =>
    let c := course s
    { c with completed := (sc, s) :: c.completed }
  | (.ok none, s) => ⟨[], none, s⟩
  | (.error e, s) => ⟨[], some e, s⟩
termination_by s.size
decreasing_by exact size_scenario_lt _h

/-- The scenarios of a parsing that did not fail. -/
def Course.result (c : Course τ ε) : Except ε (List Scenario) :=
  match c.failure with
  | none => .ok (c.completed.map (·.1))
  | some e => .error e

/-- Parses all scenarios, and gives the tokens left. -/
def parse (s : Rewind τ Token) : Except ε (List Scenario) × Rewind τ Token :=
  ((course s).result, (course s).rest)

/-- A parser of the tokens of a source. -/
def ofTokens {σ : Type} [Source σ Token ε] (tokens : σ) : Parser σ :=
  .ofSource tokens

end Parser

/-- The scenarios of a reader's text. -/
def parseReader (reader : Reader) : Except Fault (List Scenario) :=
  (Parser.parse (Parser.ofTokens (Lexer.ofLines (.ofReader reader)))).1

/-- The scenarios of a text. -/
def parseText (text : String) : List Scenario :=
  match (Parser.parse (Parser.ofTokens (Lexer.ofLines (.ofText text)))).1 with
  | .ok scenarios => scenarios
  | .error _ => []

end Acceptance
