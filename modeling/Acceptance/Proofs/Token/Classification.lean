import Acceptance.Proofs.Token.Lexer
import Mathlib.Data.List.Forall2

/-!
# How lines are classified

A lexer keeps one number from line to line, the indentation of the last line if that was a command and 0 otherwise.
So whether a line is a command can be told from its indentation and from the line before it, and what else it becomes
from its text alone (`classified_tokensFrom`).  The ways of asking a lexer for a token can be mixed: each pulls the
source once, and neither a stop nor a failure changes what later lines become (`replies_classified`).
-/

namespace Acceptance

/-! ### Ways of asking for a token -/

namespace Lexer

/-- The ways of asking a lexer for a token. -/
inductive Call where
  /-- The next token. -/
  | token
  /-- One pull of the lexer as a source. -/
  | scan
  /-- The next element of the lexer as an iterator. -/
  | next
deriving DecidableEq, Repr

/-- What a call gives. -/
inductive Reply (ε : Type) where
  /-- A token or the end, or else an error. -/
  | result (x : Except ε (Option Token))
  /-- A token or an error, or else the end. -/
  | element (x : Option (Except ε Token))

/-- An answer in the form of a call. -/
def Call.reply {ε : Type} : Call → Answer Token ε → Reply ε
  | .next, .item t => .element (some (.ok t))
  | .next, .stop => .element none
  | .next, .failed e => .element (some (.error e))
  | _, .item t => .result (.ok (some t))
  | _, .stop => .result (.ok none)
  | _, .failed e => .result (.error e)

/-- The end or an error outside, instead of the end inside. -/
def transpose {ε α : Type} : Except ε (Option α) → Option (Except ε α)
  | .ok (some a) => some (.ok a)
  | .ok none => none
  | .error e => some (.error e)

variable {σ ε : Type} [Source σ Line ε]

/-- The token of the next line. -/
def nextToken (s : Lexer σ) : Except ε (Option Token) × Lexer σ :=
  match pull s with
  | (.item t, s) => (.ok (some t), s)
  | (.stop, s) => (.ok none, s)
  | (.failed e, s) => (.error e, s)

/-- Asks a lexer in one of the ways. -/
def call : Call → Lexer σ → Reply ε × Lexer σ
  | .token, s => (.result (nextToken s).1, (nextToken s).2)
  | .scan, s => (.result (nextToken s).1, (nextToken s).2)
  | .next, s => (.element (transpose (nextToken s).1), (nextToken s).2)

/-- What calls give, one after the other. -/
def replies : List Call → Lexer σ → List (Reply ε)
  | [], _ => []
  | c :: cs, s => (call c s).1 :: replies cs (call c s).2

def afterCalls : List Call → Lexer σ → Lexer σ
  | [], s => s
  | c :: cs, s => afterCalls cs (call c s).2

/-- Every way of asking is a pull, in a form of its own. -/
theorem call_eq (c : Call) (s : Lexer σ) : call c s = (c.reply (pull s).1, (pull s).2) := by
  cases hp : pull s with
  | mk x t => cases c <;> cases x <;> simp [call, nextToken, hp, Call.reply, transpose]

end Lexer

/-! ### The register of a lexer -/

theorem uncommanded_ne_command (text : String) : (uncommanded text).1 ≠ .command := by
  unfold uncommanded
  split <;> simp

theorem kind_classify_iff {last : Nat} {l : Line} :
    (classify last l).1.kind = .command ↔ 0 < indentation l.text ∧ last ≤ indentation l.text := by
  unfold classify isCommand
  by_cases h : 0 < indentation l.text ∧ last ≤ indentation l.text
  · rw [if_pos (by simpa using h)]
    exact iff_of_true rfl h
  · rw [if_neg (by simpa using h)]
    exact iff_of_false (uncommanded_ne_command l.text) h

/-- A lexer remembers the indentation of a command, and nothing of any other line. -/
theorem classify_snd (last : Nat) (l : Line) :
    (classify last l).2 = if (classify last l).1.kind = .command then indentation l.text else 0 := by
  by_cases h : (classify last l).1.kind = .command
  · have hcommand : isCommand last l.text = true := by simpa [isCommand] using kind_classify_iff.1 h
    rw [if_pos h, classify, if_pos hcommand]
  · have hcommand : ¬ isCommand last l.text = true := by simpa [isCommand] using mt kind_classify_iff.2 h
    rw [if_neg h, classify, if_neg hcommand]

/-- The token of a line is what the line becomes after those before it. -/
theorem getElem?_tokensFrom (last : Nat) (ls : List Line) (i : Nat) :
    (tokensFrom last ls)[i]? = ls[i]?.map fun l => (classify (lastFrom last (ls.take i)) l).1 := by
  induction ls generalizing last i with
  | nil => rfl
  | cons l ls ih =>
    cases i with
    | zero => rfl
    | succ i => exact ih (classify last l).2 i

theorem lastFrom_append (last : Nat) (ls ls' : List Line) :
    lastFrom last (ls ++ ls') = lastFrom (lastFrom last ls) ls' := by
  induction ls generalizing last with
  | nil => rfl
  | cons l ls ih => exact ih (classify last l).2

theorem lastFrom_take_succ (last : Nat) {ls : List Line} {i : Nat} {l : Line} (h : ls[i]? = some l) :
    lastFrom last (ls.take (i + 1)) = (classify (lastFrom last (ls.take i)) l).2 := by
  rw [List.take_add_one, h, lastFrom_append]
  rfl

/-! ### What lines become -/

/-- What a token says about the line it was made of. -/
structure Token.Renders (l : Line) (t : Token) : Prop where
  line : t.line = l.number
  command : t.kind = .command → Strips l.text t.value
  /-- A line that is no command becomes the one directive that it begins with, or prose. -/
  uncommanded : t.kind ≠ .command →
    (∃ d rest, l.text = Directive.literal d ++ rest ∧ t.kind = .directive d ∧ Strips rest t.value ∧
      ∀ d' rest', l.text = Directive.literal d' ++ rest' → d' = d) ∨
    ((∀ d rest, l.text ≠ Directive.literal d ++ rest) ∧ t.kind = .prose ∧ Strips l.text t.value)

theorem renders_classify (last : Nat) (l : Line) : (classify last l).1.Renders l := by
  by_cases h : isCommand last l.text = true
  · rw [classify, if_pos h]
    exact ⟨rfl, fun _ => strips_iff.2 rfl, fun hk => absurd rfl hk⟩
  · rw [classify, if_neg h]
    refine ⟨rfl, fun hk => absurd hk (uncommanded_ne_command l.text), fun _ => ?_⟩
    by_cases hd : ∃ d rest, l.text = Directive.literal d ++ rest
    · obtain ⟨d, rest, hs⟩ := hd
      have hu : Acceptance.uncommanded l.text = (.directive d, rest) := by rw [hs, uncommanded_literal_append]
      rw [hu]
      exact .inl ⟨d, rest, hs, rfl, strips_iff.2 rfl,
        fun d' rest' hs' => (Directive.literal_append_inj (hs'.symm.trans hs)).1⟩
    · have hnone : ∀ d rest, l.text ≠ Directive.literal d ++ rest := fun d rest hs => hd ⟨d, rest, hs⟩
      rw [uncommanded_of_none hnone]
      exact .inr ⟨hnone, rfl, strips_iff.2 rfl⟩

/-- The number of spaces and tabs that one of the lines begins with. -/
def width (ls : List Line) (i : Nat) : Nat :=
  ls[i]?.elim 0 fun l => (l.text.toList.takeWhile fun c => c = ' ' ∨ c = '\t').length

theorem width_eq (ls : List Line) (i : Nat) : width ls i = ls[i]?.elim 0 fun l => indentation l.text := by
  have hblank : (fun c : Char => decide (c = ' ' ∨ c = '\t')) = isBlank := by
    funext c
    rw [Bool.eq_iff_iff, decide_eq_true_eq, isBlank_iff_eq]
  rw [width, hblank]
  rfl

/-- One of the tokens is a command. -/
def CommandAt (ts : List Token) (i : Nat) : Prop := ts[i]?.map Token.kind = some .command

/-- The tokens are those of the lines.  A line is a command if it is indented and does not fall below a command right
before it. -/
structure Classified (ls : List Line) (ts : List Token) : Prop where
  tokens : List.Forall₂ Token.Renders ls ts
  command : ∀ i, CommandAt ts i ↔
    0 < width ls i ∧ (i = 0 ∨ ¬ CommandAt ts (i - 1) ∨ width ls (i - 1) ≤ width ls i)

theorem renders_tokensFrom (last : Nat) (ls : List Line) :
    List.Forall₂ Token.Renders ls (tokensFrom last ls) := by
  induction ls generalizing last with
  | nil => exact .nil
  | cons l ls ih => exact .cons (renders_classify last l) (ih _)

theorem commandAt_tokensFrom_iff {last : Nat} {ls : List Line} {i : Nat} :
    CommandAt (tokensFrom last ls) i ↔ 0 < width ls i ∧ lastFrom last (ls.take i) ≤ width ls i := by
  rw [CommandAt, getElem?_tokensFrom, width_eq]
  cases ls[i]? with
  | none => simp
  | some l => simpa using kind_classify_iff

/-- The register holds the indentation of a command right before, and 0 after any other line. -/
theorem lastFrom_take_eq (last : Nat) {ls : List Line} {i : Nat} (h : i < ls.length) :
    lastFrom last (ls.take (i + 1)) = width ls i ∧ CommandAt (tokensFrom last ls) i ∨
      lastFrom last (ls.take (i + 1)) = 0 ∧ ¬ CommandAt (tokensFrom last ls) i := by
  have hl : ls[i]? = some ls[i] := List.getElem?_eq_getElem h
  have hkind : CommandAt (tokensFrom last ls) i ↔
      (classify (lastFrom last (ls.take i)) ls[i]).1.kind = .command := by
    rw [CommandAt, getElem?_tokensFrom, hl]
    exact Option.some_inj
  rw [lastFrom_take_succ last hl, classify_snd, hkind, width_eq, hl]
  by_cases hk : (classify (lastFrom last (ls.take i)) ls[i]).1.kind = .command
  · exact .inl ⟨if_pos hk, hk⟩
  · exact .inr ⟨if_neg hk, hk⟩

theorem classified_tokensFrom (ls : List Line) : Classified ls (tokensFrom 0 ls) := by
  refine ⟨renders_tokensFrom 0 ls, fun i => ?_⟩
  rw [commandAt_tokensFrom_iff]
  refine and_congr_right fun hpos => ?_
  cases i with
  | zero => simp [lastFrom]
  | succ i =>
    -- a line with an indentation is there, and so is the line before it
    have hlen : i < ls.length := by
      by_contra hge
      have hnone : ls[i + 1]? = none := List.getElem?_eq_none (by omega)
      simp [width, hnone] at hpos
    rw [Nat.add_sub_cancel]
    rcases lastFrom_take_eq 0 hlen with ⟨hlast, hc⟩ | ⟨hlast, hc⟩
    · simp [hlast, hc]
    · simp [hlast, hc]

/-! ### The replies of a lexer -/

/-- Answers with tokens, one after the other, in the place of their items. -/
def retold {ε : Type} : List (Answer Line ε) → List Token → List (Answer Token ε)
  | .item _ :: xs, t :: ts => .item t :: retold xs ts
  | .stop :: xs, ts => .stop :: retold xs ts
  | .failed e :: xs, ts => .failed e :: retold xs ts
  | _, _ => []

namespace Lexer

variable {σ ε : Type} [Source σ Line ε]

/-- Lines are given as their tokens, stops as stops and failures as the same failures, in the form of the calls. -/
theorem replies_eq (calls : List Call) (s : σ) (last : Nat) :
    replies calls (⟨s, last⟩ : Lexer σ) = List.zipWith Call.reply calls
      (retold (Source.answers calls.length s)
        (tokensFrom last ((Source.answers calls.length s).filterMap Answer.item?))) := by
  induction calls generalizing s last with
  | nil => rfl
  | cons c calls ih =>
    rw [replies, call_eq, List.length_cons, Source.answers, pull]
    cases hs : Source.pull s with
    | mk x t =>
      cases x with
      | item l => exact congrArg _ (ih t (classify last l).2)
      | stop | failed e => exact congrArg _ (ih t last)

/-- Each call pulls the source once. -/
theorem lines_afterCalls (calls : List Call) (s : σ) (last : Nat) :
    (afterCalls calls (⟨s, last⟩ : Lexer σ)).lines = Source.after calls.length s := by
  induction calls generalizing s last with
  | nil => rfl
  | cons c calls ih =>
    rw [afterCalls, call_eq, List.length_cons, Source.after, pull]
    cases hs : Source.pull s with
    | mk x t => cases x <;> exact ih t _

/-- Whatever the source gives and however the lexer is asked, each call pulls the source once, a stop is answered
with the end and a failure with the same error, and the lines are answered in order with tokens that depend on the
lines only. -/
theorem replies_classified (s : σ) (calls : List Call) :
    let given := Source.answers calls.length s
    let lines := given.filterMap Answer.item?
    let tokens := tokensFrom 0 lines
    (afterCalls calls (ofSource s)).lines = Source.after calls.length s ∧
      replies calls (ofSource s) = List.zipWith Call.reply calls (retold given tokens) ∧
      Classified lines tokens :=
  ⟨lines_afterCalls calls s 0, replies_eq calls s 0, classified_tokensFrom _⟩

/-- Lines of all kinds: directives, commands of growing and of falling indentation, prose that looks like a command or
holds a directive, and a blank line, with a failure and a stop between commands. -/
theorem replies_classified_mixed :
    let gone : Fault := .reported .other "gone"
    let given : Script Line Fault := [.item ⟨1, "Given: \ta"⟩, .item ⟨2, "\t\tWhen: b "⟩, .failed gone,
      .item ⟨3, "  \tc"⟩, .stop, .item ⟨4, " Then: d"⟩, .item ⟨5, "\te\t"⟩, .item ⟨6, "f And:"⟩, .item ⟨7, ""⟩,
      .item ⟨8, "When:Then: g"⟩, .item ⟨9, "Then:"⟩, .item ⟨10, "And: h"⟩, .item ⟨11, "Or:\ti"⟩,
      .item ⟨12, "(finally) j"⟩]
    let calls : List Call := [.token, .scan, .next, .token, .next, .scan, .next, .next, .token, .scan, .token, .token,
      .scan, .next]
    let s : Lexer (Script Line Fault) := ofSource given
    let lines := given.filterMap Answer.item?
    let tokens : List Token := [⟨.directive .precondition, "a", 1⟩, ⟨.command, "When: b", 2⟩, ⟨.command, "c", 3⟩,
      ⟨.prose, "Then: d", 4⟩, ⟨.command, "e", 5⟩, ⟨.prose, "f And:", 6⟩, ⟨.prose, "", 7⟩,
      ⟨.directive .action, "Then: g", 8⟩, ⟨.directive .expectation, "", 9⟩, ⟨.directive .also, "h", 10⟩,
      ⟨.directive .instead, "i", 11⟩, ⟨.directive .cleanup, "j", 12⟩]
    Classified lines tokens ∧ replies calls s = List.zipWith Call.reply calls (retold given tokens) ∧
      (afterCalls calls s).lines = [] := by
  intro gone given calls s lines tokens
  have htokens : tokensFrom 0 lines = tokens := by decide +kernel
  have hanswers : Source.answers calls.length given = given := rfl
  obtain ⟨hlines, hreplies, hclassified⟩ := replies_classified given calls
  rw [hanswers, htokens] at hreplies hclassified
  exact ⟨hclassified, hreplies, hlines⟩

end Lexer

end Acceptance
