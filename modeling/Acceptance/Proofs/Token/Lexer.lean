import Acceptance.Proofs.Source.Yields
import Acceptance.Proofs.Spec.Grammar
import Acceptance.Proofs.Text.OneLine
import Acceptance.Token.Lexer

/-!
# The tokens of lines

What a line becomes depends only on its outline, that is its indentation and its trimmed text, and on the outlines
before it (`contents_tokensFrom`).  In particular no blank at the end of a line can hide a directive or change what
it introduces.  The value of a token is a part of its line.
-/

namespace Acceptance

/-! ### Directives at the front of a text -/

namespace Directive

theorem mem_all (d : Directive) : d ∈ all := by cases d <;> simp [all]

/-- A literal begins with a character that is not a blank, and no literal holds one. -/
theorem not_isBlank_of_mem_literal (d : Directive) : ∀ c ∈ d.literal.toList, isBlank c = false := by
  cases d <;> simp [literal, isBlank]

theorem literal_ne_empty (d : Directive) : d.literal.toList ≠ [] := by
  cases d <;> simp [literal]

theorem literal_append_inj {d d' : Directive} {r r' : String} (h : d.literal ++ r = d'.literal ++ r') :
    d = d' ∧ r = r' := by
  have hl := congrArg String.toList h
  rw [String.toList_append, String.toList_append] at hl
  have hd : d = d' := by
    have hhead := congrArg List.head? hl
    cases d <;> cases d' <;> simp [literal] at hhead ⊢
  subst hd
  exact ⟨rfl, String.toList_injective (List.append_cancel_left hl)⟩

theorem atFront?_eq_some_iff {s rest : String} {d : Directive} :
    atFront? s = some (d, rest) ↔ s = d.literal ++ rest := by
  constructor
  · intro h
    obtain ⟨d', -, hd'⟩ := List.exists_of_findSome?_eq_some h
    obtain ⟨r, hr, he⟩ := Option.map_eq_some_iff.1 hd'
    cases he
    exact dropLiteral?_eq_some_iff.1 hr
  · intro h
    cases hf : atFront? s with
    | none =>
      have hn := List.findSome?_eq_none_iff.1 hf d (mem_all d)
      rw [dropLiteral?_eq_some_iff.2 h] at hn
      cases hn
    | some p =>
      obtain ⟨d', -, hd'⟩ := List.exists_of_findSome?_eq_some hf
      obtain ⟨r, hr, rfl⟩ := Option.map_eq_some_iff.1 hd'
      rw [dropLiteral?_eq_some_iff.1 hr] at h
      obtain ⟨rfl, rfl⟩ := literal_append_inj h
      rfl

end Directive

theorem uncommanded_literal_append (d : Directive) (rest : String) :
    uncommanded (d.literal ++ rest) = (.directive d, rest) := by
  rw [uncommanded, Directive.atFront?_eq_some_iff.2 rfl]

theorem uncommanded_of_none {s : String} (h : ∀ d rest, s ≠ Directive.literal d ++ rest) :
    uncommanded s = (.prose, s) := by
  cases hf : Directive.atFront? s with
  | none => rw [uncommanded, hf]
  | some p => exact absurd (Directive.atFront?_eq_some_iff.1 hf) (h p.1 p.2)

/-- An indented line introduces no directive. -/
theorem uncommanded_of_indented {s : String} (h : 0 < indentation s) : uncommanded s = (.prose, s) := by
  refine uncommanded_of_none fun d rest hs => ?_
  obtain ⟨c, cs, hc⟩ := List.exists_cons_of_ne_nil d.literal_ne_empty
  have hu : Unindented s.toList := by
    rw [hs, String.toList_append, hc]
    rintro _ ⟨⟩
    exact d.not_isBlank_of_mem_literal c (by simp [hc])
  rw [indentation_eq_zero_iff.2 hu] at h
  omega

theorem OneLine.uncommanded {s : String} (h : OneLine s) : OneLine (uncommanded s).2 := by
  by_cases hd : ∃ d rest, s = Directive.literal d ++ rest
  · obtain ⟨d, rest, rfl⟩ := hd
    rw [uncommanded_literal_append]
    exact (oneLine_append.1 h).2
  · rw [uncommanded_of_none fun d rest hs => hd ⟨d, rest, hs⟩]
    exact h

/-- What a line becomes is on one line. -/
theorem OneLine.classify (last : Nat) {line : Line} (h : OneLine line.text) : OneLine (classify last line).1.value := by
  unfold Acceptance.classify
  split
  · exact h.trim
  · exact h.uncommanded.trim

/-- A literal does not reach into blanks at the end of a text. -/
private theorem eq_literal_append_of_append_blanks {s w rest : String} {d : Directive} (hw : Blanks w.toList)
    (h : s ++ w = d.literal ++ rest) : ∃ r, s = d.literal ++ r := by
  have hl := congrArg String.toList h
  rw [String.toList_append, String.toList_append] at hl
  rcases List.append_eq_append_iff.1 hl with ⟨x, hx, hwx⟩ | ⟨x, hx, -⟩
  · cases x with
    | nil =>
      refine ⟨"", String.toList_injective ?_⟩
      rw [String.toList_append, hx]
      simp
    | cons c x =>
      have hb := hw c (by simp [hwx])
      rw [d.not_isBlank_of_mem_literal c (by simp [hx])] at hb
      cases hb
  · exact ⟨String.ofList x, String.toList_injective (by simp [hx])⟩

/-- Blanks at the end of a text do not matter. -/
private theorem uncommanded_append_blanks (s : String) {w : String} (hw : Blanks w.toList) :
    (uncommanded (s ++ w)).1 = (uncommanded s).1 ∧ trim (uncommanded (s ++ w)).2 = trim (uncommanded s).2 := by
  by_cases h : ∃ d r, s = Directive.literal d ++ r
  · obtain ⟨d, r, rfl⟩ := h
    rw [String.append_assoc, uncommanded_literal_append, uncommanded_literal_append]
    exact ⟨rfl, trim_append_blanks r hw⟩
  · have hs : ∀ d r, s ≠ Directive.literal d ++ r := fun d r hs => h ⟨d, r, hs⟩
    rw [uncommanded_of_none hs, uncommanded_of_none fun d r hr => h ⟨d, eq_literal_append_of_append_blanks hw hr⟩]
    exact ⟨rfl, trim_append_blanks s hw⟩

/-! ### Outlines -/

/-- The indentation of a line, and its text without the blanks around it. -/
abbrev Outline := Nat × String

/-- The outline of the text of a line. -/
def outline (text : String) : Outline := (indentation text, trim text)

/-- What a line becomes if the line before asks for the indentation `last`, and the indentation it asks for itself. -/
def place (last : Nat) (p : Outline) : Content × Nat :=
  if 0 < p.1 ∧ last ≤ p.1 then ((.command, p.2), p.1)
  else if 0 < p.1 then ((.prose, p.2), 0)
  else (((uncommanded p.2).1, trim (uncommanded p.2).2), 0)

/-- A line becomes what its outline says. -/
theorem classify_eq_place (last : Nat) (line : Line) :
    ((classify last line).1.content, (classify last line).2) = place last (outline line.text) := by
  unfold classify place outline isCommand
  by_cases hc : 0 < indentation line.text ∧ last ≤ indentation line.text
  · rw [if_pos (by simpa using hc), if_pos hc]
    rfl
  · rw [if_neg (by simpa using hc), if_neg hc]
    by_cases hi : 0 < indentation line.text
    · rw [if_pos hi, uncommanded_of_indented hi]
      rfl
    · -- the line is its trimmed text and blanks
      have hzero : indentation line.text = 0 := by omega
      obtain ⟨w, hw, hl⟩ := exists_eq_trimBlanks_append (indentation_eq_zero_iff.1 hzero)
      have hs : line.text = trim line.text ++ String.ofList w := String.toList_injective (by simpa using hl)
      have hw' : Blanks (String.ofList w).toList := by rwa [String.toList_ofList]
      obtain ⟨hk, hv⟩ := uncommanded_append_blanks (trim line.text) hw'
      rw [← hs] at hk hv
      rw [if_neg hi, Token.content, hk, hv]

/-- A line that does not begin with a blank becomes the directive it begins with, or prose. -/
theorem place_outline_of_unindented (last : Nat) {text : String} (h : indentation text = 0) :
    place last (outline text) = (((uncommanded text).1, trim (uncommanded text).2), 0) := by
  have hc : isCommand last text = false := by simp [isCommand, h]
  rw [← classify_eq_place last ⟨0, text⟩, classify, if_neg (by simp [hc])]
  rfl

/-- The tokens of lines, of which the first meets `last`. -/
def tokensFrom (last : Nat) : List Line → List Token
  | [] => []
  | l :: ls => (classify last l).1 :: tokensFrom (classify last l).2 ls

/-- The indentation that is asked for after lines, of which the first meets `last`. -/
def lastFrom (last : Nat) : List Line → Nat
  | [] => last
  | l :: ls => lastFrom (classify last l).2 ls

theorem oneLine_tokensFrom (last : Nat) {ls : List Line} (h : ∀ l ∈ ls, OneLine l.text) :
    ∀ t ∈ tokensFrom last ls, OneLine t.value := by
  induction ls generalizing last with
  | nil => nofun
  | cons l ls ih =>
    obtain ⟨hl, hls⟩ := List.forall_mem_cons.1 h
    exact List.forall_mem_cons.2 ⟨hl.classify last, ih _ hls⟩

/-- What outlines become, of which the first meets `last`. -/
def places (last : Nat) : List Outline → List Content
  | [] => []
  | p :: ps => (place last p).1 :: places (place last p).2 ps

theorem contents_tokensFrom (last : Nat) (ls : List Line) :
    contents (tokensFrom last ls) = places last (ls.map fun l => outline l.text) := by
  induction ls generalizing last with
  | nil => rfl
  | cons l ls ih =>
    have h := classify_eq_place last l
    rw [List.map_cons, places, ← h, ← ih]
    rfl

namespace Lexer

variable {σ ε : Type} [Source σ Line ε]

private theorem stopped_lexer {s : σ} (last : Nat) (h : Source.Stopped s) :
    Source.Stopped (⟨s, last⟩ : Lexer σ) := by
  refine Source.stopped_of_invariant (P := fun l : Lexer σ => Source.Stopped l.lines) ?_ h
  rintro ⟨s, last⟩ hs
  obtain ⟨t, ht, hst⟩ := hs.pull
  refine ⟨⟨t, last⟩, ?_, hst⟩
  show pull _ = _
  rw [pull, ht]

/-- A lexer of lines yields their tokens, and then finishes as the lines do. -/
theorem yields_tokensFrom {s : σ} {ls : List Line} {x : Finish σ ε} (last : Nat) (h : Source.Yields s ls x) :
    Source.Yields (⟨s, last⟩ : Lexer σ) (tokensFrom last ls) (x.map (⟨·, lastFrom last ls⟩)) := by
  induction ls generalizing s last with
  | nil =>
    cases x with
    | stops => exact stopped_lexer last h
    | fails e t =>
      have hs : Source.pull s = (.failed e, t) := h
      show pull _ = _
      rw [pull, hs]
      rfl
  | cons l ls ih =>
    obtain ⟨t, ht, hy⟩ := h
    refine ⟨⟨t, (classify last l).2⟩, ?_, ih _ hy⟩
    show pull _ = _
    rw [pull, ht]

end Lexer

end Acceptance
