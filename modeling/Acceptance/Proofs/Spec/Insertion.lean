import Acceptance.Proofs.Spec.Concatenation
import Acceptance.Proofs.Token.Classification

/-!
# Lines of prose between other lines

A line of prose that is put into a text changes no scenario, be it inside a block or inside a chain, unless the next
line falls short of the command before it (`parseText_insert`).  A lexer asks for an indentation after a command and
for none after prose, so the next line is met in another state; but a line that is not indented is the same in every
state, and a command that meets what is asked for is one in every state.
-/

namespace Acceptance

/-- The text of lines, each with a newline after it. -/
def unlines (ls : List String) : String := String.join (ls.map (· ++ "\n"))

/-- After `n` lines that are not blank the next one is indented, and yet the lexer makes it prose. -/
def FallsShort (text : String) (n : Nat) : Prop :=
  let lexer := Source.after n (Lexer.ofLines (.ofText text))
  (∃ line ∈ (Source.pull lexer.lines).1.item?, 0 < indentation line.text) ∧
    ∃ token ∈ (Source.pull lexer).1.item?, token.kind = .prose

instance (text : String) (n : Nat) : Decidable (FallsShort text n) := inferInstanceAs (Decidable (_ ∧ _))

/-! ### Texts of lines -/

theorem toList_unlines (ls : List String) : (unlines ls).toList = ls.flatMap fun l => l.toList ++ ['\n'] := by
  simp [unlines, String.toList_join, List.flatMap_map]

theorem unlines_append (ls ls' : List String) : unlines (ls ++ ls') = unlines ls ++ unlines ls' := by
  apply String.toList_injective
  rw [String.toList_append, toList_unlines, toList_unlines, toList_unlines, List.flatMap_append]

theorem atStart_unlines (ls : List String) : AtStart (unlines ls).toList := by
  rw [toList_unlines]
  rcases List.eq_nil_or_concat ls with rfl | ⟨ls, l, rfl⟩
  · nofun
  · intro c hc
    simpa using hc.symm

theorem layout_unlines_append (ls ls' : List String) :
    layout (unlines (ls ++ ls')) = layout (unlines ls) ++ layout (unlines ls') := by
  rw [unlines_append, layout_append (atStart_unlines ls)]

theorem layout_unlines_singleton {p : String} (hp : OneLine p) :
    layout (unlines [p]) = outlines [String.ofList (dropFinal '\r' p.toList)] := by
  have hlist : (unlines [p]).toList = p.toList ++ '\n' :: [] := by simp [toList_unlines]
  rw [layout, textLines, hlist, splitLines_append hp]
  rfl

/-! ### Lines of prose -/

theorem place_of_prose {p : String} (hp : Unindented p.toList) (hd : ∀ d rest, p ≠ Directive.literal d ++ rest)
    (last : Nat) : place last (outline p) = ((.prose, trim p), 0) := by
  rw [place_outline_of_unindented last (indentation_eq_zero_iff.2 hp), uncommanded_of_none hd]

/-- Prose makes no difference if the next line meets what was asked for before the prose. -/
theorem significant_insert {ps qs : List Outline} {q : Outline} (hq : ∀ last, place last q = ((.prose, q.2), 0))
    (hqs : ∀ r ∈ qs.head?, 0 < r.1 → demand 0 ps ≤ r.1) : significant (ps ++ q :: qs) = significant (ps ++ qs) := by
  have hsame : places (demand 0 ps) qs = places 0 qs := places_eq_of_reaching hqs
  -- after the prose nothing is asked for
  have hcons : places (demand 0 ps) (q :: qs) = (.prose, q.2) :: places 0 qs := by rw [places, hq]
  rw [significant, significant, places_append, places_append, hcons, hsame, List.filter_append, List.filter_append,
    List.filter_cons_of_neg (by simp)]

/-! ### The lexer in front of a line -/

namespace Lexer

variable {σ ε : Type} [Source σ Line ε]

theorem lines_after (n : Nat) (lexer : Lexer σ) : (Source.after n lexer).lines = Source.after n lexer.lines := by
  induction n generalizing lexer with
  | zero => rfl
  | succ n ih =>
    have hpull : (Source.pull lexer).2.lines = (Source.pull lexer.lines).2 := by
      show (pull lexer).2.lines = _
      unfold pull
      split <;> rename_i hs <;> rw [hs]
    rw [Source.after, ih, hpull, Source.after]

end Lexer

theorem lastFrom_eq_demand (last : Nat) (ls : List Line) :
    lastFrom last ls = demand last (ls.map fun l => outline l.text) := by
  induction ls generalizing last with
  | nil => rfl
  | cons l ls ih =>
    have hplace := congrArg Prod.snd (classify_eq_place last l)
    rw [lastFrom, ih, List.map_cons, demand, hplace]

theorem kind_classify_prose {last : Nat} {l : Line} (hpos : 0 < indentation l.text) (hlt : indentation l.text < last) :
    (classify last l).1.kind = .prose := by
  have hcommand : isCommand last l.text = false := by
    simp [isCommand, hlt]
  rw [classify, if_neg (by simp [hcommand]), uncommanded_of_indented hpos]

theorem demand_le_of_not_fallsShort {text : String} {n : Nat} (h : ¬ FallsShort text n) :
    ∀ r ∈ ((layout text).drop n).head?, 0 < r.1 → demand 0 ((layout text).take n) ≤ r.1 := by
  intro r hr hpos
  by_contra hle
  rw [layout_eq_map_written, List.head?_drop, List.getElem?_map] at hr
  obtain ⟨line, hline, rfl⟩ := Option.map_eq_some_iff.1 hr
  have hlt : indentation line.text < lastFrom 0 ((written text).take n) := by
    rw [layout_eq_map_written, ← List.map_take, ← lastFrom_eq_demand] at hle
    exact Nat.lt_of_not_le hle
  have hlines := yields_written text
  have htokens := Lexer.yields_tokensFrom 0 hlines
  -- the lexer has come to this line, with the register that the lines before it leave
  refine h ⟨⟨line, ?_, hpos⟩, (classify (lastFrom 0 ((written text).take n)) line).1, ?_, kind_classify_prose hpos hlt⟩
  · rw [Lexer.lines_after, (hlines.drop n).item?_pull, List.head?_drop, hline]
    rfl
  · have hpull := (htokens.drop n).item?_pull
    rw [List.head?_drop, getElem?_tokensFrom, hline] at hpull
    exact hpull

/-- The line may lose its last characters, as it does if it ends with a carriage return. -/
theorem significant_insert_prose {p l : String} (hl : l.toList <+: p.toList) (hp : Unindented p.toList)
    (hd : ∀ d rest, p ≠ Directive.literal d ++ rest) {ps qs : List Outline}
    (hqs : ∀ r ∈ qs.head?, 0 < r.1 → demand 0 ps ≤ r.1) :
    significant (ps ++ (outlines [l] ++ qs)) = significant (ps ++ qs) := by
  have hdl : ∀ d rest, l ≠ Directive.literal d ++ rest := by
    rintro d rest rfl
    obtain ⟨r, hr⟩ := hl
    refine hd d (rest ++ String.ofList r) (String.toList_injective ?_)
    rw [← hr]
    simp
  by_cases hw : isWritten l = true
  · have hone : outlines [l] = [outline l] := by rw [outlines, List.filter_cons_of_pos hw]; rfl
    rw [hone, List.singleton_append]
    exact significant_insert (place_of_prose (hp.of_isPrefix hl) hdl) hqs
  · have hnone : outlines [l] = [] := by rw [outlines, List.filter_cons_of_neg hw]; rfl
    rw [hnone, List.nil_append]

/-- A line of prose may be put between any two lines of a text, unless the next line that is not blank falls short
of a command before it. -/
theorem parseText_insert {before after : List String} {p : String} (hline : OneLine p) (hp : Unindented p.toList)
    (hd : ∀ d rest, p ≠ Directive.literal d ++ rest)
    (hnext : ¬ FallsShort (unlines (before ++ after)) (layout (unlines before)).length) :
    parseText (unlines (before ++ p :: after)) = parseText (unlines (before ++ after)) := by
  have hmeets := demand_le_of_not_fallsShort hnext
  rw [layout_unlines_append, List.drop_left, List.take_left] at hmeets
  have hprefix : (String.ofList (dropFinal '\r' p.toList)).toList <+: p.toList := by
    rw [String.toList_ofList]
    exact dropFinal_isPrefix '\r' p.toList
  refine parseText_eq_of_significant ?_
  rw [← List.singleton_append, layout_unlines_append, layout_unlines_append, layout_unlines_append,
    layout_unlines_singleton hline, significant_insert_prose hprefix hp hd hmeets]

/-- Prose in front of a command that meets the one before it, which is two lines above, and in front of a line that
falls short. -/
theorem parseText_insert_inside :
    let before := ["Given: x", "\t\ta"]
    let p := "prose: Or"
    let met := ["", "  b", "And: y"]
    let short := [" b", "And: y"]
    (OneLine p ∧ Unindented p.toList ∧ (∀ d rest, p ≠ Directive.literal d ++ rest) ∧
      ¬ FallsShort (unlines (before ++ met)) (layout (unlines before)).length ∧
      parseText (unlines (before ++ p :: met)) = parseText (unlines (before ++ met))) ∧
    FallsShort (unlines (before ++ short)) (layout (unlines before)).length ∧
      parseText (unlines (before ++ p :: short)) ≠ parseText (unlines (before ++ short)) := by
  intro before p met short
  have hline : OneLine p := by decide
  have hp : Unindented p.toList := by
    have hhead : p.toList.head? = some 'p' := by simp [p]
    rw [Unindented, hhead]
    rintro _ ⟨⟩
    rfl
  have hd : ∀ d rest, p ≠ Directive.literal d ++ rest := by
    intro d rest h
    have hnone : Directive.atFront? p = none := by decide
    cases hnone.symm.trans (Directive.atFront?_eq_some_iff.2 h)
  have hmet : ¬ FallsShort (unlines (before ++ met)) (layout (unlines before)).length := by decide +kernel
  refine ⟨⟨hline, hp, hd, hmet, parseText_insert hline hp hd hmet⟩, by decide +kernel, by decide +kernel⟩

end Acceptance
