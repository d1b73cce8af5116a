import Acceptance.Proofs.Spec.Layout

/-!
# Texts one after the other

Parsing goes through a text once, so what comes after a text matters only if the parser gets there.  If it stops in
front of a token, then nothing that is added after the text changes the scenarios.  If it gets to the end, then a text
that begins a scenario at the margin adds its own scenarios (`parseText_append`): whatever chunk, chain, behavior or
cleanup the first text ends in, it ends where the next precondition begins.
-/

namespace Acceptance

namespace Parser

/-- The parser of a text, before it is used. -/
def ofText (text : String) : Parser (Lexer (Filtered Lines Unit Line)) := ofTokens (Lexer.ofLines (.ofText text))

/-- The parser of a text, when it has parsed what it can. -/
def leftover (text : String) : Parser (Lexer (Filtered Lines Unit Line)) := (parse (ofText text)).2

end Parser

/-- The first line of a text that is not blank, if there is one, is not indented. -/
def AtMargin (text : String) : Prop :=
  ∀ line ∈ (Source.pull (Lexer.ofLines (.ofText text)).lines).1.item?, indentation line.text = 0

/-- The first token of a text that is not prose, if there is one, is a precondition. -/
def OpensScenario (text : String) : Prop :=
  ∀ token ∈ (Parser.next (Parser.ofText text)).item?, token.kind = .directive .precondition

instance (text : String) : Decidable (AtMargin text) := inferInstanceAs (Decidable (∀ _ ∈ _, _))

instance (text : String) : Decidable (OpensScenario text) := inferInstanceAs (Decidable (∀ _ ∈ _, _))

/-! ### Outlines one after the other -/

/-- The indentation asked for after some lines. -/
def demand (last : Nat) : List Outline → Nat
  | [] => last
  | p :: ps => demand (place last p).2 ps

theorem places_append (last : Nat) (ps qs : List Outline) :
    places last (ps ++ qs) = places last ps ++ places (demand last ps) qs := by
  induction ps generalizing last with
  | nil => rfl
  | cons p ps ih =>
    rw [List.cons_append, places, ih, places, List.cons_append]
    rfl

/-- A line that is not indented does not depend on the lines before it, neither does a command that stays one after
any line, and the lines after them do not either. -/
theorem places_eq_of_reaching {last : Nat} {qs : List Outline} (h : ∀ q ∈ qs.head?, 0 < q.1 → last ≤ q.1) :
    places last qs = places 0 qs := by
  cases qs with
  | nil => rfl
  | cons q qs =>
    have hplace : place last q = place 0 q := by
      by_cases hpos : 0 < q.1
      · have hq : last ≤ q.1 := h q rfl hpos
        rw [place, place, if_pos ⟨hpos, hq⟩, if_pos ⟨hpos, Nat.zero_le _⟩]
      · simp [place, hpos]
    rw [places, places, hplace]

/-- What lines become goes on in some way when further lines come. -/
private theorem exists_significant_append (ps qs : List Outline) :
    ∃ cs, significant (ps ++ qs) = significant ps ++ cs := by
  refine ⟨(places (demand 0 ps) qs).filter fun c => c.1 != .prose, ?_⟩
  rw [significant, significant, places_append, List.filter_append]

private theorem significant_append {ps qs : List Outline} (h : ∀ q ∈ qs.head?, q.1 = 0) :
    significant (ps ++ qs) = significant ps ++ significant qs := by
  have hreach : ∀ q ∈ qs.head?, 0 < q.1 → demand 0 ps ≤ q.1 := fun q hq hpos => absurd (h q hq) hpos.ne'
  rw [significant, significant, significant, places_append, places_eq_of_reaching hreach, List.filter_append]

theorem layout_append {a b : String} (ha : AtStart a.toList) : layout (a ++ b) = layout a ++ layout b := by
  rw [layout, layout, layout, textLines, String.toList_append, splitLines_append_of_getLast? ha, List.map_append,
    outlines, List.filter_append, List.map_append]
  rfl

/-! ### What is left of a text -/

/-- The lines of a text that are not blank. -/
def written (text : String) : List Line := (numbered 0 (textLines text)).filter Line.isNotBlank

theorem layout_eq_map_written (text : String) : layout text = (written text).map fun l => outline l.text := by
  have hf := (List.filter_map (f := Line.text) (p := isWritten) (l := numbered 0 (textLines text))).symm
  rw [map_text_numbered] at hf
  rw [layout, outlines, ← hf, List.map_map]
  rfl

/-- The lines of a text that are not blank are the ones that become tokens. -/
theorem yields_written (text : String) :
    Source.Yields (Lexer.ofLines (.ofText text)).lines (written text) .stops :=
  Filtered.yields_ofPredicate (Lines.yields_ofText text)

private theorem exists_faces_ofText (text : String) :
    ∃ ts, (Parser.ofText text).Faces Token.isSignificant ts .stops ∧ contents ts = significant (layout text) :=
  ⟨_, Parser.faces_ofTokens (Lexer.yields_tokensFrom 0 (yields_written text)), contents_filter_tokensFrom 0 _⟩

/-- The tokens of a text are those of its scenarios and those in front of which the parser stops. -/
private theorem exists_leftover (text : String) :
    ∃ rest, (Parser.leftover text).Faces Token.isSignificant rest .stops ∧ (∀ s ∈ parseText text, s.Canonical) ∧
      significant (layout text) = spelling (parseText text) ++ contents rest ∧
      Stuck (parseText text) (contents rest) := by
  obtain ⟨ts, hts, hcontents⟩ := exists_faces_ofText text
  obtain ⟨ss, rest, hs, hcan, hstuck, hreads⟩ :=
    Parser.reads_parse (τ := Lexer (Filtered Lines Unit Line)) (ε := Fault) ts
  obtain ⟨t, ht, hta⟩ := hreads.of_stops hts
  have hss : parseText text = ss := by
    have hparse : Parser.parse (Parser.ofTokens (Lexer.ofLines (.ofText text))) = (.ok ss, t) := ht
    rw [parseText, hparse]
  have hleft : Parser.leftover text = t := by rw [Parser.leftover, ht]
  rw [hss, hleft, ← hcontents]
  exact ⟨rest, hta, hcan, hs, hstuck⟩

private theorem head_layout {text : String} (h : AtMargin text) : ∀ p ∈ (layout text).head?, p.1 = 0 := by
  intro p hp
  rw [layout_eq_map_written, List.head?_map] at hp
  obtain ⟨line, hline, rfl⟩ := Option.map_eq_some_iff.1 hp
  rw [← (yields_written text).item?_pull] at hline
  exact h line hline

private theorem head_significant {text : String} (h : OpensScenario text) :
    ∀ c ∈ (significant (layout text)).head?, c.1 = .directive .precondition := by
  obtain ⟨ts, hts, hcontents⟩ := exists_faces_ofText text
  rw [← hcontents]
  cases ts with
  | nil => nofun
  | cons t ts =>
    rintro _ ⟨⟩
    exact h t (by rw [Parser.next, Rewind.answer_of_faces_cons hts]; rfl)

/-! ### Scenarios one after the other -/

private theorem spelling_append (ss ss' : List Scenario) : spelling (ss ++ ss') = spelling ss ++ spelling ss' := by
  rw [spelling, spelling, spelling, spellParts, List.flatMap_append, List.flatMap_append]
  rfl

/-- What stops the parser still stops it when more comes after it. -/
private theorem Stuck.append {ss : List Scenario} {r : List Content} (h : Stuck ss r) (hr : r ≠ [])
    (more : List Content) : Stuck ss (r ++ more) := by
  obtain ⟨c, r, rfl⟩ := List.exists_cons_of_ne_nil hr
  exact refused_cons.2 (refused_cons.1 h)

/-- After scenarios without a rest, further ones go on as if they were the first. -/
private theorem Stuck.append_left {ss' : List Scenario} {r : List Content} (h : Stuck ss' r)
    (hopen : ∀ c ∈ (spelling ss' ++ r).head?, c.1 = .directive .precondition) (ss : List Scenario) :
    Stuck (ss ++ ss') r := by
  by_cases hnil : ss' = []
  · subst hnil
    -- without a scenario the rest is empty, since the precondition it begins with would be taken
    have hr : r = [] := by
      by_contra hne
      obtain ⟨c, r, rfl⟩ := List.exists_cons_of_ne_nil hne
      have hc : takesAfter none c.1 = false := refused_cons.1 h
      rw [show c.1 = .directive .precondition from hopen c rfl] at hc
      cases hc
    rw [hr]
    exact stuck_nil _
  · obtain ⟨s, ss', rfl⟩ := List.exists_cons_of_ne_nil hnil
    rwa [Stuck, List.flatMap_append, List.getLast?_append_of_ne_nil _ (by simp [Scenario.parts])]

/-- A text whose parsing gets to the end is followed by the scenarios of a text that begins one; a text whose parsing
stops in front of a token has the same scenarios whatever follows; and one of the two is the case. -/
theorem parseText_append {a b : String} (ha : AtStart a.toList) :
    (Parser.Exhausted (Parser.leftover a) → AtMargin b → OpensScenario b →
      parseText (a ++ b) = parseText a ++ parseText b) ∧
    (∀ token, Parser.next (Parser.leftover a) = .item token → parseText (a ++ b) = parseText a) ∧
    (Parser.Exhausted (Parser.leftover a) ∨ ∃ token, Parser.next (Parser.leftover a) = .item token) := by
  obtain ⟨rest, hleft, hcan, hs, hstuck⟩ := exists_leftover a
  cases rest with
  | nil =>
    have hend : Parser.Exhausted (Parser.leftover a) := Rewind.answer_of_faces_nil hleft
    refine ⟨fun _ hmargin hopens => ?_, fun token ht => ?_, .inl hend⟩
    · obtain ⟨rest', -, hcan', hs', hstuck'⟩ := exists_leftover b
      have hopen := head_significant hopens
      rw [hs'] at hopen
      refine parseText_eq_of_greedy ⟨?_, contents rest', ?_, hstuck'.append_left hopen _⟩
      · intro s hm
        rcases List.mem_append.1 hm with hm | hm
        · exact hcan s hm
        · exact hcan' s hm
      · show significant (layout (a ++ b)) = _
        rw [layout_append ha, significant_append (head_layout hmargin), hs, hs', spelling_append]
        simp [contents]
    · cases hend.symm.trans ht
  | cons token rest =>
    have hitem : Parser.next (Parser.leftover a) = .item token := Rewind.answer_of_faces_cons hleft
    refine ⟨fun hend => ?_, fun _ _ => ?_, .inr ⟨token, hitem⟩⟩
    · cases hitem.symm.trans hend
    · obtain ⟨more, hmore⟩ := exists_significant_append (layout a) (layout b)
      have hne : contents (token :: rest) ≠ [] := by simp [contents]
      refine parseText_eq_of_greedy ⟨hcan, contents (token :: rest) ++ more, ?_, hstuck.append hne more⟩
      show significant (layout (a ++ b)) = _
      rw [layout_append ha, hmore, hs, List.append_assoc]

/-- A chain at the end of a text is not continued by the next text, and a link of another kind ends the parsing. -/
theorem parseText_append_linked :
    let a := "Given: x\n  a\nAnd: y\n   b\n"
    let b := " \nprose\nGiven: z\n\tc"
    let c := "Given: x\nOr: y\nAnd: z\n"
    (AtStart a.toList ∧ Parser.Exhausted (Parser.leftover a) ∧ AtMargin b ∧ OpensScenario b ∧
      parseText (a ++ b) = parseText a ++ parseText b) ∧
    AtStart c.toList ∧ ¬ Parser.Exhausted (Parser.leftover c) ∧ parseText (c ++ b) = parseText c := by
  intro a b c
  have ha : AtStart a.toList := by decide +kernel
  have hend : Parser.Exhausted (Parser.leftover a) := by decide +kernel
  have hb : AtMargin b := by decide +kernel
  have hb' : OpensScenario b := by decide +kernel
  have hc : AtStart c.toList := by decide +kernel
  have hstop : ¬ Parser.Exhausted (Parser.leftover c) := by decide +kernel
  obtain ⟨token, ht⟩ := (parseText_append (b := b) hc).2.2.resolve_left hstop
  exact ⟨⟨ha, hend, hb, hb', (parseText_append ha).1 hend hb hb'⟩, hc, hstop, (parseText_append hc).2.1 token ht⟩

end Acceptance
