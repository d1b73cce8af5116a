import Acceptance.Proofs.Spec.Entry

/-!
# Writing scenarios

Scenarios are written line by line in the order of their tokens: a directive with its description, and the commands
indented under it.  What is written is parsed back (`parseText_writeScenarios`), also when descriptions and commands
look like directives themselves.
-/

namespace Acceptance

/-- A line without its newline: a directive stands in front of its description, and a command is indented. -/
def writeLine (indent : String) (c : Content) : String :=
  match c.1 with
  | .directive d => d.literal ++ " " ++ c.2
  | .command => indent ++ c.2
  | .prose => c.2

def writeScenarios (indent : String) (ss : List Scenario) : String :=
  String.join ((spelling ss).map fun c => writeLine indent c ++ "\n")

/-- A text that a line can hold without losing a part of it. -/
structure Writable (s : String) : Prop where
  newline : '\n' ∉ s.toList
  front : ∀ c ∈ s.toList.head?, isBlank c = false
  back : ∀ c ∈ s.toList.getLast?, isBlank c = false
  carriageReturn : s.toList.getLast? ≠ some '\r'

instance (s : String) : Decidable (Writable s) :=
  decidable_of_iff ('\n' ∉ s.toList ∧ s.toList.head?.all (!isBlank ·) = true ∧
      s.toList.getLast?.all (!isBlank ·) = true ∧ s.toList.getLast? ≠ some '\r') <| by
    constructor
    · rintro ⟨hn, hf, hb, hr⟩
      exact ⟨hn, by simpa [Option.all_eq_true] using hf, by simpa [Option.all_eq_true] using hb, hr⟩
    · rintro ⟨hn, hf, hb, hr⟩
      exact ⟨hn, by simpa [Option.all_eq_true] using hf, by simpa [Option.all_eq_true] using hb, hr⟩

/-! ### Prose is not written -/

mutual

private theorem Expression.not_prose_of_mem_spelling (d : Directive) (e : Expression) :
    ∀ c ∈ e.spelling d, c.1 ≠ .prose := by
  cases e with
  | block description commands =>
    intro c hc
    rw [Expression.spelling, List.mem_cons, List.mem_map] at hc
    rcases hc with rfl | ⟨v, -, rfl⟩ <;> simp
  | all children => exact Expression.not_prose_of_mem_chainSpelling d .also children
  | any children => exact Expression.not_prose_of_mem_chainSpelling d .instead children

private theorem Expression.not_prose_of_mem_chainSpelling (d link : Directive) (es : List Expression) :
    ∀ c ∈ Expression.chainSpelling d link es, c.1 ≠ .prose := by
  cases es with
  | nil => nofun
  | cons e es =>
    intro c hc
    rw [Expression.chainSpelling, List.mem_append] at hc
    rcases hc with hc | hc
    · exact Expression.not_prose_of_mem_spelling d e c hc
    · exact Expression.not_prose_of_mem_chainSpelling link link es c hc

end

private theorem not_prose_of_mem_spelling {ss : List Scenario} : ∀ c ∈ spelling ss, c.1 ≠ .prose := by
  intro c hc
  obtain ⟨p, -, hp⟩ := List.mem_flatMap.1 hc
  exact Expression.not_prose_of_mem_spelling p.1 p.2 c hp

/-! ### Written lines -/

/-- A line made of text that does not end in a carriage return, and a writable text. -/
private theorem getLast?_append_ne {front s : String} (hf : front.toList.getLast? ≠ some '\r') (hs : Writable s) :
    (front ++ s).toList.getLast? ≠ some '\r' := by
  rw [String.toList_append, List.getLast?_append]
  cases h : s.toList.getLast? with
  | none => exact hf
  | some c =>
    rw [← h]
    simpa [h] using hs.carriageReturn

private theorem newline_not_mem_toList_append {front s : String} (hf : '\n' ∉ front.toList) (hs : Writable s) :
    '\n' ∉ (front ++ s).toList := by
  rw [String.toList_append, List.mem_append, not_or]
  exact ⟨hf, hs.newline⟩

private theorem front_directive (d : Directive) :
    '\n' ∉ (d.literal ++ " ").toList ∧ (d.literal ++ " ").toList.getLast? ≠ some '\r' := by
  cases d <;> decide

private theorem front_indent {indent : String} (h : Blanks indent.toList) :
    '\n' ∉ indent.toList ∧ indent.toList.getLast? ≠ some '\r' :=
  ⟨h.not_mem (by decide), getLast?_ne_of_not_mem (h.not_mem (by decide))⟩

/-- A written line has no newline, and nothing of it is dropped at its end. -/
private theorem writeLine_plain {indent : String} {c : Content} (hi : Blanks indent.toList) (hc : Writable c.2) :
    '\n' ∉ (writeLine indent c).toList ∧ (writeLine indent c).toList.getLast? ≠ some '\r' := by
  obtain ⟨k, s⟩ := c
  cases k with
  | prose => exact ⟨hc.newline, hc.carriageReturn⟩
  | command =>
    have hf := front_indent hi
    exact ⟨newline_not_mem_toList_append hf.1 hc, getLast?_append_ne hf.2 hc⟩
  | directive d =>
    have hf := front_directive d
    exact ⟨newline_not_mem_toList_append hf.1 hc, getLast?_append_ne hf.2 hc⟩

private theorem trim_of_writable {s : String} (h : Writable s) : trim s = s := by
  have hr : Unindented s.toList.reverse := by
    intro c hc
    rw [List.head?_reverse] at hc
    exact h.back c hc
  exact String.toList_injective (by rw [toList_trim, trimBlanks_eq_self h.front hr])

/-- A written directive is read as that directive, after any line. -/
private theorem place_directive (last : Nat) (d : Directive) {s : String} (hs : Writable s) :
    isWritten (d.literal ++ " " ++ s) = true ∧
      place last (outline (d.literal ++ " " ++ s)) = ((.directive d, s), 0) := by
  obtain ⟨a, as, ha⟩ := List.exists_cons_of_ne_nil d.literal_ne_empty
  have hblank : isBlank a = false := d.not_isBlank_of_mem_literal a (by simp [ha])
  have htext : (d.literal ++ " " ++ s).toList = a :: (as ++ ' ' :: s.toList) := by simp [ha]
  refine ⟨?_, ?_⟩
  · rw [isWritten, htext, List.any_cons, hblank]
    rfl
  · have hu : indentation (d.literal ++ " " ++ s) = 0 := by
      rw [indentation_eq_zero_iff, htext]
      rintro _ ⟨⟩
      exact hblank
    -- a literal is found in front of any description, since no other literal begins with it
    rw [place_outline_of_unindented last hu, String.append_assoc, uncommanded_literal_append,
      trim_blanks_append (by simp [Blanks, isBlank]), trim_of_writable hs]

/-- A written command is read as that command, unless more indentation is asked for. -/
private theorem place_command {last : Nat} {indent s : String} (hi : Blanks indent.toList) (hne : indent ≠ "")
    (hlast : last ≤ indent.toList.length) (hs : Writable s) (hs' : s ≠ "") :
    isWritten (indent ++ s) = true ∧
      place last (outline (indent ++ s)) = ((.command, s), indent.toList.length) := by
  obtain ⟨a, as, ha⟩ := List.exists_cons_of_ne_nil (fun h => hs' (String.toList_injective h))
  have hblank : isBlank a = false := hs.front a (by rw [ha]; rfl)
  have hpos : 0 < indent.toList.length := List.length_pos_iff.2 fun h => hne (String.toList_injective h)
  refine ⟨?_, ?_⟩
  · rw [isWritten, String.toList_append, List.any_append, ha, List.any_cons, hblank]
    simp
  · have hwidth : indentation (indent ++ s) = indent.toList.length := by
      rw [← String.ofList_toList (s := indent ++ s), String.toList_append, indentation_blanks_append hi,
        String.ofList_toList, indentation_eq_zero_iff.2 hs.front, Nat.add_zero]
    rw [outline, hwidth, trim_blanks_append hi, trim_of_writable hs, place, if_pos ⟨hpos, hlast⟩]

/-- The text of scenarios has the tokens that spell them. -/
private theorem places_writeLine {last : Nat} {indent : String} {cs : List Content} (hi : Blanks indent.toList)
    (hne : indent ≠ "") (hlast : last ≤ indent.toList.length) (hcs : ∀ c ∈ cs, c.1 ≠ .prose)
    (hw : ∀ c ∈ cs, Writable c.2 ∧ (c.1 = .command → c.2 ≠ "")) :
    places last (outlines (cs.map (writeLine indent))) = cs := by
  induction cs generalizing last with
  | nil => rfl
  | cons c cs ih =>
    -- all commands have the same indentation, so no line asks for more
    obtain ⟨next, hnext, hwritten, hplace⟩ : ∃ next, next ≤ indent.toList.length ∧
        isWritten (writeLine indent c) = true ∧ place last (outline (writeLine indent c)) = (c, next) := by
      obtain ⟨k, s⟩ := c
      obtain ⟨hs, hs'⟩ := hw (k, s) (by simp)
      cases k with
      | prose => exact absurd rfl (hcs (.prose, s) (by simp))
      | command => exact ⟨_, Nat.le_refl _, place_command hi hne hlast hs (hs' rfl)⟩
      | directive d => exact ⟨0, Nat.zero_le _, place_directive last d hs⟩
    have hcs' : ∀ c ∈ cs, c.1 ≠ .prose := fun c hc => hcs c (List.mem_cons_of_mem _ hc)
    have hw' : ∀ c ∈ cs, Writable c.2 ∧ (c.1 = .command → c.2 ≠ "") := fun c hc => hw c (List.mem_cons_of_mem _ hc)
    have hrest := ih hnext hcs' hw'
    rw [outlines] at hrest
    rw [List.map_cons, outlines, List.filter_cons_of_pos hwritten, List.map_cons, places, hplace, hrest]

private theorem textLines_writeScenarios {indent : String} {ss : List Scenario} (hi : Blanks indent.toList)
    (hw : ∀ c ∈ spelling ss, Writable c.2) :
    textLines (writeScenarios indent ss) = (spelling ss).map (writeLine indent) := by
  rw [textLines, writeScenarios, String.toList_join, List.flatMap_map]
  generalize spelling ss = cs at hw
  induction cs with
  | nil => rfl
  | cons c cs ih =>
    obtain ⟨hn, hr⟩ := writeLine_plain hi (hw c List.mem_cons_self)
    have hcons (rest : List Char) : (writeLine indent c ++ "\n").toList ++ rest =
        (writeLine indent c).toList ++ '\n' :: rest := by simp
    rw [List.flatMap_cons, hcons, splitLines_append hn, List.map_cons, dropFinal_of_ne hr, String.ofList_toList,
      ih fun c hc => hw c (List.mem_cons_of_mem _ hc), List.map_cons]

/-- Scenarios that are written are parsed back. -/
theorem parseText_writeScenarios {ss : List Scenario} {indent : String} (hss : ∀ s ∈ ss, s.Canonical)
    (hi : Blanks indent.toList) (hne : indent ≠ "")
    (hw : ∀ c ∈ spelling ss, Writable c.2 ∧ (c.1 = .command → c.2 ≠ "")) :
    parseText (writeScenarios indent ss) = ss := by
  refine parseText_eq_of_greedy ⟨hss, [], ?_, stuck_nil ss⟩
  rw [textLines_writeScenarios hi fun c hc => (hw c hc).1, significant,
    places_writeLine hi hne (Nat.zero_le _) not_prose_of_mem_spelling hw, List.append_nil]
  exact List.filter_eq_self.2 fun c hc => by simpa using not_prose_of_mem_spelling c hc

/-- Descriptions and commands that look like directives come back as they were. -/
theorem parseText_writeScenarios_disguised :
    let ss : List Scenario := [⟨.block "Given: y" ["When: x"],
      [⟨some (.all [.block "" ["(finally)"], .block "\r." []]), none⟩], some (.block "" ["Or:"])⟩]
    (∀ s ∈ ss, s.Canonical) ∧ Blanks "\t ".toList ∧ "\t " ≠ "" ∧
      (∀ c ∈ spelling ss, Writable c.2 ∧ (c.1 = .command → c.2 ≠ "")) ∧
      parseText (writeScenarios "\t " ss) = ss := by
  intro ss
  have hss : ∀ s ∈ ss, s.Canonical := by
    intro s hs
    rw [List.mem_singleton.1 hs]
    refine ⟨?_, ?_, .singleton _⟩
    · simp [Scenario.parts, Behavior.parts, Expression.Canonical, Expression.IsBlock]
    · simp
  have hi : Blanks "\t ".toList := by decide
  have hspelling : spelling ss = [(.directive .precondition, "Given: y"), (.command, "When: x"),
      (.directive .action, ""), (.command, "(finally)"), (.directive .also, "\r."), (.directive .cleanup, ""),
      (.command, "Or:")] := rfl
  have hw : ∀ c ∈ spelling ss, Writable c.2 ∧ (c.1 = .command → c.2 ≠ "") := by
    rw [hspelling]
    decide
  exact ⟨hss, hi, by decide, hw, parseText_writeScenarios hss hi (by decide) hw⟩

end Acceptance
