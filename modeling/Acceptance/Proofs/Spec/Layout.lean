import Mathlib.Logic.Relation
import Mathlib.Order.Monotone.Basic
import Acceptance.Proofs.Spec.Entry

/-!
# Layout does not matter

The scenarios of a text depend only on its layout, that is the outlines of its lines that are not blank, and on the
indentations only through their order and through which of them are 0 (`parseText_eq_of_layout`).  The usual edits of
a text (`Relaid`) either keep the layout or scale its indentations.
-/

namespace Acceptance

/-! ### Indentations in another scale -/

/-- The indentations of outlines, and 0. -/
def widths (ps : List Outline) : Set Nat := {n | n = 0 ∨ ∃ p ∈ ps, p.1 = n}

/-- Outlines with indentations in another scale. -/
def rescale (f : Nat → Nat) (ps : List Outline) : List Outline := ps.map fun p => (f p.1, p.2)

section Rescale

variable {f : Nat → Nat} {S : Set Nat}

/-- A line becomes the same in another scale, and what it asks for is in that scale. -/
private theorem place_rescale (hf : StrictMonoOn f S) (h₀ : f 0 = 0) (hS : 0 ∈ S) {last : Nat} (hl : last ∈ S)
    {p : Outline} (hp : p.1 ∈ S) :
    place (f last) (f p.1, p.2) = ((place last p).1, f (place last p).2) ∧ (place last p).2 ∈ S := by
  -- a line is classified by two comparisons of its indentation, and `f` keeps both
  have hpos : 0 < f p.1 ↔ 0 < p.1 := by
    have := hf.lt_iff_lt hS hp
    rwa [h₀] at this
  have hle : f last ≤ f p.1 ↔ last ≤ p.1 := hf.le_iff_le hl hp
  unfold place
  simp only [hpos, hle]
  split
  · exact ⟨rfl, hp⟩
  · split
    · exact ⟨Prod.ext rfl h₀.symm, hS⟩
    · exact ⟨Prod.ext rfl h₀.symm, hS⟩

/-- Two runs over the same lines in different scales make the same. -/
private theorem places_rescale (hf : StrictMonoOn f S) (h₀ : f 0 = 0) (hS : 0 ∈ S) {last : Nat} (hl : last ∈ S)
    {ps : List Outline} (hps : ∀ p ∈ ps, p.1 ∈ S) : places (f last) (rescale f ps) = places last ps := by
  induction ps generalizing last with
  | nil => rfl
  | cons p ps ih =>
    obtain ⟨hp, hnext⟩ := place_rescale hf h₀ hS hl (hps p (by simp))
    rw [rescale, List.map_cons, places, hp, places]
    rw [← ih hnext fun q hq => hps q (by simp [hq])]
    rfl

end Rescale

theorem significant_rescale {f : Nat → Nat} {ps : List Outline} (h₀ : f 0 = 0) (hf : StrictMonoOn f (widths ps)) :
    significant (rescale f ps) = significant ps := by
  have hS : 0 ∈ widths ps := .inl rfl
  have h := places_rescale hf h₀ hS hS fun p hp => .inr ⟨p, hp, rfl⟩
  rw [h₀] at h
  rw [significant, h, significant]

/-- The outlines of the lines of a text that are not blank. -/
def layout (text : String) : List Outline := outlines (textLines text)

theorem parseText_eq_of_significant {a b : String} (h : significant (layout b) = significant (layout a)) :
    parseText a = parseText b := by
  refine parseText_eq_of_greedy ?_
  rw [← layout, ← h]
  exact (parseText_greedy b).2

/-! ### Outlines line by line -/

/-- What comes next begins a line. -/
def AtStart (p : List Char) : Prop := ∀ c ∈ p.getLast?, c = '\n'

instance (p : List Char) : Decidable (AtStart p) :=
  decidable_of_iff (p.getLast?.all (· == '\n') = true) (by cases h : p.getLast? <;> simp [AtStart, h])

theorem AtStart.append {p q : List Char} (hp : AtStart p) (hq : AtStart q) : AtStart (p ++ q) := by
  intro c hc
  rw [List.getLast?_append] at hc
  rcases Option.or_eq_some_iff.1 hc with h | ⟨-, h⟩
  · exact hq c h
  · exact hp c h

/-- What comes before ends a line. -/
def AtEnd (q : List Char) : Prop := ∀ c ∈ q.head?, c = '\n'

/-- The outlines of the lines of some characters. -/
private def charLayout (cs : List Char) : List Outline := layout (String.ofList cs)

/-- The outline of one line without its newline, or nothing if it is blank. -/
private def lineOutlines (l : List Char) : List Outline := outlines [String.ofList (dropFinal '\r' l)]

private theorem charLayout_eq (cs : List Char) : charLayout cs = (splitLines '\n' cs).flatMap lineOutlines := by
  rw [charLayout, layout, textLines, String.toList_ofList]
  induction splitLines '\n' cs with
  | nil => rfl
  | cons l ls ih =>
    have h (t : String) (ts : List String) : outlines (t :: ts) = outlines [t] ++ outlines ts := by
      rw [outlines, ← List.singleton_append, List.filter_append, List.map_append]
      rfl
    rw [List.map_cons, h, ih, List.flatMap_cons]
    rfl

/-- Every place in a text is in a line that begins before it. -/
private theorem exists_atStart (p : List Char) : ∃ p₀ l, p = p₀ ++ l ∧ AtStart p₀ ∧ '\n' ∉ l := by
  induction p with
  | nil => exact ⟨[], [], rfl, nofun, nofun⟩
  | cons c p ih =>
    obtain ⟨p₀, l, rfl, hp, hl⟩ := ih
    by_cases hnil : p₀ = []
    · subst hnil
      by_cases hc : c = '\n'
      · exact ⟨[c], l, rfl, by rintro _ ⟨⟩; exact hc, hl⟩
      · refine ⟨[], c :: l, rfl, nofun, ?_⟩
        rw [List.mem_cons, not_or]
        exact ⟨Ne.symm hc, hl⟩
    · refine ⟨c :: p₀, l, rfl, fun d hd => hp d ?_, hl⟩
      rwa [List.getLast?_cons_of_ne_nil hnil] at hd

/-- Every place in a text is in a line that ends after it. -/
private theorem exists_atEnd (q : List Char) : ∃ l q₀, q = l ++ q₀ ∧ '\n' ∉ l ∧ AtEnd q₀ := by
  induction q with
  | nil => exact ⟨[], [], rfl, nofun, nofun⟩
  | cons c q ih =>
    by_cases hc : c = '\n'
    · exact ⟨[], c :: q, rfl, nofun, by rintro _ ⟨⟩; exact hc⟩
    · obtain ⟨l, q₀, rfl, hl, hq⟩ := ih
      refine ⟨c :: l, q₀, rfl, ?_, hq⟩
      rw [List.mem_cons, not_or]
      exact ⟨Ne.symm hc, hl⟩

/-- Lines are divided at the beginning of a line. -/
private theorem charLayout_append {p : List Char} (hp : AtStart p) (q : List Char) :
    charLayout (p ++ q) = charLayout p ++ charLayout q := by
  rw [charLayout_eq, charLayout_eq, charLayout_eq, ← List.flatMap_append, splitLines_append_of_getLast? hp]

/-- The line in front has its own outline. -/
private theorem charLayout_line {l q : List Char} (hl : '\n' ∉ l) (hq : AtEnd q) :
    charLayout (l ++ q) = lineOutlines l ++ charLayout q := by
  have hnil : lineOutlines [] = [] := rfl
  rw [charLayout_eq, charLayout_eq]
  cases q with
  | nil =>
    by_cases h : l = []
    · subst h
      rfl
    · rw [List.append_nil, splitLines_of_not_mem hl h]
      rfl
  | cons c q =>
    have hc : c = '\n' := hq c rfl
    subst hc
    rw [splitLines_append hl, splitLines, if_pos rfl, List.flatMap_cons, List.flatMap_cons, hnil, List.nil_append]

/-- A change within one line is a change of its outline. -/
private theorem charLayout_congr {p l l' q : List Char} (hp : AtStart p) (hl : '\n' ∉ l) (hl' : '\n' ∉ l')
    (hq : AtEnd q) (h : lineOutlines l = lineOutlines l') :
    charLayout (p ++ (l ++ q)) = charLayout (p ++ (l' ++ q)) := by
  rw [charLayout_append hp, charLayout_append hp, charLayout_line hl hq, charLayout_line hl' hq, h]

private theorem dropFinal_blanks_append {w : List Char} (hw : Blanks w) (l : List Char) :
    dropFinal '\r' (w ++ l) = w ++ dropFinal '\r' l := by
  by_cases h : l.getLast? = some '\r'
  · obtain ⟨l, rfl⟩ := List.getLast?_eq_some_iff.1 h
    rw [← List.append_assoc, dropFinal_concat, dropFinal_concat]
  · rw [dropFinal_of_ne h, dropFinal_of_ne]
    cases l with
    | nil =>
      rw [List.append_nil]
      exact getLast?_ne_of_not_mem (hw.not_mem (by decide))
    | cons c l => rwa [List.getLast?_append_of_ne_nil _ (by simp)]

private theorem any_eq_false_of_blanks {w : List Char} (hw : Blanks w) : (w.any fun c => !isBlank c) = false :=
  List.any_eq_false.2 fun c hc => by simp [hw c hc]

private theorem outlines_singleton (l : List Char) :
    outlines [String.ofList l] =
      if l.any (fun c => !isBlank c) then [((l.takeWhile isBlank).length, String.ofList (trimBlanks l))]
      else [] := by
  by_cases h : isWritten (String.ofList l) = true
  · rw [outlines, List.filter_cons_of_pos h, if_pos (by simpa [isWritten] using h)]
    show [outline (String.ofList l)] = _
    rw [outline, indentation_ofList, trim, String.toList_ofList]
  · rw [outlines, List.filter_cons_of_neg h, if_neg (by simpa [isWritten] using h)]
    rfl

/-- Blanks in front of a line add to its indentation. -/
private theorem outlines_blanks_append {w : List Char} (hw : Blanks w) (l : List Char) :
    outlines [String.ofList (w ++ l)] = rescale (w.length + ·) (outlines [String.ofList l]) := by
  rw [outlines_singleton, outlines_singleton, List.any_append, any_eq_false_of_blanks hw, Bool.false_or,
    List.takeWhile_append_of_pos hw, List.length_append, trimBlanks_blanks_append hw]
  split <;> rfl

private theorem takeWhile_append_blanks {l : List Char} (h : l.any (fun c => !isBlank c) = true) (w : List Char) :
    (l ++ w).takeWhile isBlank = l.takeWhile isBlank := by
  induction l with
  | nil => cases h
  | cons c l ih =>
    by_cases hc : isBlank c = true
    · have hl : l.any (fun c => !isBlank c) = true := by simpa [hc] using h
      rw [List.cons_append, List.takeWhile_cons_of_pos hc, List.takeWhile_cons_of_pos hc, ih hl]
    · rw [List.cons_append, List.takeWhile_cons_of_neg hc, List.takeWhile_cons_of_neg hc]

/-- Blanks at the end of a line do not show. -/
private theorem outlines_append_blanks (l : List Char) {w : List Char} (hw : Blanks w) :
    outlines [String.ofList (l ++ w)] = outlines [String.ofList l] := by
  rw [outlines_singleton, outlines_singleton, List.any_append, any_eq_false_of_blanks hw, Bool.or_false,
    trimBlanks_append_blanks l hw]
  split
  · rename_i h
    rw [takeWhile_append_blanks h]
  · rfl

/-! ### Edits -/

/-- The line with `k` times its indentation. -/
def scaleIndentation (k : Nat) (l : List Char) : List Char :=
  (l.takeWhile isBlank).flatMap (List.replicate k) ++ dropBlanks l

/-- One edit of the layout of a text. -/
inductive Relaid : List Char → List Char → Prop
  /-- One more blank line. -/
  | blankLine {p w q : List Char} : AtStart p → Blanks w → Relaid (p ++ q) (p ++ w ++ '\n' :: q)
  /-- Blanks at the end of a line that ends without a carriage return. -/
  | trailing {p w q : List Char} : p.getLast? ≠ some '\r' → Blanks w → AtEnd q → Relaid (p ++ q) (p ++ w ++ q)
  /-- Blanks at the end of a line, before its carriage return. -/
  | trailingReturn {p w q : List Char} : Blanks w → AtEnd q → Relaid (p ++ '\r' :: q) (p ++ w ++ '\r' :: q)
  /-- Other blanks in front of a line, as many as before. -/
  | indentation {p w w' q : List Char} : AtStart p → Blanks w → Blanks w' → w.length = w'.length →
      Relaid (p ++ w ++ q) (p ++ w' ++ q)
  /-- A carriage return before a newline. -/
  | lineEnd {p q : List Char} : p.getLast? ≠ some '\r' → Relaid (p ++ '\n' :: q) (p ++ '\r' :: '\n' :: q)
  /-- A newline at the end. -/
  | finalNewline {p : List Char} : Relaid p (p ++ ['\n'])
  /-- All indentations multiplied. -/
  | scale {a b : List Char} {k : Nat} : 0 < k →
      splitLines '\n' b = (splitLines '\n' a).map (scaleIndentation k) → Relaid a b

private theorem atEnd_newline (q : List Char) : AtEnd ('\n' :: q) := by
  rintro _ ⟨⟩
  rfl

private theorem charLayout_newline (q : List Char) : charLayout ('\n' :: q) = charLayout q := by
  rw [charLayout_eq, charLayout_eq, splitLines, if_pos rfl]
  rfl

private theorem lineOutlines_of_ne {l : List Char} (h : l.getLast? ≠ some '\r') :
    lineOutlines l = outlines [String.ofList l] := by
  rw [lineOutlines, dropFinal_of_ne h]

private theorem lineOutlines_concat (l : List Char) : lineOutlines (l ++ ['\r']) = outlines [String.ofList l] := by
  rw [lineOutlines, dropFinal_concat]

private theorem lineOutlines_blanks_append {w : List Char} (hw : Blanks w) (l : List Char) :
    lineOutlines (w ++ l) = rescale (w.length + ·) (lineOutlines l) := by
  rw [lineOutlines, dropFinal_blanks_append hw, outlines_blanks_append hw, lineOutlines]

private theorem lineOutlines_append_blanks {l w : List Char} (h : l.getLast? ≠ some '\r') (hw : Blanks w) :
    lineOutlines (l ++ w) = lineOutlines l := by
  have hlast : (l ++ w).getLast? ≠ some '\r' := by
    by_cases hnil : w = []
    · rwa [hnil, List.append_nil]
    · rw [List.getLast?_append_of_ne_nil _ hnil]
      exact getLast?_ne_of_not_mem (hw.not_mem (by decide))
  rw [lineOutlines_of_ne hlast, lineOutlines_of_ne h, outlines_append_blanks l hw]

private theorem lineOutlines_blanks {w : List Char} (hw : Blanks w) : lineOutlines w = [] :=
  lineOutlines_append_blanks (l := []) (by simp) hw

private theorem getLast?_ne_of_append {p l : List Char} {c : Char} (h : (p ++ l).getLast? ≠ some c) :
    l.getLast? ≠ some c := by
  cases l with
  | nil => simp
  | cons a l => rwa [List.getLast?_append_of_ne_nil _ (by simp)] at h

private theorem newline_not_mem_append {l l' : List Char} (h : '\n' ∉ l) (h' : '\n' ∉ l') : '\n' ∉ l ++ l' := by
  rw [List.mem_append, not_or]
  exact ⟨h, h'⟩

private theorem length_flatMap_replicate (k : Nat) (w : List Char) :
    (w.flatMap (List.replicate k)).length = k * w.length := by
  induction w with
  | nil => rfl
  | cons c w ih =>
    rw [List.flatMap_cons, List.length_append, ih, List.length_replicate, List.length_cons, Nat.mul_succ, Nat.add_comm]

/-- A line that does not begin with a blank has no indentation. -/
private theorem eq_zero_of_mem_lineOutlines {l : List Char} (h : Unindented l) : ∀ p ∈ lineOutlines l, p.1 = 0 := by
  have hu : Unindented (String.ofList (dropFinal '\r' l)).toList := by
    rw [String.toList_ofList]
    exact h.of_isPrefix (dropFinal_isPrefix '\r' l)
  intro p hp
  obtain ⟨t, ht, rfl⟩ := List.mem_map.1 hp
  rw [List.mem_singleton.1 (List.mem_of_mem_filter ht)]
  exact indentation_eq_zero_iff.2 hu

/-- A line with more indentation has its outline in that scale. -/
private theorem lineOutlines_scale (k : Nat) (l : List Char) :
    lineOutlines (scaleIndentation k l) = rescale (k * ·) (lineOutlines l) := by
  have hw' : Blanks ((l.takeWhile isBlank).flatMap (List.replicate k)) := by
    intro c hc
    obtain ⟨d, hd, hcd⟩ := List.mem_flatMap.1 hc
    rw [List.eq_of_mem_replicate hcd]
    exact blanks_takeWhile l d hd
  have hl := lineOutlines_blanks_append (blanks_takeWhile l) (dropBlanks l)
  rw [takeWhile_append_dropBlanks] at hl
  rw [scaleIndentation, lineOutlines_blanks_append hw', length_flatMap_replicate, hl, rescale, rescale, rescale,
    List.map_map]
  refine List.map_congr_left fun p hp => Prod.ext ?_ rfl
  have hp₀ := eq_zero_of_mem_lineOutlines (unindented_dropBlanks l) p hp
  show k * _ + p.1 = k * (_ + p.1)
  rw [hp₀, Nat.add_zero, Nat.add_zero]

/-- A change at the end of a line is a change of its outline. -/
private theorem charLayout_congr_end {p e e' q : List Char} (he : '\n' ∉ e) (he' : '\n' ∉ e') (hq : AtEnd q)
    (h : ∀ l, l <:+ p → lineOutlines (l ++ e) = lineOutlines (l ++ e')) :
    charLayout (p ++ (e ++ q)) = charLayout (p ++ (e' ++ q)) := by
  obtain ⟨p, l, rfl, hp, hl⟩ := exists_atStart p
  have hc := charLayout_congr hp (newline_not_mem_append hl he) (newline_not_mem_append hl he') hq
    (h l (List.suffix_append p l))
  simpa only [List.append_assoc] using hc

/-- A change at the beginning of a line is a change of its outline. -/
private theorem charLayout_congr_start {p w w' q : List Char} (hp : AtStart p) (hw : '\n' ∉ w) (hw' : '\n' ∉ w')
    (h : ∀ l, lineOutlines (w ++ l) = lineOutlines (w' ++ l)) :
    charLayout (p ++ (w ++ q)) = charLayout (p ++ (w' ++ q)) := by
  obtain ⟨l, q, rfl, hl, hq⟩ := exists_atEnd q
  have hc := charLayout_congr hp (newline_not_mem_append hw hl) (newline_not_mem_append hw' hl) hq (h l)
  simpa only [List.append_assoc] using hc

/-- An edit keeps the layout or scales it. -/
private theorem charLayout_of_relaid {a b : List Char} (h : Relaid a b) :
    charLayout b = charLayout a ∨ ∃ k, 0 < k ∧ charLayout b = rescale (k * ·) (charLayout a) := by
  cases h with
  | @blankLine p w q hp hw =>
    left
    rw [List.append_assoc, charLayout_append hp, charLayout_append hp,
      charLayout_line (hw.not_mem (by decide)) (atEnd_newline q), lineOutlines_blanks hw, charLayout_newline]
    rfl
  | @trailing p w q hr hw hq =>
    left
    have hc : charLayout (p ++ (w ++ q)) = charLayout (p ++ ([] ++ q)) := by
      refine charLayout_congr_end (hw.not_mem (by decide)) (by simp) hq ?_
      rintro l ⟨p₀, rfl⟩
      rw [lineOutlines_append_blanks (getLast?_ne_of_append hr) hw, List.append_nil]
    rwa [List.append_assoc]
  | @trailingReturn p w q hw hq =>
    left
    have hwr := newline_not_mem_append (hw.not_mem (by decide)) (show '\n' ∉ ['\r'] by decide)
    have hc : charLayout (p ++ ((w ++ ['\r']) ++ q)) = charLayout (p ++ (['\r'] ++ q)) := by
      refine charLayout_congr_end hwr (by decide) hq fun l _ => ?_
      rw [← List.append_assoc, lineOutlines_concat, lineOutlines_concat, outlines_append_blanks l hw]
    simpa only [List.append_assoc, List.singleton_append] using hc
  | @indentation p w w' q hp hw hw' hlen =>
    left
    rw [List.append_assoc, List.append_assoc]
    refine charLayout_congr_start hp (hw'.not_mem (by decide)) (hw.not_mem (by decide)) fun l => ?_
    rw [lineOutlines_blanks_append hw, lineOutlines_blanks_append hw', hlen]
  | @lineEnd p q hr =>
    left
    have hc : charLayout (p ++ (['\r'] ++ '\n' :: q)) = charLayout (p ++ ([] ++ '\n' :: q)) := by
      refine charLayout_congr_end (by decide) (by simp) (atEnd_newline q) ?_
      rintro l ⟨p₀, rfl⟩
      rw [lineOutlines_concat, List.append_nil, lineOutlines_of_ne (getLast?_ne_of_append hr)]
    exact hc
  | @finalNewline =>
    left
    obtain ⟨p, l, rfl, hp, hl⟩ := exists_atStart a
    rw [List.append_assoc, charLayout_append hp, charLayout_append hp, charLayout_line hl (atEnd_newline []),
      charLayout_newline]
    rw [← charLayout_line hl (by nofun), List.append_nil]
  | @scale _ _ k hk hab =>
    right
    refine ⟨k, hk, ?_⟩
    rw [charLayout_eq, charLayout_eq, hab, List.flatMap_map, rescale, List.map_flatMap]
    exact congrArg (List.flatMap · _) (funext fun l => lineOutlines_scale k l)

private theorem strictMonoOn_mul {k : Nat} (hk : 0 < k) (S : Set Nat) : StrictMonoOn (k * ·) S :=
  fun _ _ _ _ h => Nat.mul_lt_mul_of_pos_left h hk

private theorem parseText_eq_of_rescale {a b : String} {f : Nat → Nat} (h₀ : f 0 = 0)
    (hf : StrictMonoOn f (widths (layout a))) (h : layout b = rescale f (layout a)) : parseText a = parseText b := by
  refine parseText_eq_of_significant ?_
  rw [h, significant_rescale h₀ hf]

/-- Any number of edits, made or taken back, leaves the scenarios as they are. -/
private theorem parseText_eq_of_edits {a b : List Char} (h : Relation.EqvGen Relaid a b) :
    parseText (String.ofList a) = parseText (String.ofList b) := by
  induction h with
  | rel a b h =>
    rcases charLayout_of_relaid h with hab | ⟨k, hk, hab⟩
    · exact parseText_eq_of_significant (congrArg significant hab)
    · exact parseText_eq_of_rescale (Nat.mul_zero k) (strictMonoOn_mul hk _) hab
  | refl a => rfl
  | symm a b _ ih => exact ih.symm
  | trans a b c _ _ ih₁ ih₂ => exact ih₁.trans ih₂

/-- The scenarios of a text depend only on its layout, up to the scale of its indentations, and no edits of the
layout change them. -/
theorem parseText_eq_of_layout :
    (∀ (a b : String) (f : Nat → Nat), f 0 = 0 → StrictMonoOn f (widths (layout a)) →
      layout b = rescale f (layout a) → parseText a = parseText b) ∧
      ∀ a b : String, Relation.EqvGen Relaid a.toList b.toList → parseText a = parseText b := by
  refine ⟨fun a b f h₀ hf h => parseText_eq_of_rescale h₀ hf h, fun a b h => ?_⟩
  have hab := parseText_eq_of_edits h
  rwa [String.ofList_toList, String.ofList_toList] at hab

/-- A line that is not indented enough for a command stays prose, and a carriage return comes and goes. -/
theorem parseText_eq_of_layout_narrower :
    let a := "Given: x\n\t  a\n  b\nOr"
    let b := "\nGiven: x \r\n  a\r\n \t\n\tb\nOr\r"
    (layout b = rescale (· - 1) (layout a) ∧ parseText a = parseText b) ∧
      Relation.EqvGen Relaid "Or\n".toList "Or\r\n".toList ∧ parseText "Or\n" = parseText "Or\r\n" := by
  intro a b
  have ha : layout a = [(0, "Given: x"), (3, "a"), (2, "b"), (0, "Or")] := by decide
  have hb : layout b = [(0, "Given: x"), (2, "a"), (1, "b"), (0, "Or")] := by decide
  have hab : layout b = rescale (· - 1) (layout a) := by
    rw [ha, hb]
    rfl
  have hf : StrictMonoOn (· - 1) (widths (layout a)) := by
    rw [ha]
    intro m hm n hn h
    simp [widths] at hm hn
    show m - 1 < n - 1
    omega
  have he : Relation.EqvGen Relaid "Or\n".toList "Or\r\n".toList :=
    .rel _ _ (.lineEnd (p := ['O', 'r']) (q := []) (by decide))
  exact ⟨⟨hab, parseText_eq_of_layout.1 a b (· - 1) rfl hf hab⟩, he, parseText_eq_of_layout.2 _ _ he⟩

end Acceptance
