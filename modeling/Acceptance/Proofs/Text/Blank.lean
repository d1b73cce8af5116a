import Acceptance.Text.Blank
import Mathlib.Data.List.TakeWhile

/-!
# Blanks around a text

Blanks put in front of a text or after it do not change what trimming leaves, and blanks in front add to the
indentation.  A text that does not begin with a blank is what trimming leaves of it and blanks
(`exists_eq_trimBlanks_append`).
-/

namespace Acceptance

/-- All characters are blanks. -/
def Blanks (w : List Char) : Prop := ∀ c ∈ w, isBlank c = true

instance (w : List Char) : Decidable (Blanks w) := List.decidableBAll _ w

/-- The text does not begin with a blank. -/
def Unindented (cs : List Char) : Prop := ∀ c ∈ cs.head?, isBlank c = false

theorem Blanks.not_mem {w : List Char} (hw : Blanks w) {c : Char} (hc : isBlank c = false) : c ∉ w := by
  intro h
  rw [hw c h] at hc
  cases hc

theorem Blanks.reverse {w : List Char} (hw : Blanks w) : Blanks w.reverse :=
  fun c hc => hw c (List.mem_reverse.1 hc)

theorem dropBlanks_append {w : List Char} (hw : Blanks w) (cs : List Char) : dropBlanks (w ++ cs) = dropBlanks cs :=
  List.dropWhile_append_of_pos hw

theorem dropBlanks_of_unindented {cs : List Char} (h : Unindented cs) : dropBlanks cs = cs := by
  cases cs with
  | nil => rfl
  | cons c cs =>
    have hc : isBlank c = false := h c rfl
    rw [dropBlanks, List.dropWhile_cons_of_neg (by simp [hc])]

theorem Unindented.of_isPrefix {l cs : List Char} (h : Unindented cs) (hl : l <+: cs) : Unindented l := by
  obtain ⟨r, rfl⟩ := hl
  cases l with
  | nil => nofun
  | cons c l => exact fun d hd => h d hd

/-- What is left after the leading blanks does not begin with one. -/
theorem unindented_dropBlanks (cs : List Char) : Unindented (dropBlanks cs) := by
  induction cs with
  | nil => nofun
  | cons c cs ih =>
    unfold dropBlanks
    rw [List.dropWhile_cons]
    split
    · exact ih
    · rename_i hc
      rintro _ ⟨⟩
      simpa using hc

/-- A text is its leading blanks and what is left after them. -/
theorem takeWhile_append_dropBlanks (cs : List Char) : cs.takeWhile isBlank ++ dropBlanks cs = cs :=
  List.takeWhile_append_dropWhile

theorem blanks_takeWhile (cs : List Char) : Blanks (cs.takeWhile isBlank) := List.all_eq_true.1 List.all_takeWhile

/-! ### Trimming -/

theorem trimBlanks_blanks_append {w : List Char} (hw : Blanks w) (cs : List Char) :
    trimBlanks (w ++ cs) = trimBlanks cs := by
  rw [trimBlanks, dropBlanks_append hw, trimBlanks]

theorem trimBlanks_append_blanks (cs : List Char) {w : List Char} (hw : Blanks w) :
    trimBlanks (cs ++ w) = trimBlanks cs := by
  have hnil : dropBlanks w = [] := by
    have := dropBlanks_append hw []
    rwa [List.append_nil] at this
  unfold trimBlanks
  rw [show dropBlanks (cs ++ w) = _ from List.dropWhile_append]
  split
  · rename_i h
    rw [show dropBlanks cs = [] by simpa [dropBlanks] using h]
    exact congrArg (fun l : List Char => (dropBlanks l.reverse).reverse) hnil
  · rw [List.reverse_append, dropBlanks_append hw.reverse]
    rfl

theorem trim_blanks_append {w : String} (hw : Blanks w.toList) (s : String) : trim (w ++ s) = trim s :=
  String.toList_injective (by rw [toList_trim, toList_trim, String.toList_append, trimBlanks_blanks_append hw])

theorem trim_append_blanks (s : String) {w : String} (hw : Blanks w.toList) : trim (s ++ w) = trim s :=
  String.toList_injective (by rw [toList_trim, toList_trim, String.toList_append, trimBlanks_append_blanks _ hw])

/-- A text that neither begins nor ends with a blank is left as it is. -/
theorem trimBlanks_eq_self {cs : List Char} (h : Unindented cs) (h' : Unindented cs.reverse) :
    trimBlanks cs = cs := by
  rw [trimBlanks, dropBlanks_of_unindented h, dropBlanks_of_unindented h', List.reverse_reverse]

/-- A text that does not begin with a blank loses only blanks at its end. -/
theorem exists_eq_trimBlanks_append {cs : List Char} (h : Unindented cs) :
    ∃ w, Blanks w ∧ cs = trimBlanks cs ++ w := by
  refine ⟨(cs.reverse.takeWhile isBlank).reverse, (blanks_takeWhile _).reverse, ?_⟩
  have := congrArg List.reverse (takeWhile_append_dropBlanks cs.reverse)
  rw [List.reverse_append, List.reverse_reverse] at this
  rw [trimBlanks, dropBlanks_of_unindented h, this]

/-- Nothing is left exactly of a text of blanks. -/
theorem trimBlanks_eq_nil_iff {cs : List Char} : trimBlanks cs = [] ↔ Blanks cs := by
  constructor
  · intro h
    have hdrop : Blanks (dropBlanks cs) := by
      rw [← List.reverse_reverse (dropBlanks cs)]
      exact Blanks.reverse (List.dropWhile_eq_nil_iff.1 (List.reverse_eq_nil_iff.1 h))
    rw [← takeWhile_append_dropBlanks cs]
    exact List.forall_mem_append.2 ⟨blanks_takeWhile cs, hdrop⟩
  · intro h
    rw [trimBlanks, show dropBlanks cs = [] from List.dropWhile_eq_nil_iff.2 h]
    rfl

/-- The text neither begins nor ends with a blank. -/
def Trimmed (s : String) : Prop := Unindented s.toList ∧ Unindented s.toList.reverse

theorem trimmed_trim (s : String) : Trimmed (trim s) := by
  have hback : (trimBlanks s.toList).reverse = dropBlanks (dropBlanks s.toList).reverse := List.reverse_reverse _
  have hfront : trimBlanks s.toList <+: dropBlanks s.toList := by
    rw [← List.reverse_suffix, hback]
    exact List.dropWhile_suffix isBlank
  rw [Trimmed, toList_trim]
  refine ⟨(unindented_dropBlanks s.toList).of_isPrefix hfront, ?_⟩
  rw [hback]
  exact unindented_dropBlanks _

/-- The text is the value with spaces and tabs around it, and the value neither begins nor ends with one. -/
def Strips (text value : String) : Prop :=
  ∃ front back, text.toList = front ++ value.toList ++ back ∧ (∀ c ∈ front ++ back, c = ' ' ∨ c = '\t') ∧
    ∀ c, value.toList.head? = some c ∨ value.toList.getLast? = some c → c ≠ ' ' ∧ c ≠ '\t'

theorem isBlank_iff_eq {c : Char} : isBlank c = true ↔ c = ' ' ∨ c = '\t' := by
  simp [isBlank]

theorem isBlank_eq_false_iff {c : Char} : isBlank c = false ↔ c ≠ ' ' ∧ c ≠ '\t' := by
  simp [isBlank]

/-- There is one value that a text is stripped to. -/
theorem strips_iff {text value : String} : Strips text value ↔ value = trim text := by
  constructor
  · rintro ⟨front, back, htext, hblanks, hends⟩
    have hall : ∀ c ∈ front ++ back, isBlank c = true := fun c hc => isBlank_iff_eq.2 (hblanks c hc)
    obtain ⟨hfront, hback⟩ := List.forall_mem_append.1 hall
    have hunindented : Unindented value.toList := fun c hc => isBlank_eq_false_iff.2 (hends c (.inl hc))
    have hreverse : Unindented value.toList.reverse := by
      intro c hc
      rw [List.head?_reverse] at hc
      exact isBlank_eq_false_iff.2 (hends c (.inr hc))
    apply String.toList_injective
    rw [toList_trim, htext, trimBlanks_append_blanks _ hback, trimBlanks_blanks_append hfront,
      trimBlanks_eq_self hunindented hreverse]
  · rintro rfl
    obtain ⟨back, hback, hrest⟩ := exists_eq_trimBlanks_append (unindented_dropBlanks text.toList)
    have hwhole := takeWhile_append_dropBlanks text.toList
    have hsame : trimBlanks (dropBlanks text.toList) = trimBlanks text.toList := by
      rw [← trimBlanks_blanks_append (blanks_takeWhile text.toList), hwhole]
    obtain ⟨hhead, hlast⟩ := trimmed_trim text
    refine ⟨text.toList.takeWhile isBlank, back, ?_, ?_, ?_⟩
    · rw [toList_trim, ← hsame, List.append_assoc, ← hrest, hwhole]
    · intro c hc
      exact isBlank_iff_eq.1 ((List.forall_mem_append.2 ⟨blanks_takeWhile _, hback⟩) c hc)
    · rintro c (hc | hc)
      · exact isBlank_eq_false_iff.1 (hhead c hc)
      · exact isBlank_eq_false_iff.1 (hlast c (by rwa [List.head?_reverse]))

/-! ### Indentation -/

theorem indentation_ofList (cs : List Char) : indentation (String.ofList cs) = (cs.takeWhile isBlank).length := by
  rw [indentation, String.toList_ofList]

theorem indentation_blanks_append {w : List Char} (hw : Blanks w) (cs : List Char) :
    indentation (String.ofList (w ++ cs)) = w.length + indentation (String.ofList cs) := by
  rw [indentation_ofList, indentation_ofList, List.takeWhile_append_of_pos hw, List.length_append]

theorem indentation_eq_zero_iff {s : String} : indentation s = 0 ↔ Unindented s.toList := by
  rw [indentation, Unindented]
  cases s.toList with
  | nil => simp
  | cons c cs => by_cases hc : isBlank c = true <;> simp [hc]

end Acceptance
