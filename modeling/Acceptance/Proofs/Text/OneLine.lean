import Acceptance.Proofs.Text.Blank

/-!
# Texts without newlines

A text on one line holds no newline.  Numbers are on one line, and so is what is made of such texts by putting them
together or by trimming them.
-/

namespace Acceptance

/-- The text holds no newline. -/
def OneLine (s : String) : Prop := '\n' ∉ s.toList

instance (s : String) : Decidable (OneLine s) := inferInstanceAs (Decidable (_ ∉ _))

@[simp] theorem oneLine_append {s t : String} : OneLine (s ++ t) ↔ OneLine s ∧ OneLine t := by
  simp [OneLine]

@[simp] theorem oneLine_ofList {cs : List Char} : OneLine (String.ofList cs) ↔ '\n' ∉ cs := by
  simp [OneLine]

/-- There are only digits in a number. -/
theorem not_mem_repr {c : Char} (h : c.isDigit = false) (n : Nat) : c ∉ n.repr.toList := by
  intro hc
  rw [Nat.toList_repr] at hc
  rw [Nat.isDigit_of_mem_toDigits (by omega) (by omega) hc] at h
  cases h

@[simp] theorem oneLine_repr (n : Nat) : OneLine n.repr := not_mem_repr (by decide) n

theorem trimBlanks_subset (cs : List Char) : trimBlanks cs ⊆ cs := by
  intro c hc
  have h := (List.dropWhile_sublist _).subset (List.mem_reverse.1 hc)
  exact (List.dropWhile_sublist _).subset (List.mem_reverse.1 h)

theorem OneLine.trim {s : String} (h : OneLine s) : OneLine (trim s) := by
  rw [OneLine, toList_trim]
  exact fun hc => h (trimBlanks_subset _ hc)

end Acceptance
