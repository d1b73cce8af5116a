/-!
# Blanks

A blank is a space or a tab; nothing else separates words in a specification. Indentation is the number of leading
blanks, and trimming removes blanks at both ends. All functions are stated on the list of characters of a text and
carried over to `String`.
-/

namespace Acceptance

/-- A space or a tab. -/
def isBlank (c : Char) : Bool := c == ' ' || c == '\t'

/-- The characters left after the leading blanks are dropped. -/
def dropBlanks (cs : List Char) : List Char := cs.dropWhile isBlank

/-- The characters left after blanks are dropped at both ends. -/
def trimBlanks (cs : List Char) : List Char := (dropBlanks (dropBlanks cs).reverse).reverse

/-- A text without the blanks at its ends. -/
def trim (s : String) : String := String.ofList (trimBlanks s.toList)

/-- The number of leading blanks of a text. -/
def indentation (s : String) : Nat := (s.toList.takeWhile isBlank).length

/-- What follows `front` in a list that begins with it. -/
def afterFront? : List Char → List Char → Option (List Char)
  | [], cs => some cs
  | _ :: _, [] => none
  | f :: front, c :: cs => if f = c then afterFront? front cs else none

/-- What follows `literal` in a text that begins with it. -/
def dropLiteral? (literal s : String) : Option String :=
  (afterFront? literal.toList s.toList).map String.ofList

@[simp] theorem toList_trim (s : String) : (trim s).toList = trimBlanks s.toList := by
  simp [trim]

theorem afterFront?_eq_some_iff {front cs rest : List Char} :
    afterFront? front cs = some rest ↔ cs = front ++ rest := by
  fun_induction afterFront? front cs with
  | case1 cs => simp [eq_comm]
  | case2 => simp
  | case3 f front cs ih => simpa using ih
  | case4 f front c cs h => simp [Ne.symm h]

/-- A literal is found exactly at the front of a text, and what follows it is the rest. -/
theorem dropLiteral?_eq_some_iff {literal s rest : String} :
    dropLiteral? literal s = some rest ↔ s = literal ++ rest := by
  unfold dropLiteral?
  rw [Option.map_eq_some_iff]
  constructor
  · rintro ⟨r, hr, rfl⟩
    exact String.ext (by simpa using afterFront?_eq_some_iff.1 hr)
  · rintro rfl
    exact ⟨rest.toList, afterFront?_eq_some_iff.2 (by simp), by simp⟩

end Acceptance
