import Acceptance.Text.Blank

/-!
# Lines

A line of a specification, with its number. A line is blank if it holds nothing but blanks.
-/

namespace Acceptance

/-- A line without its terminator. -/
structure Line where
  /-- The position in the input, counted from 1. -/
  number : Nat
  text : String
deriving DecidableEq, Repr

namespace Line

/-- Whether some character of the line is not a blank. -/
def isNotBlank (line : Line) : Bool := line.text.toList.any fun c => !isBlank c

end Line

end Acceptance
