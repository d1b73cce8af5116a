import Acceptance.Text.CaseFolding
import Acceptance.Text.Classes

/-!
# Patterns

A pattern describes texts: single characters from a set, conditions on the place in the text, sequences, alternatives
and repetitions. `Pattern.ends` gives the places where a match that begins at a given place can end, and a text is
matched if some match begins somewhere in it.
-/

namespace Acceptance

/-- A set of characters. -/
inductive CharSet where
  | ranges (rs : List (Nat × Nat))
  | union (a b : CharSet)
  | inter (a b : CharSet)
  | without (a b : CharSet)
  | exactlyOne (a b : CharSet)
  | compl (a : CharSet)
  /-- The characters that have a form in the set. -/
  | anyCase (a : CharSet)
deriving Repr

namespace CharSet

def empty : CharSet := .ranges []

def single (c : Char) : CharSet := .ranges [(c.toNat, c.toNat)]

def mem : CharSet → Char → Bool
  | .ranges rs, c => inRanges rs c
  | .union a b, c => a.mem c || b.mem c
  | .inter a b, c => a.mem c && b.mem c
  | .without a b, c => a.mem c && !b.mem c
  | .exactlyOne a b, c => a.mem c != b.mem c
  | .compl a, c => !a.mem c
  | .anyCase a, c => (caseForms c).any a.mem

end CharSet

/-- Conditions on a place in a text. -/
inductive Place where
  | textStart
  | textEnd
  | lineStart
  | lineEnd
  | wordBoundary
  | notWordBoundary
  | wordStart
  | wordEnd
  | wordStartHalf
  | wordEndHalf
deriving DecidableEq, Repr

namespace Place

/-- Whether a condition holds between two characters, of which either may be missing. -/
def holds (before after : Option Char) : Place → Bool
  | textStart => before.isNone
  | textEnd => after.isNone
  | lineStart => before.all (· == '\n')
  | lineEnd => after.all (· == '\n')
  | wordBoundary => before.any isWordChar != after.any isWordChar
  | notWordBoundary => before.any isWordChar == after.any isWordChar
  | wordStart => !before.any isWordChar && after.any isWordChar
  | wordEnd => before.any isWordChar && !after.any isWordChar
  | wordStartHalf => !before.any isWordChar
  | wordEndHalf => !after.any isWordChar

end Place

/-- A description of texts. -/
inductive Pattern where
  | empty
  | set (s : CharSet)
  | place (p : Place)
  | seq (a b : Pattern)
  | alt (a b : Pattern)
  /-- At least `least` times, and at most `most` times if a bound is given. -/
  | repeated (p : Pattern) (least : Nat) (most : Option Nat)
deriving Repr

namespace Pattern

def before (text : Array Char) (i : Nat) : Option Char := if i = 0 then none else text[i - 1]?

def iterate (step : List Nat → List Nat) : Nat → List Nat → List Nat
  | 0, places => places
  | n + 1, places => iterate step n (step places)

def reach (step : List Nat → List Nat) : Nat → List Nat → List Nat
  | 0, places => places
  | n + 1, places => reach step n (places ++ (step places).filter (!places.contains ·))

/-- The places where a match that begins at place `i` can end. -/
def ends (text : Array Char) : Pattern → Nat → List Nat
  | .empty, i => [i]
  | .set s, i => if text[i]?.any s.mem then [i + 1] else []
  | .place p, i => if p.holds (before text i) text[i]? then [i] else []
  | .seq a b, i => ((ends text a i).flatMap (ends text b)).eraseDups
  | .alt a b, i => (ends text a i ++ ends text b i).eraseDups
  | .repeated p least most, i =>
    -- a path of more steps than there are places stands still somewhere, so further steps reach nothing new
    let enough := text.size + 1
    let step (places : List Nat) := (places.flatMap (ends text p)).eraseDups
    reach step (most.elim enough fun n => min enough (n - least)) (iterate step (min enough least) [i])

def accepts (p : Pattern) (text : String) : Bool :=
  let chars := text.toList.toArray
  (List.range (chars.size + 1)).any fun i => !(ends chars p i).isEmpty

end Pattern

end Acceptance
