import Acceptance.Spec.Basic
import Acceptance.Text.Quoted

/-!
# Scenarios on one line

The text of a scenario shows its tree: descriptions as they are, commands as a bracketed list of quoted texts, chains
and behaviors in braces with a space between neighbours.
-/

namespace Acceptance

/-- An inner text in braces after a label. -/
def braced (label inner : String) : String := label ++ "\x7b" ++ inner ++ "\x7d"

/-- Texts with a space between neighbours. -/
def spaced (texts : List String) : String := " ".intercalate texts

namespace Expression

mutual

/-- The text of an expression. -/
def text : Expression → String
  | .block d cs => braced "Block" (d ++ " " ++ quoteList cs)
  | .all children => braced "And" (spaced (texts children))
  | .any children => braced "Or" (spaced (texts children))

def texts : List Expression → List String
  | [] => []
  | e :: es => e.text :: texts es

end

/-- The text of an expression that may be missing. -/
def optionalText : Option Expression → String
  | none => "<none>"
  | some e => e.text

end Expression

namespace Behavior

/-- The text of a behavior. -/
def text (b : Behavior) : String :=
  braced "Behavior" ("When: " ++ Expression.optionalText b.action ++
    " Then: " ++ Expression.optionalText b.expectation)

end Behavior

namespace Scenario

/-- The part of a scenario's text that shows the cleanup, if there is one. -/
def cleanupText : Option Expression → String
  | none => ""
  | some e => " Finally: " ++ e.text

/-- The text of a scenario. -/
def text (s : Scenario) : String :=
  braced "Scenario" (s.precondition.text ++ " [" ++ spaced (s.behaviors.map Behavior.text) ++ "]" ++
    cleanupText s.cleanup)

end Scenario

end Acceptance
