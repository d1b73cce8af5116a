import Acceptance.Run.Session

/-!
# Options

What the program is asked to do with a specification. How a command line is read into options is not its own affair.
-/

namespace Acceptance.CommandLine

/-- What the program is asked to do with a specification. -/
structure Options where
  /-- The path of the specification; `-` is standard input. -/
  path : String
  /-- Whether scenarios are shown instead of being run. -/
  parseOnly : Bool
  /-- The pattern for the names of the scenarios to be run. -/
  filter : Option String
  sandbox : Bool
  keep : Bool
  /-- The directory for commands or, with sandboxes, for the sandboxes. -/
  directory : Option String
  shell : String
  /-- Bindings, each a name and a value with an equals sign between them. -/
  bindings : List String
  verbose : Bool
deriving DecidableEq, Repr

namespace Options

/-- The path that stands for standard input. -/
def standardInput : String := "-"

/-- The options of an empty command line. -/
def default : Options := ⟨standardInput, false, none, false, false, none, Session.defaultShell, [], false⟩

end Options

end Acceptance.CommandLine
