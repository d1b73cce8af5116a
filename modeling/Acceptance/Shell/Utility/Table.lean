import Acceptance.Shell.Utility.Calculate
import Acceptance.Shell.Utility.Difference
import Acceptance.Shell.Utility.Print
import Acceptance.Shell.Utility.Rearrange
import Acceptance.Shell.Utility.Search
import Acceptance.Shell.Utility.Test
import Acceptance.Shell.Utility.Walk

/-!
# The utilities by name

The utilities that stand as programs in the file tree, and those that the shell has itself.
-/

namespace Acceptance.Shell.Utility

open Process

def succeed : Utility := fun _ => return 0

def fail : Utility := fun _ => return 1

def sleep : Utility := fun args => do
  let isTime (text : String) : Bool :=
    let rest := text.toList.dropWhile fun c => c.isDigit || c == '.'
    text.toList.any Char.isDigit && (rest.isEmpty || ["s", "m", "h", "d"].contains (String.ofList rest))
  if args.isEmpty then
    complainOfUse "missing operand"
    return 1
  match args.find? (!isTime ·) with
  | some text =>
    complainOfUse ("invalid time interval " ++ inQuotes text)
    return 1
  | none => return 0

def pwd : Utility := fun _ => do
  say ((← get).directory.text ++ "\n")
  return 0

/-- Writes the value of a name, or all bindings. -/
def printenv : Utility := fun args => do
  let environment := (← get).environment
  match args with
  | [] =>
    for (name, value) in environment do say s!"{name}={value}\n"
    return 0
  | _ =>
    each args fun name => do
      match environment.lookup name with
      | some value =>
        say (value ++ "\n")
        return 0
      | none => return 1

/-- Repeats a line as often as a reader may want. -/
def yes : Utility := fun args => do
  let line := encode ((if args.isEmpty then "y" else " ".intercalate args) ++ "\n")
  put (List.replicate 100000 line).flatten
  return 0

def programs : List (String × Utility) :=
  [("[", bracket), ("basename", basename), ("cat", cat), ("chmod", chmod), ("cmp", cmp), ("cp", transfer false),
   ("cut", cut), ("dd", dd), ("diff", diff), ("dirname", dirname), ("echo", plainEcho), ("egrep", grep ['E']),
   ("expr", expr), ("false", fail), ("fgrep", grep ['F']), ("find", find), ("grep", grep []), ("head", head),
   ("ls", ls), ("mkdir", mkdir), ("mv", transfer true), ("nl", nl), ("od", od), ("paste", paste),
   ("printenv", printenv), ("printf", printf), ("pwd", pwd), ("rev", rev), ("rm", rm), ("rmdir", rmdir), ("sed", sed),
   ("seq", seq), ("sleep", sleep), ("sort", sort), ("tac", tac), ("tail", tail), ("tee", tee), ("test", test),
   ("touch", touch), ("tr", tr), ("true", succeed), ("uniq", uniq), ("wc", wc), ("yes", yes)]

def builtins : List (String × Utility) :=
  [("true", succeed), ("false", fail), ("echo", echo), ("printf", printf), ("pwd", pwd), ("test", test),
   ("[", bracket)]

end Acceptance.Shell.Utility
