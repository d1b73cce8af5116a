import Acceptance.CommandLine.Arguments
import Acceptance.Pattern.Parser
import Acceptance.Shell.Host
import Acceptance.World.Scratch

/-!
# The command line

Reads the specification and standard input, answers the command line, and prints the answer. Commands run on a file
tree in memory which holds the specification and what every host has.
-/

namespace Acceptance.CommandLine

/-- A program whose commands are run by a host with an environment of its own. -/
def platform (environment : Bindings) : Platform Unit where
  arguments := arguments
  pattern := Pattern.matcher
  temporaries := World.temporaries
  shell := Shell.Host.shell environment

/-- A world with the file at a path, as far as it can be read, and started in a directory. -/
def worldWith (directory path : String) (content : Option (List UInt8)) : World Unit :=
  let start := Path.components directory
  let place := if Path.isAbsolute path then Path.components path else start ++ Path.components path
  let reached (t : FileTree) (p : Path) : FileTree :=
    match t.makeDirectories [] p with
    | .ok (t, _) => t
    | .error _ => t
  let t := reached Shell.Host.files start
  let t := match content with
    | some bytes => (reached t place.dropLast).put place (.file bytes false)
    | none => t
  ⟨t, start, "/tmp", 0, ()⟩

/-- The bytes of a file, if it can be read. -/
def contentOf (path : String) : IO (Option (List UInt8)) := do
  try return some (← IO.FS.readBinFile path).toList catch _ => return none

def respond (args : List String) : IO Outcome := do
  let directory := (← IO.currentDir).toString
  let p := platform Shell.Host.environment
  match p.arguments args with
  | .ok o =>
    let input ← if o.readsInput then contentOf "/dev/stdin" else pure none
    let content ← if o.readsInput then pure none else contentOf o.path
    return (answer p args (.ofBytes (input.getD [])) (worldWith directory o.path content)).1
  | .error out => return out

end Acceptance.CommandLine

/-- Answers the command line of the process. -/
def main (args : List String) : IO UInt32 := do
  let outcome ← Acceptance.CommandLine.respond args
  IO.print outcome.output
  IO.eprint outcome.complaint
  return outcome.status.toUInt32
