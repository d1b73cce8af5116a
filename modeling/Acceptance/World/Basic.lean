import Acceptance.Line.Reader
import Acceptance.World.FileTree

/-!
# Worlds

What a run finds and leaves behind: a file tree, the directory the program was started in, the directory for
temporary files, a clock, and whatever else commands may depend on, of which nothing is assumed.
-/

namespace Acceptance

/-- The state of everything outside the program. -/
structure World (κ : Type) where
  files : FileTree
  /-- The directory the program was started in. -/
  directory : Path
  /-- The directory for temporary files, as text. -/
  temporary : String
  /-- Nanoseconds since some moment. -/
  clock : Nat
  /-- Everything else. -/
  rest : κ

namespace World

/-- Whether a text holds a NUL character. -/
def holdsNul (text : String) : Bool := text.toList.any (· == '\x00')

/-- Hands over the file at a path. A directory can be opened, but not read. -/
def openFile (w : World κ) (text : String) : Except Fault (List Delivery) :=
  if holdsNul text then .error .nulInPath
  else
    match w.files.locate w.directory text with
    | .error cause => .error (.system cause)
    | .ok (_, .directory) => .ok [.fault (.system .isDirectory)]
    | .ok (_, .file content _) => .ok [.data content]
    | .ok (_, .program name) => .ok [.data (encode name)]
    | .ok (_, .device _) => .ok []

/-- Makes the directories of a path that are missing. The empty path is the directory the program was started in. -/
def makeRoot (w : World κ) (text : String) : Except Fault (World κ × Path) :=
  if holdsNul text then .error .nulInPath
  else
    match w.files.makeDirectories (if Path.isAbsolute text then [] else w.directory) (Path.components text) with
    | .ok (files, p) => .ok ({ w with files }, p)
    | .error cause => .error (.system cause)

end World

end Acceptance
