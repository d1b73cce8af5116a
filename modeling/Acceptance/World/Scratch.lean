import Acceptance.Text.Quoted
import Acceptance.World.Temporaries

/-!
# Temporary directories in a file tree

Temporary directories for runs in memory: they stand in the file tree of the world, and each gets the first name that is
not taken.
-/

namespace Acceptance

variable {κ : Type}

namespace World

/-- A fault at a path. -/
def faultAt (path : String) (cause : SystemFault) : Fault :=
  .reported cause.kind ((Fault.system cause).message ++ " at path " ++ quote path)

/-- Makes a directory that was not there before, whose name begins as asked for, in the file tree, and gives its path.
The directory that it is to stand in must be there. -/
def makeTemporary (beginning : String) (place : Option String) (w : World κ) : Except Fault String × World κ :=
  let full := Path.join w.directory.text (place.getD w.temporary)
  match w.files.locate w.directory full with
  | .ok (p, .directory) =>
    let name := w.files.freshName p beginning
    if FileTree.longestName < name.utf8ByteSize then (.error (faultAt (Path.join full name) .nameTooLong), w)
    else (.ok (Path.join full name), { w with files := w.files.put (p ++ [name]) .directory })
  | .ok _ => (.error (faultAt (Path.join full beginning) .notDirectory), w)
  | .error cause => (.error (faultAt (Path.join full beginning) cause), w)

/-- Removes a directory and all below it. -/
def removeTemporary (text : String) (w : World κ) : World κ :=
  match w.files.locate w.directory text with
  | .ok (p, .directory) => { w with files := w.files.removeBelow p }
  | _ => w

/-- Temporary directories in the file tree of a world. -/
def temporaries : Temporaries κ := ⟨makeTemporary, removeTemporary⟩

end World

end Acceptance
