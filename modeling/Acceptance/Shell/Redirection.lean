import Acceptance.Shell.State

/-!
# Opening files

How redirections open files and devices, and why they may not be able to.
-/

namespace Acceptance.Shell

namespace Exec

/-- The message for a file that cannot be opened or made. -/
def fileWords (cause : SystemFault) (making : Bool) : String :=
  if cause == .noEntry || cause == .notDirectory then
    (if making then "Directory nonexistent" else "No such file")
  else cause.words

def openDevice (d : Device) : Exec (Except String Nat) := do
  match d with
  | .descriptor n => return ((← own).descriptors.lookup n).elim (.error s!"{n}: Bad file descriptor") .ok
  | _ => return .ok (← openChannel (.device d))

/-- Opens a file to be read, and gives the channel. -/
def openToRead (name : String) : Exec (Except String Nat) := do
  let s ← get
  match s.files.locate s.own.directory name with
  | .error cause => return .error s!"cannot open {name}: {fileWords cause false}"
  | .ok (_, .file content _) => return .ok (← openChannel (.source content (some content.length)))
  | .ok (_, .device d) => openDevice d
  | .ok (_, .program program) => return .ok (← openChannel (.source (encode program) none))
  | .ok (_, .directory) => return .ok (← openChannel (.source [] none))

/-- Opens a file to be written, and gives the channel. The file is made if it is missing, and emptied unless it is to
be added to. -/
def openToWrite (name : String) (appending : Bool) : Exec (Except String Nat) := do
  let s ← get
  let refuse (cause : SystemFault) : Exec (Except String Nat) :=
    return .error s!"cannot create {name}: {fileWords cause true}"
  match s.files.resolve s.own.directory name with
  | .error cause => refuse cause
  | .ok p =>
    match s.files.find? p with
    | some .directory => refuse .isDirectory
    | some (.device d) => openDevice d
    | some (.program _) => refuse .accessDenied
    | some (.file content executable) =>
      if !appending && s.own.options.contains 'C' then return .error s!"cannot create {name}: File exists"
      if !appending then modify fun s => { s with files := s.files.put p (.file [] executable) }
      return .ok (← openChannel (.file p (if appending then content.length else 0) appending))
    | none =>
      if !s.files.isDirectory p.dropLast then refuse .noEntry
      else
        modify fun s => { s with files := s.files.put p (.file [] false) }
        return .ok (← openChannel (.file p 0 appending))

def lead (descriptor : Nat) (n : Nat) : Exec Unit :=
  change fun o => { o with descriptors := (descriptor, n) :: o.descriptors.filter (·.1 != descriptor) }

end Exec

end Acceptance.Shell
