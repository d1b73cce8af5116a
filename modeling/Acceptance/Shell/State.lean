import Acceptance.Shell.Parser
import Acceptance.Shell.Process

/-!
# The state of a shell

What belongs to one shell process, such as its variables and descriptors, and what all processes share: the file tree
and the channels that descriptors lead to. A subshell works on a copy of the former and on the latter itself.
-/

namespace Acceptance.Shell

/-- Where bytes come from or go to. -/
inductive Channel where
  /-- Bytes still to be read, and how many there were at first if they are those of a file. -/
  | source (left : List UInt8) (size : Option Nat)
  | device (d : Device)
  /-- Bytes written so far, the last piece first. -/
  | collector (pieces : List (List UInt8))
  /-- A file that is written at an offset, or always at its end. -/
  | file (path : Path) (offset : Nat) (appending : Bool)

namespace Channel

def available : Channel → List UInt8
  | source left _ => left
  | device .zero => List.replicate Process.plenty 0
  | _ => []

def fileSize? : Channel → Option Nat
  | source _ size => size
  | _ => none

def collected : Channel → List UInt8
  | collector pieces => pieces.reverse.flatten
  | _ => []

end Channel

/-- A variable of a shell. -/
structure Variable where
  value : String
  exported : Bool
  fixed : Bool

/-- What belongs to one shell process. -/
structure Own where
  /-- The name the shell goes by in its messages. -/
  name : String
  process : Nat
  directory : Path
  bindings : List (String × Variable)
  functions : List (String × Command)
  arguments : List String
  /-- Channels by descriptors. -/
  descriptors : List (Nat × Nat)
  options : List Char
  status : Nat
  line : Nat
  documents : List (Nat × Word)
  /-- Commands to be run at signals, and at the end, which has the number 0. -/
  traps : List (Nat × String)
  /-- Signals that have arrived and wait for their commands to be run. -/
  pending : List Nat
  /-- In a subshell, the commands for signals of the shell it belongs to. -/
  outerTraps : Option (List (Nat × String))
  /-- Whether a failure has no consequences here. -/
  tested : Bool
  /-- The variables hidden by each function that is being run. -/
  hidden : List (List (String × Option Variable))
  lastBackground : Nat
  /-- The processes in the background, and how they ended. -/
  jobs : List (Nat × Nat)
  /-- How many loops surround the command that is being run. -/
  loops : Nat

/-- The state of all processes. -/
structure State where
  own : Own
  files : FileTree
  channels : Array Channel
  /-- The last process number given. -/
  processes : Nat
  /-- Signals that have arrived in a subshell and are meant for the shell it belongs to. -/
  arrived : List Nat

/-- Why a command does not simply end. -/
inductive Stop where
  | exit (status : Nat)
  /-- Leaves so many loops. -/
  | leave (loops : Nat)
  /-- Goes on with the next round of a loop. -/
  | again (loops : Nat)
  | fromFunction (status : Nat)
  | killed (process signal : Nat)

abbrev Exec := ExceptT Stop (StateM State)

namespace Exec

def change (f : Own → Own) : Exec Unit := modify fun s => { s with own := f s.own }

def own : Exec Own := return (← get).own

def openChannel (c : Channel) : Exec Nat :=
  modifyGet fun s => (s.channels.size, { s with channels := s.channels.push c })

def channel? (descriptor : Nat) : Exec (Option (Nat × Channel)) := do
  let s ← get
  return (s.own.descriptors.lookup descriptor).bind fun n => s.channels[n]?.map fun c => (n, c)

def splice (content bytes : List UInt8) (offset : Nat) : List UInt8 :=
  content.take offset ++ List.replicate (offset - content.length) 0 ++ bytes ++ content.drop (offset + bytes.length)

def write (descriptor : Nat) (bytes : List UInt8) : Exec Unit := do
  if bytes.isEmpty then return
  match ← channel? descriptor with
  | some (n, .collector pieces) =>
    modify fun s => { s with channels := s.channels.setIfInBounds n (.collector (bytes :: pieces)) }
  | some (n, .file path offset appending) =>
    modify fun s =>
      match s.files.find? path with
      | some (.file content executable) =>
        let offset := if appending then content.length else offset
        { s with
          files := s.files.put path (.file (splice content bytes offset) executable),
          channels := s.channels.setIfInBounds n (.file path (offset + bytes.length) appending) }
      | _ => s
  | _ => return

/-- Writes a line about an error, with the shell's name and the line of the program. -/
def complain (text : String) : Exec Unit := do
  let o ← own
  write 2 (encode s!"{o.name}: {o.line}: {text}\n")

def setStatus (status : Nat) : Exec Nat := do
  change fun o => { o with status }
  return status

def failWith (text : String) : Exec α := do
  complain text
  throw (.exit 2)

def valueOf? (name : String) : Exec (Option String) := return ((← own).bindings.lookup name).map (·.value)

def setEntry [BEq κ] (key : κ) (value : α) : List (κ × α) → List (κ × α)
  | [] => [(key, value)]
  | e :: es => if e.1 == key then (key, value) :: es else e :: setEntry key value es

def assign (name value : String) : Exec Unit := do
  match (← own).bindings.lookup name with
  | some v =>
    if v.fixed then failWith s!"{name}: is read only"
    change fun o => { o with bindings := setEntry name { v with value } o.bindings }
  | none =>
    let exported := (← own).options.contains 'a'
    change fun o => { o with bindings := setEntry name ⟨value, exported, false⟩ o.bindings }

def exported : Exec (List (String × String)) :=
  return (← own).bindings.filterMap fun (name, v) => if v.exported then some (name, v.value) else none

/-- Runs an action on a copy of what belongs to the shell. -/
def apart (action : Exec Nat) : Exec Nat := do
  let saved ← own
  let result ← tryCatch action fun stop =>
    match stop with
    | .exit status => pure status
    | .fromFunction status => pure status
    | .leave _ => pure 0
    | .again _ => pure 0
    | .killed process signal => throw (.killed process signal)
  change fun _ => saved
  return result

/-- Runs an action where a failure has no consequences. -/
def asTest (action : Exec Nat) : Exec Nat := do
  let before := (← own).tested
  change fun o => { o with tested := true }
  let status ← action
  change fun o => { o with tested := before }
  return status

/-- Ends the shell after a failure, if that is asked for. -/
def checkFailure (status : Nat) : Exec Nat := do
  let o ← own
  if status != 0 && !o.tested && o.options.contains 'e' then throw (.exit status)
  return status

def utility (name : String) (u : Utility) (args : List String) : Exec Nat := do
  let s ← get
  let input ← channel? 0
  let environment ← exported
  let available := input.elim [] fun (_, c) => c.available
  let size := input.bind fun (_, c) => c.fileSize?
  let (status, p) := (u args).run ⟨name, s.files, s.own.directory, environment, available, size, []⟩
  modify fun s => { s with files := p.files }
  match input with
  | some (n, .source _ size) =>
    modify fun s => { s with channels := s.channels.setIfInBounds n (.source p.input size) }
  | _ => pure ()
  for (outlet, bytes) in p.written do
    write (if outlet == .output then 1 else 2) bytes
  return status

end Exec

end Acceptance.Shell
