import Acceptance.Run.Session
import Acceptance.Shell.Interpreter

/-!
# A host to run commands on

The file tree that every host begins with, in which the utilities stand as programs, the bindings that processes
inherit, and the shell that answers the requests of a session. A request is refused if it cannot be put into words that
a process can be handed, if its directory is missing, or if there is no such program.
-/

namespace Acceptance.Shell.Host

def programs : List (String × String) :=
  [("sh", "sh"), ("dash", "sh"), ("bash", "sh"), ("env", "env"), ("which", "which"), ("xargs", "xargs")] ++
    Utility.programs.map fun (name, _) => (name, name)

def directories : List Path :=
  [["bin"], ["dev"], ["etc"], ["home"], ["root"], ["tmp"], ["usr"], ["usr", "bin"], ["usr", "local"], ["var"],
   ["var", "tmp"]]

def devices : List (String × Device) :=
  [("null", .null), ("zero", .zero), ("stdin", .descriptor 0), ("stdout", .descriptor 1), ("stderr", .descriptor 2)]

def files : FileTree where
  entries :=
    directories.map (fun p => (p, .directory)) ++ devices.map (fun (name, d) => (["dev", name], .device d)) ++
      programs.flatMap fun (name, p) => [(["bin", name], .program p), (["usr", "bin", name], .program p)]

def environment : Bindings := [("PATH", Exec.defaultSearchPath), ("HOME", "/root")]

/-- The name of the variable that holds the search path. -/
def searchPathName : String := "PATH"

/-- Why a program cannot be started, if it cannot. A file must name a program that interprets it, except when it was
found along a search path of the request. -/
def refusal? (t : FileTree) (directory : Path) (searched : Bool) : Entry → Option SystemFault
  | .program _ => none
  | .file content _ =>
    match Exec.interpreter? content with
    | none => if searched then none else some .badExecutable
    | some (name, _) =>
      match t.locate directory name with
      | .error cause => some cause
      | .ok (_, e) => if Exec.isRunnable e then none else some .accessDenied
  | _ => some .accessDenied

def find (t : FileTree) (directory : Path) (bindings : Bindings) (r : Request) :
    Except SystemFault (Path × Entry) := do
  if FileTree.longestName < r.shell.utf8ByteSize && !r.shell.toList.contains '/' then throw .nameTooLong
  if r.shell == "" then throw .noEntry
  if r.shell.toList.contains '/' then
    let _ ← t.locate directory r.shell
  let searchPath := (bindings.value? searchPathName).getD Exec.defaultSearchPath
  match Exec.findProgram t directory searchPath r.shell with
  | .missing => throw .noEntry
  | .forbidden => throw .accessDenied
  | .entry p e =>
    let searched := !r.shell.toList.contains '/' && (r.environment.value? searchPathName).isSome
    match refusal? t directory searched e with
    | some cause => throw cause
    | none => return (p, e)

/-- Whether a request cannot be handed to a process because it holds a NUL character. -/
def holdsNul (r : Request) : Bool :=
  World.holdsNul r.shell || World.holdsNul r.command || World.holdsNul r.directory ||
    r.environment.any fun b => World.holdsNul b.1 || World.holdsNul b.2

/-- The state in which the first process of a request is started. -/
def initial (t : FileTree) (directory : Path) (bindings : Bindings) : State where
  own :=
    { name := "", process := 0, directory,
      bindings := bindings.map fun b =>
        let (name, value) := Exec.binding (b.1 ++ "=" ++ b.2)
        (name, ⟨value.getD "", true, false⟩)
      functions := [], arguments := [], descriptors := [(0, 0), (1, 1), (2, 2)], options := [], status := 0, line := 1,
      documents := [], traps := [], pending := [], outerTraps := none, tested := false, hidden := [],
      lastBackground := 0, jobs := [], loops := 0 }
  files := t
  channels := #[.device .null, .collector [], .collector []]
  processes := 1000
  arrived := []

/-- How deep commands may be nested, and how often loops may be repeated. -/
def patience : Nat := 1000000

/-- Runs the program of a request to its end. -/
def execute (s : State) (program : Path × Entry) (r : Request) : Output × FileTree :=
  let (outcome, s) := ExceptT.run (Exec.start patience program.1 program.2 r.shell ["-c", r.command]) s
  let collected (n : Nat) : List UInt8 := (s.channels[n]?).elim [] Channel.collected
  let ending : Ending := match outcome with
    | .ok status => .exited (status % 256)
    | .error (.exit status) => .exited (status % 256)
    | .error (.killed _ _) => .signalled
    | .error _ => .exited 0
  (⟨collected 1, collected 2, ending⟩, s.files)

/-- The shell of a host whose processes inherit the given bindings. -/
def shell (inherited : Bindings) : Shell κ := fun r w =>
  if holdsNul r then (.error ⟨.spawn, .nulInArgument⟩, w)
  else
    let bindings := r.environment.foldl (fun bs b => bs.bind b.1 b.2) inherited
    let started : Except SystemFault (Output × FileTree) := do
      match ← w.files.locate w.directory r.directory with
      | (p, .directory) =>
        let program ← find w.files p bindings r
        return execute (initial w.files p bindings) program r
      | _ => throw .notDirectory
    match started with
    | .ok (output, files) => (.ok output, { w with files })
    | .error cause => (.error ⟨.spawn, .system cause⟩, w)

end Acceptance.Shell.Host
