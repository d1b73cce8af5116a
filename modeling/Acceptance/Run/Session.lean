import Acceptance.Evaluation.Context
import Acceptance.Run.Error
import Acceptance.World.Basic

/-!
# Sessions

A session evaluates expressions by handing their commands to a shell, one at a time, in one directory and with
bindings of its own on top of the inherited environment. It keeps a log, which grows by whole lines, and a history of
what happened. A block stops at the first command that does not succeed; chains stop at the child that decides.

The shell is a parameter: a function from the request and the world to an output, or the obstacle if no shell could
be started or the command could not be waited for, and the world after it.
-/

namespace Acceptance

/-- Bindings of names to values, each name bound once. -/
abbrev Bindings := List (String × String)

namespace Bindings

/-- Binds a name, in the place of its former binding if there is one. -/
def bind (key value : String) : Bindings → Bindings
  | [] => [(key, value)]
  | b :: bs => if b.1 = key then (key, value) :: bs else b :: bind key value bs

/-- The value of a name. -/
def value? (bindings : Bindings) (key : String) : Option String := bindings.lookup key

end Bindings

/-- What a session asks of the shell. -/
structure Request where
  shell : String
  command : String
  directory : String
  environment : Bindings
deriving DecidableEq, Repr

/-- How a command ended. -/
inductive Ending where
  | exited (code : Nat)
  | signalled
deriving DecidableEq, Repr

/-- What a command wrote, and how it ended. -/
structure Output where
  stdout : List UInt8
  stderr : List UInt8
  ending : Ending
deriving DecidableEq, Repr

namespace Output

def succeeded (o : Output) : Bool := o.ending == .exited 0

end Output

/-- What starts commands. -/
abbrev Shell (κ : Type) := Request → World κ → Except Obstacle Output × World κ

/-- What happened in a session. -/
inductive Happening where
  | entered (description : String)
  | ran (command : String) (output : Output)
  /-- A command gave no output. -/
  | refused (command : String) (cause : Obstacle)
deriving DecidableEq, Repr

namespace Happening

/-- The command that was attempted, if one was. -/
def attempted? : Happening → Option String
  | entered _ => none
  | ran command _ => some command
  | refused command _ => some command

end Happening

/-- The state of an evaluation by a shell. -/
structure Session where
  /-- The directory every command runs in. -/
  directory : String
  shell : String
  environment : Bindings
  log : String
  history : List Happening
deriving DecidableEq, Repr

namespace Session

/-- The shell that runs commands when no other is asked for. -/
def defaultShell : String := "sh"

/-- The name that is bound to the directory of a session. -/
def workVariable : String := "GOURD_WORK"

/-- A new session in a directory. -/
def inDirectory (directory : String) : Session :=
  ⟨directory, defaultShell, Bindings.bind workVariable directory [], "", []⟩

/-- Binds a name for the commands that follow. -/
def setVariable (key value : String) (s : Session) : Session :=
  { s with environment := s.environment.bind key value }

def setVariables (bindings : List (String × String)) (s : Session) : Session :=
  bindings.foldl (fun s b => s.setVariable b.1 b.2) s

/-- A text that ends in a newline, added if it is missing. -/
def terminated (text : String) : String :=
  if text.toList.getLast? = some '\n' then text else text ++ "\n"

/-- Adds an entry to the log. -/
def write (text : String) (s : Session) : Session := { s with log := s.log ++ terminated text }

/-- Adds an entry to the log under a heading, unless there is nothing to say. -/
def writeSection (heading : String) (bytes : List UInt8) (s : Session) : Session :=
  if decode bytes = "" then s else s.write (heading ++ "\n" ++ decode bytes)

/-- Adds what a command wrote and how it failed to the log. -/
def writeOutput (output : Output) (s : Session) : Session :=
  let s := (s.writeSection "[stdout]" output.stdout).writeSection "[stderr]" output.stderr
  match output.ending with
  | .exited 0 => s
  | .exited code => s.write s!"[exit code {code}]"
  | .signalled => s.write "[killed by signal]"

/-- Adds a happening to the history. -/
def record (h : Happening) (s : Session) : Session := { s with history := s.history ++ [h] }

def enter (description : String) (s : Session) : Session :=
  (if description = "" then s else s.write ("# " ++ description)).record (.entered description)

/-- What a session asks of the shell for a command. -/
def request (s : Session) (command : String) : Request := ⟨s.shell, command, s.directory, s.environment⟩

variable {κ : Type}

/-- Runs one command; true if it succeeds. -/
def attempt (shell : Shell κ) (command : String) : Evaluation (Session × World κ) Obstacle := fun (s, w) =>
  let s := s.write ("> " ++ command)
  match shell (s.request command) w with
  | (.ok output, w) => (.ok output.succeeded, (s.writeOutput output).record (.ran command output), w)
  | (.error cause, w) => (.error cause, s.record (.refused command cause), w)

/-- Runs commands up to the first that does not succeed. -/
def runCommands (shell : Shell κ) (description : String) :
    List String → Evaluation (Session × World κ) RunError
  | [], s => (.ok true, s)
  | command :: commands, s =>
    match attempt shell command s with
    | (.ok true, s) => runCommands shell description commands s
    | (.ok false, s) => (.ok false, s)
    | (.error cause, s) => (.error ((RunError.ofObstacle command cause).inBlock description), s)

/-- Runs the commands of a block. -/
def runBlock (shell : Shell κ) (description : String) (commands : List String) :
    Evaluation (Session × World κ) RunError :=
  fun (s, w) => runCommands shell description commands (s.enter description, w)

/-- The context in which blocks are run by a shell. -/
def context (shell : Shell κ) : Context (Session × World κ) RunError where
  run := runBlock shell
  all := Evaluation.allOf
  any := Evaluation.anyOf

end Session

end Acceptance
