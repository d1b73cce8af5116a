import Acceptance.Fault

/-!
# Errors of a run

A command that could not be started, or not be waited for. Its text names the block and the command, as far as they
are known, before the message.
-/

namespace Acceptance

/-- What could not be done. -/
inductive RunErrorKind where
  /-- The shell could not be started. -/
  | spawn
  /-- The command could not be waited for. -/
  | wait
deriving DecidableEq, Repr

/-- What keeps a command from giving an output. -/
structure Obstacle where
  kind : RunErrorKind
  cause : Fault
deriving DecidableEq, Repr

/-- The text of an obstacle. -/
def Obstacle.message (o : Obstacle) : String :=
  match o.kind with
  | .spawn => "failed to start shell: " ++ o.cause.message
  | .wait => o.cause.message

/-- An error with the block and the command it came from. -/
structure RunError where
  kind : RunErrorKind
  message : String
  description : Option String
  command : Option String
deriving DecidableEq, Repr

namespace RunError

/-- An error of which only the message is known. -/
def ofMessage (kind : RunErrorKind) (message : String) : RunError := ⟨kind, message, none, none⟩

/-- The same error, in the block of the given description. -/
def inBlock (e : RunError) (description : String) : RunError := { e with description := some description }

/-- The same error, at the given command. -/
def atCommand (e : RunError) (command : String) : RunError := { e with command := some command }

/-- The error of a command that gave no output. -/
def ofObstacle (command : String) (o : Obstacle) : RunError := (ofMessage o.kind o.message).atCommand command

/-- A part of an error's text, with a colon after it. -/
def labelled : Option String → String
  | none => ""
  | some part => part ++ ": "

/-- The text of an error. -/
def text (e : RunError) : String := labelled e.description ++ labelled e.command ++ e.message

end RunError

end Acceptance
