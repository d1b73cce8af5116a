/-!
# Input and output faults

Why reading, writing or starting a program can fail. A fault is a cause; its kind and its text are functions of it.
-/

namespace Acceptance

/-- The kinds of faults. -/
inductive FaultKind where
  | notFound
  | permissionDenied
  | connectionReset
  | brokenPipe
  | alreadyExists
  | notADirectory
  | isADirectory
  | directoryNotEmpty
  | wouldBlock
  | invalidInput
  | invalidData
  | invalidFilename
  | timedOut
  | interrupted
  | unexpectedEof
  | other
  | uncategorized
deriving DecidableEq, Repr

/-- The faults the operating system reports by a number. -/
inductive SystemFault where
  | notPermitted
  | noEntry
  | badExecutable
  | accessDenied
  | alreadyThere
  | notDirectory
  | isDirectory
  | invalidArgument
  | nameTooLong
  | notEmpty
  | tooManyLinks
deriving DecidableEq, Repr

namespace SystemFault

/-- The number of a fault. -/
def number : SystemFault → Nat
  | notPermitted => 1
  | noEntry => 2
  | badExecutable => 8
  | accessDenied => 13
  | alreadyThere => 17
  | notDirectory => 20
  | isDirectory => 21
  | invalidArgument => 22
  | nameTooLong => 36
  | notEmpty => 39
  | tooManyLinks => 40

/-- The system's words for a fault. -/
def words : SystemFault → String
  | notPermitted => "Operation not permitted"
  | noEntry => "No such file or directory"
  | badExecutable => "Exec format error"
  | accessDenied => "Permission denied"
  | alreadyThere => "File exists"
  | notDirectory => "Not a directory"
  | isDirectory => "Is a directory"
  | invalidArgument => "Invalid argument"
  | nameTooLong => "File name too long"
  | notEmpty => "Directory not empty"
  | tooManyLinks => "Too many levels of symbolic links"

/-- The kind of a fault. -/
def kind : SystemFault → FaultKind
  | notPermitted => .permissionDenied
  | noEntry => .notFound
  | badExecutable => .uncategorized
  | accessDenied => .permissionDenied
  | alreadyThere => .alreadyExists
  | notDirectory => .notADirectory
  | isDirectory => .isADirectory
  | invalidArgument => .invalidInput
  | nameTooLong => .invalidFilename
  | notEmpty => .directoryNotEmpty
  | tooManyLinks => .uncategorized

end SystemFault

/-- Why an input or output operation failed. -/
inductive Fault where
  /-- A device reported a fault of its own. -/
  | reported (kind : FaultKind) (text : String)
  /-- The operating system refused. -/
  | system (cause : SystemFault)
  /-- A path holds a NUL character. -/
  | nulInPath
  /-- A word handed to a program holds a NUL character. -/
  | nulInArgument
deriving DecidableEq, Repr

namespace Fault

/-- The kind of a fault. -/
def kind : Fault → FaultKind
  | reported k _ => k
  | system cause => cause.kind
  | nulInPath => .invalidInput
  | nulInArgument => .invalidInput

/-- The text of a fault. -/
def message : Fault → String
  | reported _ text => text
  | system cause => s!"{cause.words} (os error {cause.number})"
  | nulInPath => "file name contained an unexpected NUL byte"
  | nulInArgument => "nul byte found in provided data"

end Fault

end Acceptance
