import Acceptance.CommandLine.Program

/-!
# Arguments

Reads a command line from left to right: the program's version or help ends the reading, as does the first argument that
cannot be used. Every option but the bindings may be used once.
-/

namespace Acceptance.CommandLine

/-- The options by their meaning. -/
inductive Switch where
  | parseOnly
  | filter
  | sandbox
  | keep
  | directory
  | shell
  | binding
  | verbose
  | help
  | version
deriving DecidableEq, Repr

namespace Switch

def all : List Switch := [parseOnly, filter, sandbox, keep, directory, shell, binding, verbose, help, version]

def long : Switch → String
  | parseOnly => "parse-only"
  | filter => "filter"
  | sandbox => "sandbox"
  | keep => "keep"
  | directory => "workdir"
  | shell => "shell"
  | binding => "env"
  | verbose => "verbose"
  | help => "help"
  | version => "version"

/-- The letter of an option, if it has one. -/
def short? : Switch → Option Char
  | filter => some 'f'
  | keep => some 'k'
  | binding => some 'e'
  | verbose => some 'v'
  | help => some 'h'
  | version => some 'V'
  | _ => none

/-- What the value of an option is called, if it has one. -/
def value? : Switch → Option String
  | filter => some "FILTER"
  | directory => some "WORKDIR"
  | shell => some "SHELL"
  | binding => some "ENV_VARS"
  | _ => none

def purpose : Switch → String
  | parseOnly => "Print the parsed scenarios instead of running them"
  | filter => "Only run scenarios whose Given description matches this regex"
  | sandbox => "Run each scenario in a fresh temporary directory"
  | keep => "Keep sandbox directories after the run (for debugging)"
  | directory => "Working directory, or the sandbox root with --sandbox [default: the spec file's directory]"
  | shell => "Shell used to run command lines [default: sh]"
  | binding => "Environment variables to set (KEY=VALUE)"
  | verbose => "Verbose output: debug logging and the execution log of passing scenarios"
  | help => "Print help"
  | version => "Print version"

def ofLong? (name : String) : Option Switch := all.find? fun s => s.long == name

def ofShort? (letter : Char) : Option Switch := all.find? fun s => s.short? == some letter

end Switch

/-- Why a command line cannot be used. -/
inductive UsageError where
  | unknown (argument : String)
  | missingValue (option : Switch)
  | unneededValue (option : Switch)
  | emptyPath
  | repeated (option : Switch)
  | unexpected (operand : String)
deriving DecidableEq, Repr

namespace UsageError

def message : UsageError → String
  | unknown argument => s!"unexpected argument '{argument}' found"
  | missingValue option => s!"a value is required for '--{option.long}' but none was supplied"
  | unneededValue option => s!"unexpected value for '--{option.long}' found; no more were expected"
  | emptyPath => "a value is required for a path but none was supplied"
  | repeated option => s!"the argument '--{option.long}' cannot be used multiple times"
  | unexpected operand => s!"unexpected argument '{operand}' found"

end UsageError

/-- What a command line asks for. -/
inductive Task where
  | run (options : Options)
  | help
  | version
deriving DecidableEq, Repr

/-- A command line that has been read in part. -/
structure Draft where
  options : Options
  /-- The options used so far. -/
  used : List Switch
  /-- Whether there was an operand. -/
  hasPath : Bool

namespace Draft

/-- A command line of which nothing has been read. -/
def empty : Draft := ⟨.default, [], false⟩

def use (d : Draft) (option : Switch) : Except UsageError Draft :=
  if option != .binding && d.used.contains option then .error (.repeated option)
  else .ok { d with used := option :: d.used }

def operand (d : Draft) (text : String) : Except UsageError Draft :=
  if d.hasPath then .error (.unexpected text)
  else if text == "" then .error .emptyPath
  else .ok { d with options := { d.options with path := text }, hasPath := true }

def setValue (d : Draft) (option : Switch) (text : String) : Except UsageError Draft := do
  let d ← d.use option
  let o := d.options
  match option with
  | .filter => return { d with options := { o with filter := some text } }
  | .directory =>
    if text == "" then throw .emptyPath
    return { d with options := { o with directory := some text } }
  | .shell => return { d with options := { o with shell := text } }
  | .binding => return { d with options := { o with bindings := o.bindings ++ [text] } }
  | other => throw (.unneededValue other)

def setFlag (d : Draft) (option : Switch) : Except UsageError Draft := do
  let d ← d.use option
  let o := d.options
  match option with
  | .parseOnly => return { d with options := { o with parseOnly := true } }
  | .sandbox => return { d with options := { o with sandbox := true } }
  | .keep => return { d with options := { o with keep := true } }
  | .verbose => return { d with options := { o with verbose := true } }
  | other => throw (.missingValue other)

end Draft

/-- How far the reading of a command line has come. -/
inductive Progress where
  | ready (draft : Draft)
  /-- The next argument is the value of an option. -/
  | waiting (draft : Draft) (option : Switch)
  | finished (task : Task)

namespace Progress

def option (d : Draft) : Switch → Except UsageError Progress
  | .help => .ok (.finished .help)
  | .version => .ok (.finished .version)
  | s => if s.value?.isSome then .ok (.waiting d s) else (d.setFlag s).map .ready

/-- Reads letters after a hyphen: options without a value, and at last one whose value may follow at once. -/
def letters (d : Draft) : List Char → Except UsageError Progress
  | [] => .ok (.ready d)
  | c :: cs =>
    match Switch.ofShort? c with
    | none => .error (.unknown (String.ofList ['-', c]))
    | some s =>
      if s.value?.isSome then
        match cs with
        | [] => .ok (.waiting d s)
        | '=' :: value => (d.setValue s (String.ofList value)).map .ready
        | value => (d.setValue s (String.ofList value)).map .ready
      else
        match option d s with
        | .ok (.ready d) => letters d cs
        | other => other

def word (d : Draft) (text : String) : Except UsageError Progress :=
  let name := String.ofList (text.toList.takeWhile (· != '='))
  match Switch.ofLong? name with
  | none => .error (.unknown ("--" ++ text))
  | some s =>
    match text.toList.dropWhile (· != '=') with
    | [] => option d s
    | _ :: value =>
      if s.value?.isSome then (d.setValue s (String.ofList value)).map .ready else .error (.unneededValue s)

def argument (d : Draft) (text : String) : Except UsageError Progress :=
  match text.toList with
  | '-' :: '-' :: cs => word d (String.ofList cs)
  | '-' :: c :: cs => letters d (c :: cs)
  | _ => (d.operand text).map .ready

def isOption (text : String) : Bool :=
  match text.toList with
  | '-' :: _ :: _ => true
  | _ => false

/-- Reads the arguments that are left. After `--` there are only operands. -/
def finish : Progress → List String → Except UsageError Task
  | .finished task, _ => .ok task
  | .ready d, [] => .ok (.run d.options)
  | .waiting _ s, [] => .error (.missingValue s)
  | .ready d, "--" :: operands => do return .run (← operands.foldlM Draft.operand d).options
  | .ready d, text :: args => do finish (← argument d text) args
  | .waiting d s, text :: args => do
    if isOption text then throw (.missingValue s)
    finish (.ready (← d.setValue s text)) args

end Progress

def Task.ofArguments (args : List String) : Except UsageError Task := Progress.finish (.ready .empty) args

def versionText : String := "gourd 0.1.0"

/-- The line of an option in the help text. -/
def helpLine (s : Switch) : String :=
  let letter := match s.short? with
    | some c => String.ofList ['-', c, ',', ' ']
    | none => "    "
  let value := match s.value? with
    | some name => " <" ++ name ++ ">"
    | none => ""
  "  " ++ letter ++ "--" ++ s.long ++ value ++ "  " ++ s.purpose

def helpLines : List String :=
  ["Run Given/When/Then spec files", "", "Usage: gourd [OPTIONS] [PATH]", "", "Arguments:",
   "  [PATH]  Spec file to run, - reads from stdin [default: -]", "", "Options:"] ++ Switch.all.map helpLine

def Outcome.misused (e : UsageError) : Outcome :=
  ⟨2, "", ofLines ["error: " ++ e.message, "", "For more information, try '--help'."]⟩

def arguments (args : List String) : Except Outcome Options :=
  match Task.ofArguments args with
  | .error e => .error (.misused e)
  | .ok .help => .error (.printed true helpLines)
  | .ok .version => .error (.printed true [versionText])
  | .ok (.run o) => .ok o

end Acceptance.CommandLine
