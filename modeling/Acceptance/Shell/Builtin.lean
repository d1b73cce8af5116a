import Acceptance.Shell.Signal
import Acceptance.Shell.Utility.Table
import Acceptance.Shell.Variables

/-!
# Commands of the shell

The commands that a shell runs itself because they change or show its state, and that run no other command. Those that
are special keep the assignments before them, and end the shell when they fail.
-/

namespace Acceptance.Shell

namespace Exec

/-- The number that a command is given, if it is given one. -/
def number? (name : String) (args : List String) : Exec (Option Nat) := do
  match args.head? with
  | none => return none
  | some text =>
    match text.toNat? with
    | some n => return some n
    | none => failWith s!"{name}: Illegal number: {text}"

/-- Leaves loops, as many as there are at most. -/
def breakLoops (args : List String) : Exec Nat := do
  let count := (← number? "break" args).getD 1
  let o ← own
  if o.loops == 0 then return 0
  throw (.leave (min count o.loops - 1))

/-- Goes on with the next round of a loop. -/
def continueLoop (args : List String) : Exec Nat := do
  let count := (← number? "continue" args).getD 1
  let o ← own
  if o.loops == 0 then return 0
  throw (.again (min count o.loops - 1))

def exit (args : List String) : Exec Nat := do
  let status ← number? "exit" args
  throw (.exit (status.getD (← own).status % 256))

def returnStatus (args : List String) : Exec Nat := do
  let status ← number? "return" args
  throw (.fromFunction (status.getD (← own).status))

def shift (args : List String) : Exec Nat := do
  let count := (← number? "shift" args).getD 1
  if (← own).arguments.length < count then failWith "shift: can't shift that many"
  change fun o => { o with arguments := o.arguments.drop count }
  return 0

def cd (args : List String) : Exec Nat := do
  match args with
  | [] => changeDirectory ((← valueOf? "HOME").getD "/") false
  | ["-"] => changeDirectory ((← valueOf? "OLDPWD").getD ".") true
  | text :: _ => changeDirectory text false

/-- Lets other programs inherit variables, or shows those that do. -/
def exportVariables (args : List String) : Exec Nat := do
  if args.isEmpty || args == ["-p"] then
    for (n, value) in byName (← exported) do write 1 (encode s!"export {n}={quotedValue value}\n")
    return 0
  mark (fun v => { v with exported := true }) args

/-- Makes variables read only, or shows those that are. -/
def fixVariables (args : List String) : Exec Nat := do
  if args.isEmpty || args == ["-p"] then
    for (n, v) in byName (← own).bindings do
      if v.fixed then write 1 (encode s!"readonly {n}={quotedValue v.value}\n")
    return 0
  mark (fun v => { v with fixed := true }) args

def hideVariables (args : List String) : Exec Nat := do
  if (← own).hidden.isEmpty then failWith "local: not in a function"
  for arg in args do
    let (n, value) := binding arg
    if !isName n then failWith s!"local: {arg}: bad variable name"
    change fun o =>
      match o.hidden with
      | top :: others =>
        if top.any (·.1 == n) then o else { o with hidden := ((n, o.bindings.lookup n) :: top) :: others }
      | [] => o
    match value with
    | some v => assign n v
    | none => pure ()
  return 0

def set (args : List String) : Exec Nat := do
  if args.isEmpty then
    for (n, v) in byName (← own).bindings do write 1 (encode s!"{n}={quotedValue v.value}\n")
    return 0
  match ← setOptions args with
  | some arguments => change fun o => { o with arguments }
  | none => pure ()
  return 0

def forget (args : List String) : Exec Nat := do
  let functions := args.contains "-f"
  for n in args.filter fun a => a.toList.head? != some '-' do
    if functions then change fun o => { o with functions := o.functions.filter (·.1 != n) }
    else
      if !isName n then failWith s!"unset: {n}: bad variable name"
      if ((← own).bindings.lookup n).any (·.fixed) then failWith s!"unset: {n}: is read only"
      change fun o => { o with bindings := o.bindings.filter (·.1 != n) }
  return 0

/-- Keeps commands for signals, drops them, or shows them. -/
def trap (args : List String) : Exec Nat := do
  match args with
  | [] =>
    for (n, text) in (← own).traps.mergeSort fun a b => a.1 ≤ b.1 do
      write 1 (encode s!"trap -- {quotedValue text} {trapName n}\n")
    return 0
  | [text] =>
    match trapNumber? text with
    | some n => change fun o => { o with traps := o.traps.filter (·.1 != n) }
    | none => pure ()
    return 0
  | text :: names =>
    let reset := text == "-" || text.toNat?.isSome
    for n in if text.toNat?.isSome then args else names do
      match trapNumber? n with
      | none =>
        write 2 (encode s!"trap: {n}: bad trap\n")
        return 1
      | some number =>
        change fun o =>
          { o with traps := if reset then o.traps.filter (·.1 != number) else setEntry number text o.traps }
    return 0

/-- Waits for processes in the background, which have all ended. -/
def wait (args : List String) : Exec Nat := do
  let o ← own
  let mut status := 0
  for text in args do
    match text.toNat?.bind fun n => o.jobs.lookup n with
    | none => status := 127
    | some n =>
      status := n
      if n > 128 && signalWords (n - 128) != "" then write 2 (encode (signalWords (n - 128) ++ "\n"))
  return status

def hash (args : List String) : Exec Nat := do
  let mut status := 0
  for n in args.filter (·.toList.head? != some '-') do
    match ← lookFor n with
    | .entry .. => pure ()
    | _ =>
      complain s!"hash: {n}: not found"
      status := 1
  return status

def answer (text : String) : Exec Nat := do
  write 1 (encode text)
  return 0

/-- The commands that change or show the state of the shell. -/
def stateCommands : List (String × (List String → Exec Nat)) :=
  [(":", fun _ => return 0), ("alias", fun _ => return 0), ("break", breakLoops), ("cd", cd),
   ("chdir", fun args => changeDirectory (args.head?.getD "/") false), ("continue", continueLoop), ("exit", exit),
   ("export", exportVariables), ("getopts", fun _ => return 0), ("hash", hash), ("jobs", fun _ => return 0),
   ("kill", kill), ("local", hideVariables), ("read", readLine), ("readonly", fixVariables), ("return", returnStatus),
   ("set", set), ("shift", shift), ("times", fun _ => answer "0m0.000000s 0m0.000000s\n0m0.000000s 0m0.000000s\n"),
   ("trap", trap), ("ulimit", fun _ => answer "unlimited\n"),
   ("umask", fun args => if args.isEmpty then answer "0022\n" else return 0), ("unalias", fun _ => return 0),
   ("unset", forget), ("wait", wait)]

/-- The names of the commands that run other commands, or tell what a name stands for. -/
def runningCommands : List String := [".", "command", "eval", "exec", "type"]

/-- Whether a name stands for a command that the shell runs itself. -/
def isOwnCommand (name : String) : Bool :=
  runningCommands.contains name || stateCommands.any (·.1 == name) || Utility.builtins.any (·.1 == name)

/-- The commands whose assignments stay, and whose failures end the shell. -/
def specialCommands : List String :=
  [":", ".", "break", "continue", "eval", "exec", "exit", "export", "readonly", "return", "set", "shift", "times",
   "trap", "unset"]

def describe (names : List String) : Exec Nat := do
  let o ← own
  let mut status := 0
  for n in names do
    if Read.reserved.contains n then write 1 (encode s!"{n} is a shell keyword\n")
    else if o.functions.any (·.1 == n) then write 1 (encode s!"{n} is a shell function\n")
    else if specialCommands.contains n then write 1 (encode s!"{n} is a special shell builtin\n")
    else if isOwnCommand n then write 1 (encode s!"{n} is a shell builtin\n")
    else match ← lookFor n with
      | .entry p _ => write 1 (encode s!"{n} is {p.text}\n")
      | _ =>
        write 1 (encode s!"{n}: not found\n")
        status := 127
  return status

/-- Tells where names lead: to themselves, or to programs. -/
def pointOut (names : List String) : Exec Nat := do
  let o ← own
  let mut status := 0
  for n in names do
    if o.functions.any (·.1 == n) || isOwnCommand n then write 1 (encode (n ++ "\n"))
    else match ← lookFor n with
      | .entry p _ => write 1 (encode (p.text ++ "\n"))
      | _ => status := 127
  return status

/-- The commands of the shell that run no other command. -/
def ordinary? (name : String) (args : List String) : Option (Exec Nat) :=
  match Utility.builtins.lookup name, stateCommands.lookup name with
  | some u, _ => some do
    let o ← own
    utility s!"{o.name}: {o.line}: {name}" u args
  | none, some command => some (command args)
  | none, none => if name == "type" then some (describe args) else none

end Exec

end Acceptance.Shell
