import Acceptance.Shell.State

/-!
# Signals

Signals by number and name, what they do to the process they are sent to, and the command that sends them. A signal
for which a command is kept waits until that command can be run; any other signal ends the process, unless it is
harmless.
-/

namespace Acceptance.Shell

namespace Exec

def signals : List (String × Nat) :=
  [("HUP", 1), ("INT", 2), ("QUIT", 3), ("ILL", 4), ("TRAP", 5), ("ABRT", 6), ("BUS", 7), ("FPE", 8), ("KILL", 9),
   ("USR1", 10), ("SEGV", 11), ("USR2", 12), ("PIPE", 13), ("ALRM", 14), ("TERM", 15), ("CHLD", 17), ("CONT", 18),
   ("STOP", 19), ("TSTP", 20), ("TTIN", 21), ("TTOU", 22), ("URG", 23), ("WINCH", 28)]

def harmless : List Nat := [0, 17, 18, 19, 20, 21, 22, 23, 28]

def greatestSignal : Nat := 64

/-- The number of a signal given by name or number. -/
def signalNumber? (text : String) : Option Nat :=
  match text.toNat? with
  | some n => if n ≤ greatestSignal then some n else none
  | none => signals.lookup text.toUpper

/-- The number for which a command is kept, which is 0 for the end. -/
def trapNumber? (text : String) : Option Nat := if text == "EXIT" then some 0 else signalNumber? text

/-- The name of a signal, or of the end. -/
def trapName (number : Nat) : String :=
  if number == 0 then "EXIT" else ((signals.find? (·.2 == number)).map (·.1)).getD (toString number)

/-- The words of a shell for a process that was ended by a signal. -/
def signalWords : Nat → String
  | 1 => "Hangup"
  | 3 => "Quit"
  | 4 => "Illegal instruction"
  | 6 => "Aborted"
  | 8 => "Floating point exception"
  | 9 => "Killed"
  | 11 => "Segmentation fault"
  | 14 => "Alarm clock"
  | 15 => "Terminated"
  | _ => ""

def signal (number : Nat) (target : String) : Exec Nat := do
  let o ← own
  match target.toInt? with
  | none =>
    complain s!"kill: Illegal number: {target}"
    return 2
  | some n =>
    if n == o.process then
      match (o.outerTraps.getD o.traps).lookup number, [9, 19].contains number with
      | some text, false =>
        if text != "" then change fun o => { o with pending := o.pending ++ [number] }
        return 0
      | _, _ =>
        if harmless.contains number then return 0
        throw (.killed o.process number)
    else if o.jobs.any fun (process, _) => n == process then
      if !harmless.contains number then change fun o => { o with jobs := setEntry n.toNat (128 + number) o.jobs }
      return 0
    else
      complain "kill: No such process\n"
      return 1

/-- Sends a signal to processes, up to the first that is not given by a number. -/
def signalAll (number : Nat) : List String → Exec Nat
  | [] => return 0
  | target :: targets => do
    let status ← signal number target
    if status == 2 then return 2
    return max status (← signalAll number targets)

def killUsage : Exec Nat := do
  complain "kill: Usage: kill [-s sigspec | -signum | -sigspec] [pid | job]... or\nkill -l [exitstatus]"
  return 2

def kill (args : List String) : Exec Nat := do
  match args with
  | [] => killUsage
  | "-l" :: names =>
    match names with
    | [] =>
      for n in List.range 32 do write 1 (encode (trapName n ++ "\n"))
      return 0
    | text :: _ =>
      match text.toNat? with
      | some n =>
        write 1 (encode (trapName (if n > 128 then n - 128 else n) ++ "\n"))
        return 0
      | none =>
        complain s!"kill: Illegal number: {text}"
        return 2
  | "-s" :: name :: targets =>
    match signalNumber? name, targets with
    | none, _ =>
      complain s!"kill: invalid signal number or name: {name}"
      return 2
    | some _, [] => killUsage
    | some n, _ => signalAll n targets
  | "--" :: targets => if targets.isEmpty then killUsage else signalAll 15 targets
  | arg :: targets =>
    match arg.toList with
    | '-' :: c :: cs =>
      match signalNumber? (String.ofList (c :: cs)) with
      | none =>
        complain ("kill: Illegal option -" ++ String.singleton c)
        return 2
      | some n =>
        let targets := if targets.head? == some "--" then targets.drop 1 else targets
        if targets.isEmpty then killUsage else signalAll n targets
    | _ => signalAll 15 args

end Exec

end Acceptance.Shell
