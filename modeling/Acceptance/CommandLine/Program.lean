import Acceptance.CommandLine.Options
import Acceptance.Run.Runner
import Acceptance.Spec.Display

/-!
# The program

What the program answers to a command line. It reads the specification and checks every option before it runs anything;
with `--parse-only` it shows the scenarios and looks at no other option. Otherwise it prints a line for each scenario,
followed by indented lines about it, then an empty line and the summary.

How command lines are read, patterns matched, sandboxes made and commands run are parameters.
-/

namespace Acceptance.CommandLine

/-- Why the program stops before it runs anything. -/
inductive Refusal where
  | notOpened (path : String) (cause : Fault)
  | notRead (path : String) (cause : Fault)
  | inputNotRead (cause : Fault)
  | badFilter (cause : String)
  | badBinding (text : String)
deriving Repr

namespace Refusal

/-- The text of a refusal. -/
def message : Refusal → String
  | notOpened path cause => s!"failed to open {path}: {cause.message}"
  | notRead path cause => s!"failed to read {path}: {cause.message}"
  | inputNotRead cause => "failed to read stdin: " ++ cause.message
  | badFilter cause => "invalid --filter pattern: " ++ cause
  | badBinding text => s!"invalid --env {quote text}: expected KEY=VALUE"

end Refusal

/-- What the program leaves behind when it ends. -/
structure Outcome where
  status : Nat
  output : String
  /-- What it says against its input on standard error. What its logger writes there is not part of it. -/
  complaint : String
deriving DecidableEq, Repr

namespace Outcome

def ofLines (lines : List String) : String := String.join (lines.map (· ++ "\n"))

/-- Ends well, or not, with lines on standard output. -/
def printed (passed : Bool) (lines : List String) : Outcome := ⟨if passed then 0 else 1, ofLines lines, ""⟩

def refused (r : Refusal) : Outcome := ⟨1, "", ofLines ["error: " ++ r.message]⟩

end Outcome

/-- What is made of the text of a pattern: the names it accepts, or why it is none. -/
abbrev Matcher := String → Except String (String → Bool)

namespace Options

/-- A binding at its first equals sign. -/
def binding? (text : String) : Option (String × String) :=
  match text.toList.dropWhile (· != '=') with
  | [] => none
  | _ :: value => some (String.ofList (text.toList.takeWhile (· != '=')), String.ofList value)

/-- The binding of an argument. -/
def binding (text : String) : Except Refusal (String × String) :=
  match binding? text with
  | some b => .ok b
  | none => .error (.badBinding text)

/-- The choice of scenarios by a pattern. -/
def ofPattern (pattern : Matcher) (text : String) : Except Refusal Filter :=
  match pattern text with
  | .ok accepts => .ok ⟨text, accepts⟩
  | .error cause => .error (.badFilter cause)

/-- Whether the specification is read from standard input. -/
def readsInput (o : Options) : Bool := Path.dropIdle (o.path.splitOn "/") == [standardInput]

/-- The directory of the specification. -/
def home (o : Options) : String := if o.readsInput then "." else Path.parent o.path

/-- How the scenarios are to be run. -/
def config (pattern : Matcher) (o : Options) : Except Refusal Config := do
  let filter ← o.filter.mapM (ofPattern pattern)
  let environment ← o.bindings.mapM binding
  return {
    directory := if o.sandbox then o.home else o.directory.getD o.home
    sandbox := o.sandbox
    root := if o.sandbox then o.directory else none
    keep := o.keep
    filter
    shell := o.shell
    environment }

variable {κ : Type}

/-- The scenarios of the specification. -/
def scenarios (o : Options) (input : Reader) (w : World κ) : Except Refusal (List Scenario) :=
  if o.readsInput then (parseReader input).mapError .inputNotRead
  else
    match w.openFile o.path with
    | .error cause => .error (.notOpened o.path cause)
    | .ok deliveries => (parseReader (.ofDeliveries deliveries)).mapError (.notRead o.path)

end Options

/-- A line below the line of a scenario. -/
def indented (text : String) : String := "      " ++ text

/-- The lines of a text, without their newlines. -/
def linesOf : List Char → List (List Char)
  | [] => []
  | c :: cs =>
    if c = '\n' then [] :: linesOf cs
    else match linesOf cs with
      | [] => [[c]]
      | line :: lines => (c :: line) :: lines

/-- A line without the carriage return at its end. -/
def withoutReturn (line : List Char) : List Char :=
  if line.getLast? = some '\r' then line.dropLast else line

/-- The lines about a log. -/
def logLines (log : String) : List String :=
  (linesOf log.toList).map fun line => indented (String.ofList (withoutReturn line))

/-- The lines about a case. -/
def caseLines (verbose : Bool) (c : Case) : List String :=
  if c.skipped then ["SKIP  " ++ c.name]
  else if c.passed then
    s!"PASS  {c.name} ({milliseconds c.duration}ms)" :: if verbose then logLines c.log else []
  else
    ("FAIL  " ++ c.name) :: (c.reason.map indented).toList ++
      (if c.log = "" then [] else indented "--- log ---" :: logLines c.log) ++
      (c.sandbox.map fun path => indented ("workdir: " ++ path)).toList

/-- The lines about a run. -/
def reportLines (verbose : Bool) (r : Report) : List String := r.cases.flatMap (caseLines verbose) ++ ["", r.summary]

variable {κ : Type}

/-- What the program is built on. -/
structure Platform (κ : Type) where
  /-- Reads a command line into options, or ends the program at once. -/
  arguments : List String → Except Outcome Options
  pattern : Matcher
  temporaries : Temporaries κ
  shell : Shell κ

/-- Does what the options ask for. -/
def perform (p : Platform κ) (o : Options) (input : Reader) (w : World κ) : Outcome × World κ :=
  match o.scenarios input w with
  | .error r => (.refused r, w)
  | .ok scenarios =>
    if o.parseOnly then (.printed true (scenarios.map Scenario.text), w)
    else
      match o.config p.pattern with
      | .error r => (.refused r, w)
      | .ok config =>
        let (report, w) := Scenario.runAll p.temporaries p.shell config scenarios w
        (.printed report.allPassed (reportLines o.verbose report), w)

def answer (p : Platform κ) (args : List String) (input : Reader) (w : World κ) : Outcome × World κ :=
  match p.arguments args with
  | .error out => (out, w)
  | .ok o => perform p o input w

end Acceptance.CommandLine
