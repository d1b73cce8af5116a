import Acceptance.Run.Report
import Acceptance.Spec.Parser
import Acceptance.World.Temporaries

/-!
# Running scenarios

A scenario is run in stages: its precondition, then the action and the expectation of each behavior. The first stage
that does not hold ends them; the cleanup follows in any case, and its failure is the reason only if there is none
before it. A scenario whose name the filter does not accept is skipped and leaves no trace. With sandboxes each
scenario runs in a directory of its own, which is removed afterwards unless the scenario failed or it is to be kept.

What runs commands and what makes sandboxes are parameters.
-/

namespace Acceptance

/-- What a stage of a scenario is for. -/
inductive StageKind where
  | precondition
  | action
  | expectation
  | cleanup
deriving DecidableEq, Repr

/-- An expression to be evaluated for a purpose. -/
structure Stage where
  kind : StageKind
  expression : Expression
deriving DecidableEq, Repr

namespace Stage

/-- How a description appears in a reason. -/
def described (description : String) : String := if description = "" then "(no description)" else description

/-- The reason for a failure when the stage does not hold. -/
def reason (s : Stage) : String :=
  (match s.kind with
    | .precondition => "precondition failed: "
    | .action => "action failed: "
    | .expectation => "expectation failed: "
    | .cleanup => "cleanup failed: ") ++ described s.expression.description

/-- Evaluates stages up to the first that does not hold, and gives the reason. -/
def firstFailure (ctx : Context σ RunError) : List Stage → σ → Option String × σ
  | [], s => (none, s)
  | stage :: stages, s =>
    match stage.expression.eval ctx s with
    | (.ok true, s) => firstFailure ctx stages s
    | (.ok false, s) => (some stage.reason, s)
    | (.error e, s) => (some e.text, s)

end Stage

namespace Behavior

/-- The stages of a behavior. -/
def stages (b : Behavior) : List Stage :=
  (b.action.map (Stage.mk .action)).toList ++ (b.expectation.map (Stage.mk .expectation)).toList

end Behavior

namespace Scenario

/-- The stages of a scenario before its cleanup. -/
def stages (s : Scenario) : List Stage := ⟨.precondition, s.precondition⟩ :: s.behaviors.flatMap Behavior.stages

/-- The name of a scenario: its description, or else its position. -/
def name (index : Nat) (s : Scenario) : String :=
  if s.precondition.description = "" then s!"scenario {index}" else s.precondition.description

end Scenario

/-- A choice of scenarios by name. -/
structure Filter where
  /-- The pattern as it was given. -/
  pattern : String
  accepts : String → Bool

/-- How scenarios are to be run. -/
structure Config where
  /-- The directory commands run in when there are no sandboxes. -/
  directory : String
  /-- Whether each scenario runs in a directory of its own. -/
  sandbox : Bool
  /-- Where sandboxes are made. -/
  root : Option String
  /-- Whether all sandboxes are kept. -/
  keep : Bool
  filter : Option Filter
  shell : String
  /-- Bindings for every command. -/
  environment : List (String × String)

namespace Config

/-- Runs in the current directory, without sandboxes, filter or bindings. -/
def default : Config := ⟨".", false, none, false, none, Session.defaultShell, []⟩

/-- Whether a scenario of the given name is skipped. -/
def skips (c : Config) (name : String) : Bool := c.filter.any fun f => !f.accepts name

/-- The session of a scenario in a directory. -/
def session (c : Config) (directory : String) : Session :=
  { Session.inDirectory directory with shell := c.shell }.setVariables c.environment

end Config

namespace Scenario

variable {κ : Type}

/-- Runs the cleanup, if there is one, and adds its failure to the log. -/
def runCleanup (shell : Shell κ) : Option Expression → Session × World κ → Option String × (Session × World κ)
  | none, s => (none, s)
  | some e, (s, w) =>
    match Stage.firstFailure (Session.context shell) [⟨.cleanup, e⟩] (s.write "(finally)", w) with
    | (none, s) => (none, s)
    | (some reason, s, w) => (some reason, s.write ("[" ++ reason ++ "]"), w)

/-- Runs the stages and the cleanup of a scenario in a session, and gives the reason if it fails. -/
def runIn (shell : Shell κ) (sc : Scenario) (s : Session × World κ) : Option String × (Session × World κ) :=
  let (failure, s) := Stage.firstFailure (Session.context shell) sc.stages s
  let (cleanupFailure, s) := runCleanup shell sc.cleanup s
  (failure.or cleanupFailure, s)

/-- Makes the directory a scenario runs in: a sandbox, or none if the configured directory is used. -/
def prepare (t : Temporaries κ) (c : Config) (index : Nat) (w : World κ) :
    Except Fault (Option String) × World κ :=
  if c.sandbox then
    match t.makeSandbox c.root index w with
    | (.ok directory, w) => (.ok (some directory), w)
    | (.error cause, w) => (.error cause, w)
  else (.ok none, w)

/-- Removes a sandbox unless it is kept, and gives it if it is. -/
def dismiss (t : Temporaries κ) (keep : Bool) : Option String → World κ → Option String × World κ
  | none, w => (none, w)
  | some directory, w => if keep then (some directory, w) else (none, t.remove directory w)

/-- Runs a scenario at its position in the specification, counted from 1. -/
def run (t : Temporaries κ) (shell : Shell κ) (c : Config) (index : Nat) (sc : Scenario) (w : World κ) :
    Case × World κ :=
  let name := sc.name index
  if c.skips name then (.ofSkipped name, w)
  else
    match prepare t c index w with
    | (.error cause, v) => (.ofFailed name ("failed to create workdir: " ++ cause.message) (v.clock - w.clock), v)
    | (.ok sandbox, v) =>
      let (failure, s, v) := sc.runIn shell (c.session (sandbox.getD c.directory), v)
      let (kept, v) := dismiss t (c.keep || failure.isSome) sandbox v
      (⟨name, failure.isNone, false, failure, some s, v.clock - w.clock, kept⟩, v)

/-- Runs scenarios in order, the first at the given position. -/
def runFrom (t : Temporaries κ) (shell : Shell κ) (c : Config) :
    Nat → List Scenario → World κ → List Case × World κ
  | _, [], w => ([], w)
  | index, sc :: scs, w =>
    let (result, w) := run t shell c index sc w
    let (results, w) := runFrom t shell c (index + 1) scs w
    (result :: results, w)

/-- Runs all scenarios of a specification in order. -/
def runAll (t : Temporaries κ) (shell : Shell κ) (c : Config) (scs : List Scenario) (w : World κ) :
    Report × World κ :=
  let (results, v) := runFrom t shell c 1 scs w
  (⟨results, v.clock - w.clock⟩, v)

/-- Runs the scenarios of a file. -/
def runFile (t : Temporaries κ) (shell : Shell κ) (c : Config) (path : String) (w : World κ) :
    Except Fault (Report × World κ) := do
  let deliveries ← w.openFile path
  let scs ← parseReader (.ofDeliveries deliveries)
  .ok (runAll t shell c scs w)

end Scenario

end Acceptance
