import Acceptance.Run.Session

/-!
# Reports

The result of a run: a case for each scenario, in order, and the time it took. A case that was skipped counts neither
as passed nor as failed, and does not keep a run from having passed.
-/

namespace Acceptance

/-- The result of a scenario. -/
structure Case where
  name : String
  passed : Bool
  skipped : Bool
  /-- Why the scenario failed. -/
  reason : Option String
  /-- The session the scenario was run in, at its end, if it was run. -/
  session : Option Session
  /-- How long it took, in nanoseconds. -/
  duration : Nat
  /-- The sandbox, if it was kept. -/
  sandbox : Option String
deriving Repr

namespace Case

/-- The case of a scenario that was not run. -/
def ofSkipped (name : String) : Case := ⟨name, true, true, none, none, 0, none⟩

/-- The case of a scenario that failed before anything was run. -/
def ofFailed (name reason : String) (duration : Nat) : Case :=
  ⟨name, false, false, some reason, none, duration, none⟩

def log (c : Case) : String := c.session.elim "" Session.log

/-- What happened in the session. -/
def history (c : Case) : List Happening := c.session.elim [] Session.history

end Case

def milliseconds (nanoseconds : Nat) : Nat := nanoseconds / 1000000

/-- The result of a run. -/
structure Report where
  cases : List Case
  /-- How long it took, in nanoseconds. -/
  duration : Nat
deriving Repr

namespace Report

def allPassed (r : Report) : Bool := r.cases.all fun c => c.passed || c.skipped

/-- The number of cases that passed. -/
def passedCount (r : Report) : Nat := r.cases.countP fun c => c.passed && !c.skipped

/-- The number of cases that failed. -/
def failedCount (r : Report) : Nat := r.cases.countP fun c => !c.passed && !c.skipped

/-- The number of cases that were skipped. -/
def skippedCount (r : Report) : Nat := r.cases.countP fun c => c.skipped

/-- The counts and the time on one line. -/
def summary (r : Report) : String :=
  s!"{r.passedCount} passed, {r.failedCount} failed, {r.skippedCount} skipped ({milliseconds r.duration}ms)"

end Report

end Acceptance
