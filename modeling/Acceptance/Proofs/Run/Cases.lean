import Acceptance.Run.Runner

/-!
# The cases of a report

A run makes one case for each scenario, in order and under its name.  Each case is skipped, passed or failed, so the
three counts of a report add up to the number of scenarios (`count_add_count`), and the run as a whole has passed if
none failed.
-/

namespace Acceptance

/-- What became of a scenario. -/
inductive Verdict where
  | skip
  | pass
  | fail
deriving DecidableEq, Repr

/-- The verdict of a case. -/
def Case.verdict (c : Case) : Verdict := if c.skipped then .skip else if c.passed then .pass else .fail

namespace Report

/-- The number of cases with a verdict, as the summary has it. -/
def count (r : Report) : Verdict → Nat
  | .skip => r.skippedCount
  | .pass => r.passedCount
  | .fail => r.failedCount

theorem count_eq_countP (r : Report) (v : Verdict) : r.count v = r.cases.countP fun c => c.verdict = v := by
  cases v
  all_goals
    refine List.countP_congr fun c _ => ?_
    rw [Case.verdict]
    cases c.skipped <;> cases c.passed <;> simp

/-- Every case has one of the verdicts. -/
theorem count_add_count (r : Report) : r.count .skip + r.count .pass + r.count .fail = r.cases.length := by
  simp only [count_eq_countP]
  induction r.cases with
  | nil => rfl
  | cons c cs ih =>
    simp only [List.countP_cons, List.length_cons]
    cases c.verdict <;> simp <;> omega

theorem allPassed_iff (r : Report) : r.allPassed = true ↔ r.count .fail = 0 := by
  rw [count, failedCount, List.countP_eq_zero, allPassed, List.all_eq_true]
  refine forall₂_congr fun c _ => ?_
  cases c.skipped <;> cases c.passed <;> simp

end Report

namespace Scenario

variable {κ : Type}

theorem name_run (t : Temporaries κ) (shell : Shell κ) (c : Config) (index : Nat) (sc : Scenario) (w : World κ) :
    (run t shell c index sc w).1.name = sc.name index := by
  rw [run]
  dsimp only
  split
  · rfl
  · split <;> rfl

/-- There is a case for each scenario, in order and under its name. -/
theorem map_name_runFrom (t : Temporaries κ) (shell : Shell κ) (c : Config) (index : Nat) (ss : List Scenario)
    (w : World κ) :
    (runFrom t shell c index ss w).1.map Case.name = (ss.zipIdx index).map fun p => p.1.name p.2 := by
  induction ss generalizing index w with
  | nil => rfl
  | cons sc ss ih =>
    rw [runFrom, List.zipIdx_cons, List.map_cons, List.map_cons, ← name_run t shell c index sc w, ih]

end Scenario

end Acceptance
