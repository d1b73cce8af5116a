import Acceptance.Proofs.Run.Cases
import Mathlib.Data.List.Forall2

/-!
# Skipped scenarios

A scenario that the filter does not accept is passed over: nothing is made for it, no command runs, and the world is
left as it was.  So a run with a filter is the run of the accepted scenarios alone, each at its position in the
specification, with the cases of the others put in between (`runAll_filtered`).
-/

namespace Acceptance

variable {κ : Type}

/-- What a filter makes of the case of a scenario at a position. -/
structure Filter.Judges (f : Filter) (p : Scenario × Nat) (x : Case) : Prop where
  name : x.name = if p.1.precondition.description = "" then s!"scenario {p.2}" else p.1.precondition.description
  skipped : x.skipped = true ↔ f.accepts x.name = false
  untouched : x.skipped = true → x.passed = true ∧ x.reason = none ∧ x.log = "" ∧ x.sandbox = none

namespace Scenario

/-- Runs scenarios one after the other, each at its position. -/
def runEach (t : Temporaries κ) (shell : Shell κ) (c : Config) :
    List (Scenario × Nat) → World κ → List Case × World κ
  | [], w => ([], w)
  | p :: ps, w =>
    let (result, w) := run t shell c p.2 p.1 w
    let (results, w) := runEach t shell c ps w
    (result :: results, w)

theorem runEach_cons (t : Temporaries κ) (shell : Shell κ) (c : Config) (p : Scenario × Nat)
    (ps : List (Scenario × Nat)) (w : World κ) :
    runEach t shell c (p :: ps) w =
      ((run t shell c p.2 p.1 w).1 :: (runEach t shell c ps (run t shell c p.2 p.1 w).2).1,
        (runEach t shell c ps (run t shell c p.2 p.1 w).2).2) :=
  rfl

/-- To run scenarios in order is to run each at the position it has. -/
theorem runFrom_eq_runEach (t : Temporaries κ) (shell : Shell κ) (c : Config) (index : Nat) (ss : List Scenario)
    (w : World κ) :
    runFrom t shell c index ss w = runEach t shell c (ss.zipIdx index) w := by
  induction ss generalizing index w with
  | nil => rfl
  | cons sc ss ih =>
    rw [List.zipIdx_cons, runEach_cons, ← ih]
    rfl

/-! ### One scenario -/

/-- A scenario that is skipped does nothing to the world. -/
theorem run_of_skips {c : Config} {index : Nat} {sc : Scenario} (h : c.skips (sc.name index) = true)
    (t : Temporaries κ) (shell : Shell κ) (w : World κ) : run t shell c index sc w = (.ofSkipped (sc.name index), w) := by
  rw [run]
  exact if_pos h

theorem skipped_run (t : Temporaries κ) (shell : Shell κ) (c : Config) (index : Nat) (sc : Scenario) (w : World κ) :
    (run t shell c index sc w).1.skipped = c.skips (sc.name index) := by
  by_cases h : c.skips (sc.name index) = true
  · rw [run_of_skips h, h]
    rfl
  · rw [run, if_neg h, eq_false_of_ne_true h]
    split <;> rfl

/-- A filter that accepts a scenario makes no difference to it. -/
theorem run_of_accepts {f : Filter} {index : Nat} {sc : Scenario} (h : f.accepts (sc.name index) = true)
    (t : Temporaries κ) (shell : Shell κ) (c : Config) (w : World κ) :
    run t shell { c with filter := some f } index sc w = run t shell { c with filter := none } index sc w := by
  have hskip : Config.skips { c with filter := some f } (sc.name index) = false := by simp [Config.skips, h]
  have hskip' : Config.skips { c with filter := none } (sc.name index) = false := rfl
  rw [run, run, hskip, hskip']
  rfl

theorem judges_run (t : Temporaries κ) (shell : Shell κ) (c : Config) (f : Filter) (p : Scenario × Nat) (w : World κ) :
    f.Judges p (run t shell { c with filter := some f } p.2 p.1 w).1 := by
  have hskips : Config.skips { c with filter := some f } (p.1.name p.2) = !f.accepts (p.1.name p.2) := rfl
  refine ⟨name_run t shell _ p.2 p.1 w, ?_, fun h => ?_⟩
  · rw [skipped_run, name_run, hskips, Bool.not_eq_true']
  · rw [skipped_run] at h
    rw [run_of_skips h]
    exact ⟨rfl, rfl, rfl, rfl⟩

/-! ### All scenarios -/

theorem judges_runEach (t : Temporaries κ) (shell : Shell κ) (c : Config) (f : Filter) (ps : List (Scenario × Nat))
    (w : World κ) :
    List.Forall₂ f.Judges ps (runEach t shell { c with filter := some f } ps w).1 := by
  induction ps generalizing w with
  | nil => exact .nil
  | cons p ps ih => exact .cons (judges_run t shell c f p w) (ih _)

/-- The cases that are not skipped, and the world at the end, are those of the accepted scenarios alone. -/
theorem runEach_filtered (t : Temporaries κ) (shell : Shell κ) (c : Config) (f : Filter)
    (ps : List (Scenario × Nat)) (w : World κ) :
    ((runEach t shell { c with filter := some f } ps w).1.filter (!·.skipped),
        (runEach t shell { c with filter := some f } ps w).2) =
      runEach t shell { c with filter := none } (ps.filter fun p => f.accepts (p.1.name p.2)) w := by
  induction ps generalizing w with
  | nil => rfl
  | cons p ps ih =>
    have hskipped := skipped_run t shell { c with filter := some f } p.2 p.1 w
    by_cases hf : f.accepts (p.1.name p.2) = true
    · have hkept : (run t shell { c with filter := some f } p.2 p.1 w).1.skipped = false := by
        simp [hskipped, Config.skips, hf]
      rw [List.filter_cons_of_pos (by simpa using hf), runEach_cons, runEach_cons, ← ih, ← run_of_accepts hf,
        List.filter_cons_of_pos (by simpa using hkept)]
    · have hskips : Config.skips { c with filter := some f } (p.1.name p.2) = true := by simpa [Config.skips] using hf
      have hpast := run_of_skips hskips t shell w
      rw [List.filter_cons_of_neg (by simpa using hf), runEach_cons, ← ih, hpast,
        List.filter_cons_of_neg (by simp [Case.ofSkipped])]

/-- With a filter there is a case for each scenario in order, and it is skipped if and only if the filter does not
accept its name.  The other cases and the world at the end are those of running the accepted scenarios alone, without
a filter, each at the position it has in the specification. -/
theorem runAll_filtered (t : Temporaries κ) (shell : Shell κ) (c : Config) (f : Filter) (ss : List Scenario)
    (w : World κ) :
    let r := runAll t shell { c with filter := some f } ss w
    List.Forall₂ f.Judges (ss.zipIdx 1) r.1.cases ∧
      (r.1.cases.filter (!·.skipped), r.2) =
        runEach t shell { c with filter := none } ((ss.zipIdx 1).filter fun p => f.accepts (p.1.name p.2)) w := by
  intro r
  have hcases : (r.1.cases, r.2) = runEach t shell { c with filter := some f } (ss.zipIdx 1) w :=
    runFrom_eq_runEach t shell { c with filter := some f } 1 ss w
  have hfst : r.1.cases = (runEach t shell { c with filter := some f } (ss.zipIdx 1) w).1 := congrArg Prod.fst hcases
  have hsnd : r.2 = (runEach t shell { c with filter := some f } (ss.zipIdx 1) w).2 := congrArg Prod.snd hcases
  rw [hfst, hsnd]
  exact ⟨judges_runEach t shell c f _ w, runEach_filtered t shell c f _ w⟩

end Scenario

end Acceptance
