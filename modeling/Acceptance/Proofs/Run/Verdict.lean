import Acceptance.Run.Runner
import Acceptance.World.Scratch

/-!
# The order of a scenario and its verdict

The precondition of a scenario is evaluated first, then the action and the expectation of each behavior, up to the first
that does not hold, and then the cleanup, whatever happened before it.  A walk is a list of evaluations of which each
begins in the state that the one before it left; `Course` says which walk the run of a scenario is.  The scenario passes
if everything was evaluated and held, and otherwise the reason is that of the first evaluation on the walk that did not
hold (`run_verdict`), so a failing cleanup never takes the place of what failed before it.
-/

namespace Acceptance

/-- An evaluation of a stage and what came of it. -/
structure Evaluated where
  stage : Stage
  result : Except RunError Bool

namespace Evaluated

/-- The stage was found to hold. -/
def Held (v : Evaluated) : Prop := v.result = .ok true

/-- Why a scenario fails with this evaluation, if it does: for what does not hold, its place and its description, and
for an error, the block and the command as far as they are known, and the message. -/
def blame (v : Evaluated) : Option String :=
  let description := v.stage.expression.description
  let described := if description = "" then "(no description)" else description
  match v.result, v.stage.kind with
  | .ok true, _ => none
  | .ok false, .precondition => some ("precondition failed: " ++ described)
  | .ok false, .action => some ("action failed: " ++ described)
  | .ok false, .expectation => some ("expectation failed: " ++ described)
  | .ok false, .cleanup => some ("cleanup failed: " ++ described)
  | .error e, _ => some (e.description.elim "" (· ++ ": ") ++ e.command.elim "" (· ++ ": ") ++ e.message)

@[simp] theorem blame_held (stage : Stage) : blame ⟨stage, .ok true⟩ = none := by
  cases stage.kind <;> rfl

@[simp] theorem blame_not_held (stage : Stage) : blame ⟨stage, .ok false⟩ = some stage.reason := by
  obtain ⟨kind, expression⟩ := stage
  cases kind <;> rfl

@[simp] theorem blame_error (stage : Stage) (e : RunError) : blame ⟨stage, .error e⟩ = some e.text := by
  obtain ⟨kind, message, description, command⟩ := e
  cases description <;> cases command <;> rfl

theorem blame_eq_none_iff {v : Evaluated} : v.blame = none ↔ v.Held := by
  obtain ⟨stage, result⟩ := v
  rcases result with e | _ | _ <;> simp [Held]

/-- Evaluations of stages in order, up to the first that does not hold. -/
structure UpToFirst (stages : List Stage) (vs : List Evaluated) : Prop where
  inOrder : vs.map stage <+: stages
  /-- Only the last may not hold. -/
  onlyLast : ∀ v ∈ vs.dropLast, v.Held
  /-- Only a stage that does not hold keeps others from being evaluated. -/
  complete : (∀ v ∈ vs, v.Held) → vs.map stage = stages

namespace UpToFirst

variable {stages : List Stage} {vs : List Evaluated}

theorem ofStopped (stage : Stage) {x : Except RunError Bool} (hx : x ≠ .ok true) :
    UpToFirst (stage :: stages) [⟨stage, x⟩] :=
  ⟨⟨stages, rfl⟩, nofun, fun h => absurd (h ⟨stage, x⟩ List.mem_cons_self) hx⟩

theorem ofHeld (stage : Stage) (h : UpToFirst stages vs) : UpToFirst (stage :: stages) (⟨stage, .ok true⟩ :: vs) := by
  refine ⟨List.cons_prefix_cons.2 ⟨rfl, h.inOrder⟩, ?_, fun hall => ?_⟩
  · cases vs with
    | nil => nofun
    | cons w vs => exact List.forall_mem_cons.2 ⟨rfl, h.onlyLast⟩
  · rw [List.map_cons, h.complete (List.forall_mem_cons.1 hall).2]

end UpToFirst

end Evaluated

open Evaluated (UpToFirst)

variable {σ κ : Type}

/-- The evaluations lead from one state to the other, each beginning where the one before it ended. -/
inductive Walk (ctx : Context σ RunError) : σ → List Evaluated → σ → Prop
  | nil (s : σ) : Walk ctx s [] s
  | cons {s t u : σ} {v : Evaluated} {vs : List Evaluated} : v.stage.expression.eval ctx s = (v.result, t) →
      Walk ctx t vs u → Walk ctx s (v :: vs) u

namespace Stage

/-- Stages are evaluated up to the first that does not hold, and that one is to blame. -/
theorem exists_upToFirst (ctx : Context σ RunError) (stages : List Stage) (s : σ) :
    ∃ vs, UpToFirst stages vs ∧ Walk ctx s vs (firstFailure ctx stages s).2 ∧
      (firstFailure ctx stages s).1 = vs.findSome? Evaluated.blame := by
  induction stages generalizing s with
  | nil => exact ⟨[], ⟨List.nil_prefix, nofun, fun _ => rfl⟩, .nil s, rfl⟩
  | cons stage stages ih =>
    obtain ⟨⟨x, t⟩, he⟩ : ∃ y, stage.expression.eval ctx s = y := ⟨_, rfl⟩
    rw [firstFailure, he]
    -- only a stage that holds is followed by others, and it is not to blame
    rcases x with e | _ | _
    case ok.true =>
      obtain ⟨vs, h, hwalk, hfirst⟩ := ih t
      exact ⟨⟨stage, .ok true⟩ :: vs, h.ofHeld stage, .cons he hwalk, by simpa using hfirst⟩
    case ok.false => exact ⟨[⟨stage, .ok false⟩], .ofStopped stage (by simp), .cons he (.nil t), by simp⟩
    case error => exact ⟨[⟨stage, .error e⟩], .ofStopped stage (by simp), .cons he (.nil t), by simp⟩

end Stage

namespace Scenario

/-- The state in which the cleanup is evaluated, if there is one. -/
def announce (cleanup : Option Expression) (s : Session × World κ) : Session × World κ :=
  if cleanup.isSome then (s.1.write "(finally)", s.2) else s

/-- The session after the cleanup, with a note if it failed. -/
def conclude (cleanup : Option Evaluated) (s : Session) : Session :=
  (cleanup.bind Evaluated.blame).elim s fun reason => s.write ("[" ++ reason ++ "]")

/-- The run of a scenario from one state to another: its stages up to the first that does not hold, and then, from
the state they lead to, the cleanup if there is one. -/
structure Course (shell : Shell κ) (stages : List Stage) (cleanup : Option Expression) (s : Session × World κ)
    (vs : List Evaluated) (last : Option Evaluated) (t : Session × World κ) : Prop where
  upToFirst : UpToFirst stages vs
  afterwards : last.map Evaluated.stage = cleanup.map (Stage.mk .cleanup)
  walk : ∃ u, Walk (Session.context shell) s vs u ∧ Walk (Session.context shell) (announce cleanup u) last.toList t

/-- The cleanup is evaluated if there is one, and is to blame if it does not hold. -/
theorem exists_cleanup (shell : Shell κ) (cleanup : Option Expression) (s : Session × World κ) :
    ∃ last t, last.map Evaluated.stage = cleanup.map (Stage.mk .cleanup) ∧
      Walk (Session.context shell) (announce cleanup s) last.toList t ∧
      runCleanup shell cleanup s = (last.bind Evaluated.blame, conclude last t.1, t.2) := by
  cases cleanup with
  | none => exact ⟨none, s, rfl, .nil s, rfl⟩
  | some e =>
    obtain ⟨⟨x, t⟩, he⟩ : ∃ y, e.eval (Session.context shell) (s.1.write "(finally)", s.2) = y := ⟨_, rfl⟩
    refine ⟨some ⟨⟨.cleanup, e⟩, x⟩, t, rfl, .cons he (.nil t), ?_⟩
    rw [runCleanup, Stage.firstFailure, he]
    rcases x with _ | _ | _ <;> simp [conclude, Stage.firstFailure]

/-- A scenario is run in a session along a course, and the first evaluation to blame gives the reason. -/
theorem exists_course (shell : Shell κ) (sc : Scenario) (s : Session × World κ) :
    ∃ vs last t, Course shell sc.stages sc.cleanup s vs last t ∧
      runIn shell sc s = ((vs ++ last.toList).findSome? Evaluated.blame, conclude last t.1, t.2) := by
  obtain ⟨vs, hvs, hwalk, hfirst⟩ := Stage.exists_upToFirst (Session.context shell) sc.stages s
  cases hstages : Stage.firstFailure (Session.context shell) sc.stages s with | _ failure u
  rw [hstages] at hwalk hfirst
  obtain ⟨last, t, hlast, hwalk', hrun⟩ := exists_cleanup shell sc.cleanup u
  have hreason : (vs ++ last.toList).findSome? Evaluated.blame = failure.or (last.bind Evaluated.blame) := by
    rw [List.findSome?_append, ← hfirst]
    cases last <;> simp
  refine ⟨vs, last, t, ⟨hvs, hlast, u, hwalk, hwalk'⟩, ?_⟩
  rw [runIn, hstages, hreason]
  simp only [hrun]

/-- On a course, none is to blame if and only if everything was evaluated and held. -/
theorem Course.findSome?_blame {shell : Shell κ} {stages : List Stage} {cleanup : Option Expression}
    {s t : Session × World κ} {vs : List Evaluated} {last : Option Evaluated}
    (h : Course shell stages cleanup s vs last t) :
    (vs ++ last.toList).findSome? Evaluated.blame = none ↔
      (vs ++ last.toList).map Evaluated.stage = stages ++ (cleanup.map (Stage.mk .cleanup)).toList ∧
        ∀ v ∈ vs ++ last.toList, v.Held := by
  simp only [List.findSome?_eq_none_iff, Evaluated.blame_eq_none_iff]
  refine ⟨fun hall => ⟨?_, hall⟩, And.right⟩
  have hstages : vs.map Evaluated.stage = stages :=
    h.upToFirst.complete fun v hv => hall v (List.mem_append_left _ hv)
  rw [List.map_append, hstages, ← h.afterwards]
  cases last <;> rfl

/-- A scenario that is not skipped and has a directory to run in is run along a course: its precondition, the action and
the expectation of each behavior in order, up to the first that does not hold, and then the cleanup.  It passes if and
only if everything in that order was evaluated and held; otherwise the reason is that of the first that did not hold. -/
theorem run_verdict (t : Temporaries κ) (shell : Shell κ) (c : Config) (index : Nat) (sc : Scenario) (w v : World κ)
    (sandbox : Option String) (hskip : c.skips (sc.name index) = false)
    (hdir : prepare t c index w = (.ok sandbox, v)) :
    let order : List Stage := ⟨.precondition, sc.precondition⟩ :: sc.behaviors.flatMap fun b =>
      (b.action.map (Stage.mk .action)).toList ++ (b.expectation.map (Stage.mk .expectation)).toList
    ∃ vs last u, Course shell order sc.cleanup (c.session (sandbox.getD c.directory), v) vs last u ∧
      let r := run t shell c index sc w
      (r.1.passed = true ↔
        (vs ++ last.toList).map Evaluated.stage = order ++ (sc.cleanup.map (Stage.mk .cleanup)).toList ∧
          ∀ x ∈ vs ++ last.toList, x.Held) ∧
      r.1.reason = (vs ++ last.toList).findSome? Evaluated.blame ∧
      (r.1.passed = true ↔ r.1.reason = none) ∧
      r.1.skipped = false ∧
      r.1.session = some (conclude last u.1) ∧
      (r.1.sandbox, r.2) = dismiss t (c.keep || !r.1.passed) sandbox u.2 := by
  intro order
  have horder : order = sc.stages := rfl
  obtain ⟨vs, last, u, hcourse, hrun⟩ := exists_course shell sc (c.session (sandbox.getD c.directory), v)
  rw [← horder] at hcourse
  refine ⟨vs, last, u, hcourse, ?_⟩
  have hnone := hcourse.findSome?_blame
  generalize (vs ++ last.toList).findSome? Evaluated.blame = reason at hrun hnone ⊢
  rw [run, hskip, hdir]
  simp only [hrun]
  exact ⟨Option.isNone_iff_eq_none.trans hnone, rfl, Option.isNone_iff_eq_none, rfl, rfl, by cases reason <;> rfl⟩

/-- An action that does not hold, and an expectation with a command that cannot be started.  The cleanup fails as well,
and the behavior after the failure is not reached. -/
theorem run_verdict_twofold :
    let shell : Shell Nat := fun r w =>
      (if r.command = "gone" then .error ⟨.spawn, .reported .notFound "no shell"⟩
        else .ok ⟨[], [], .exited (if r.command = "true" then 0 else 1)⟩, { w with rest := w.rest + 1 })
    let sc (action expectation : Expression) : Scenario := ⟨.block "g" ["true"],
      [⟨some action, some expectation⟩, ⟨some (.block "later" ["true"]), none⟩],
      some (.all [.block "" ["true", "false"]])⟩
    let order (action expectation : Expression) : List Stage := [⟨.precondition, .block "g" ["true"]⟩,
      ⟨.action, action⟩, ⟨.expectation, expectation⟩, ⟨.action, .block "later" ["true"]⟩]
    let w : World Nat := ⟨⟨[]⟩, [], "/tmp", 0, 0⟩
    let r (sc : Scenario) := run World.temporaries shell .default 1 sc w
    let r₁ := r (sc (.any [.block "w" ["false"], .block "" ["false"]]) (.block "t" ["true"]))
    let r₂ := r (sc (.block "w" ["true"]) (.any [.block "s" ["false"], .block "t" ["true", "gone"]]))
    (∀ a e, Config.default.skips ((sc a e).name 1) = false ∧
      prepare World.temporaries .default 1 w = (.ok none, w) ∧
      ∃ vs last u, Course shell (order a e) (sc a e).cleanup (Config.default.session ".", w) vs last u ∧
        (r (sc a e)).1.reason = (vs ++ last.toList).findSome? Evaluated.blame) ∧
    r₁.1.reason = some "action failed: w" ∧ r₁.2.rest = 5 ∧
    r₂.1.reason = some "t: gone: failed to start shell: no shell" ∧ r₂.2.rest = 7 ∧
    r₂.1.log = "# g\n> true\n# w\n> true\n# s\n> false\n[exit code 1]\n# t\n> true\n> gone\n(finally)\n" ++
      "> true\n> false\n[exit code 1]\n[cleanup failed: (no description)]\n" := by
  intro shell sc order w r r₁ r₂
  refine ⟨fun a e => ?_, by decide +kernel, by decide +kernel, by decide +kernel, by decide +kernel, by decide +kernel⟩
  have hskip : Config.default.skips ((sc a e).name 1) = false := rfl
  have hdir : prepare World.temporaries .default 1 w = (.ok none, w) := rfl
  obtain ⟨vs, last, u, hcourse, h⟩ := run_verdict World.temporaries shell .default 1 (sc a e) w w none hskip hdir
  exact ⟨hskip, hdir, vs, last, u, hcourse, h.2.1⟩

end Scenario

end Acceptance
