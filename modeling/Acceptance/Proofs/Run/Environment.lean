import Acceptance.Proofs.Run.Bindings
import Acceptance.Proofs.Run.Requests
import Acceptance.Proofs.Run.Trial

/-!
# The environment of commands

The environment of a session is what the bindings come to that were made in it, whatever else is done with the session
(`Session.environment_afterUses`).  Commands are run with it: everything that the history of a scenario tells of was
answered by the shell to a request with the environment that the session began with, and in it stands of each name the
last binding (`Scenario.exists_asked_run`).
-/

namespace Acceptance

variable {κ : Type} {shell : Shell κ}

/-! ### What the shell answers -/

/-- From one world to another the shell is asked one request after the other, with these outcomes. -/
inductive Asked (shell : Shell κ) : World κ → List (Request × Outcome) → World κ → Prop
  | nil (w : World κ) : Asked shell w [] w
  | concat {w v u : World κ} {asked : List (Request × Outcome)} {r : Request} {x : Outcome} :
      Asked shell w asked v → shell r v = (x, u) → Asked shell w (asked ++ [(r, x)]) u

namespace Session

/-- What the history tells of, as it was asked of the shell. -/
def exchanges (ask : String → Request) (hs : List Happening) : List (Request × Outcome) :=
  (hs.filterMap Happening.answer?).map fun a => (ask a.1, a.2)

theorem exchanges_append (ask : String → Request) (hs hs' : List Happening) :
    exchanges ask (hs ++ hs') = exchanges ask hs ++ exchanges ask hs' := by
  rw [exchanges, List.filterMap_append, List.map_append]
  rfl

/-- Since `first` the session asks for commands in the same way, and what its history tells of leads to its world. -/
structure Exchanged (shell : Shell κ) (first s : Session × World κ) : Prop where
  request : s.1.request = first.1.request
  asked : ∃ hs, s.1.history = first.1.history ++ hs ∧ Asked shell first.2 (exchanges first.1.request hs) s.2

theorem Exchanged.refl (s : Session × World κ) : Exchanged shell s s := ⟨rfl, [], (List.append_nil _).symm, .nil s.2⟩

theorem Exchanged.environment {first s : Session × World κ} (h : Exchanged shell first s) :
    s.1.environment = first.1.environment :=
  congrArg Request.environment (congrFun h.request "")

theorem Exchanged.extend {first : Session × World κ} {s : Session} {w v : World κ} (h : Exchanged shell first (s, w))
    {e : Happening} (hv : ∀ asked, Asked shell first.2 asked w →
      Asked shell first.2 (asked ++ exchanges first.1.request [e]) v) : Exchanged shell first (s.extend [e], v) := by
  obtain ⟨hrequest, hs, hhistory, hasked⟩ := h
  refine ⟨hrequest, hs ++ [e], ?_, ?_⟩
  · show s.history ++ [e] = _
    rw [show s.history = _ from hhistory, List.append_assoc]
  · rw [exchanges_append]
    exact hv _ hasked

theorem invariant_exchanged (shell : Shell κ) (first : Session × World κ) :
    Invariant shell (Exchanged shell first) where
  attempt := by
    rintro command ⟨s, w⟩ h
    have hrequest : s.request = first.1.request := h.request
    rw [attempt_eq, hrequest]
    cases hr : shell (first.1.request command) w with
    | mk x v =>
      cases x with
      | ok output => exact h.extend fun asked ha => ha.concat hr
      | error cause => exact h.extend fun asked ha => ha.concat hr
  enter description s w h := by
    rw [enter_eq]
    have hnone : exchanges first.1.request [.entered description] = [] := rfl
    refine h.extend fun asked ha => ?_
    rw [hnone, List.append_nil]
    exact ha
  write text s w h := ⟨h.request, h.asked⟩

/-! ### Environments of sessions -/

/-- What can be done with a session. -/
inductive Use where
  | bind (key value : String)
  | move (directory : String)
  | changeShell (name : String)
  | write (text : String)
  | evaluate (e : Expression)

/-- The binding that is made, if one is. -/
def Use.binding? : Use → Option (String × String)
  | bind key value => some (key, value)
  | _ => none

def use (shell : Shell κ) : Use → Session × World κ → Session × World κ
  | .bind key value, (s, w) => (s.setVariable key value, w)
  | .move directory, (s, w) => ({ s with directory }, w)
  | .changeShell name, (s, w) => ({ s with shell := name }, w)
  | .write text, (s, w) => (s.write text, w)
  | .evaluate e, s => (e.eval (context shell) s).2

/-- Uses a session in one way after the other. -/
def afterUses (shell : Shell κ) (uses : List Use) (s : Session × World κ) : Session × World κ :=
  uses.foldl (fun s u => use shell u s) s

theorem environment_use (shell : Shell κ) (u : Use) (s : Session × World κ) :
    (use shell u s).1.environment = s.1.environment.bindAll u.binding?.toList := by
  cases u with
  | bind | move | changeShell | write => rfl
  | evaluate e =>
    have hkeeps := Expression.keeps_eval (invariant_exchanged shell s).context e fun _ _ => trivial
    exact (hkeeps s (.refl s)).1.environment

/-- The bindings that are made in a session come to its environment. -/
theorem environment_afterUses (shell : Shell κ) (uses : List Use) (s : Session × World κ) :
    (afterUses shell uses s).1.environment = s.1.environment.bindAll (uses.filterMap Use.binding?) := by
  induction uses generalizing s with
  | nil => rfl
  | cons u uses ih =>
    have hstep : afterUses shell (u :: uses) s = afterUses shell uses (use shell u s) := rfl
    rw [hstep, ih, environment_use]
    cases hu : u.binding? with
    | none => rw [List.filterMap_cons_none hu]; rfl
    | some b => rw [List.filterMap_cons_some hu]; rfl

/-- A binding of one name gives it the value, and changes neither the value nor the place of any other. -/
theorem environment_setVariable (s : Session) (key value : String) :
    (s.setVariable key value).environment.value? key = some value ∧
      ∀ b : String × String, b.1 ≠ key →
        (s.setVariable key value).environment.value? b.1 = s.environment.value? b.1 ∧
          ∀ i : Nat, (s.setVariable key value).environment[i]? = some b ↔ s.environment[i]? = some b := by
  refine ⟨?_, fun b hb => ⟨?_, Bindings.getElem?_bind_of_ne hb s.environment value⟩⟩
  · exact (Bindings.value?_bind s.environment key value key).trans (if_pos rfl)
  · exact (Bindings.value?_bind s.environment key value b.1).trans (if_neg hb)

theorem setVariables_eq (bs : List (String × String)) (s : Session) :
    s.setVariables bs = { s with environment := s.environment.bindAll bs } := by
  induction bs generalizing s with
  | nil => rfl
  | cons b bs ih => exact ih (s.setVariable b.1 b.2)

end Session

/-- What is bound in the session of a scenario: its directory first, and then as configured. -/
def Config.bindings (c : Config) (directory : String) : List (String × String) :=
  (Session.workVariable, directory) :: c.environment

theorem Config.session_eq_bindAll (c : Config) (directory : String) :
    c.session directory = ⟨directory, c.shell, Bindings.bindAll [] (c.bindings directory), "", []⟩ :=
  Session.setVariables_eq c.environment _

/-! ### Commands of scenarios -/

namespace Scenario

/-- Everything that the history of a scenario tells of, its cleanup included, was answered by the shell to requests
with the directory and the environment that the session began with. -/
theorem asked_runIn (shell : Shell κ) (c : Config) (directory : String) (sc : Scenario) (w : World κ) :
    let r := runIn shell sc (c.session directory, w)
    Asked shell w (Session.exchanges (c.session directory).request r.2.1.history) r.2.2 := by
  intro r
  obtain ⟨-, hhistory⟩ := c.session_eq directory
  obtain ⟨-, hs, hend, hasked⟩ := (Session.invariant_exchanged shell _).runIn sc (.refl (c.session directory, w))
  rw [hhistory, List.nil_append] at hend
  rw [show r.2.1.history = hs from hend]
  exact hasked

variable {t : Temporaries κ} {c : Config} {index : Nat} {sc : Scenario} {w v : World κ} {sandbox : Option String}

/-- A scenario that is not skipped and has a directory to run in is run in a session there. -/
theorem run_of_prepare (hskip : c.skips (sc.name index) = false) (hdir : prepare t c index w = (.ok sandbox, v))
    {failure : Option String} {s : Session} {u : World κ}
    (hrun : runIn shell sc (c.session (sandbox.getD c.directory), v) = (failure, s, u)) :
    run t shell c index sc w =
      let left := dismiss t (c.keep || failure.isSome) sandbox u
      (⟨sc.name index, failure.isNone, false, failure, some s, left.2.clock - w.clock, left.1⟩, left.2) := by
  rw [run, hskip, hdir]
  simp only [hrun]
  rfl

/-- Every command of a scenario, its cleanup included, is run in its directory and with the last binding of each name. -/
theorem exists_asked_run (hskip : c.skips (sc.name index) = false) (hdir : prepare t c index w = (.ok sandbox, v))
    (shell : Shell κ) :
    let directory := sandbox.getD c.directory
    let r := run t shell c index sc w
    ∃ env s u, Bindings.LastOf env (c.bindings directory) ∧ r.1.session = some s ∧
      (r.1.sandbox, r.2) = dismiss t (c.keep || !r.1.passed) sandbox u ∧
      Asked shell v (Session.exchanges (fun command => ⟨c.shell, command, directory, env⟩) s.history) u := by
  intro directory r
  have hasked := asked_runIn shell c directory sc v
  obtain ⟨⟨failure, s, u⟩, hrun⟩ : ∃ x, runIn shell sc (c.session directory, v) = x := ⟨_, rfl⟩
  rw [hrun, c.session_eq_bindAll] at hasked
  have hr := run_of_prepare hskip hdir hrun
  refine ⟨_, s, u, Bindings.lastOf_bindAll _, congrArg (·.1.session) hr, ?_, hasked⟩
  rw [show r = _ from hr]
  cases failure <;> rfl

end Scenario

end Acceptance
