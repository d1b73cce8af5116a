import Acceptance.Proofs.Evaluation.Keeps
import Acceptance.Proofs.Run.Log
import Acceptance.Run.Runner

/-!
# What is asked of the shell

The commands in the history of a session are all that was asked of the shell, in order and always from the same
directory, with the same bindings: from the world that a scenario finds they lead to the one that it leaves
(`Scenario.traced_runIn`).  This is an invariant of single commands, and whatever is one is kept by whole scenarios.
-/

namespace Acceptance

open Evaluation (Keeps)

variable {κ : Type} {shell : Shell κ}

/-- The world after a number of requests. -/
def World.after (shell : Shell κ) (rs : List Request) (w : World κ) : World κ :=
  rs.foldl (fun w r => (shell r w).2) w

theorem World.after_append (shell : Shell κ) (rs rs' : List Request) (w : World κ) :
    w.after shell (rs ++ rs') = (w.after shell rs).after shell rs' :=
  List.foldl_append

namespace Session

/-- What a session has asked of the shell, in order. -/
def requests (s : Session) : List Request := (s.history.filterMap Happening.attempted?).map s.request

theorem directory_of_mem_requests {s : Session} {r : Request} (h : r ∈ s.requests) : r.directory = s.directory := by
  obtain ⟨command, -, rfl⟩ := List.mem_map.1 h
  rfl

/-! ### Invariants -/

/-- What holds of a session and the world stays true when a command is attempted, a block is entered or something is
written to the log. -/
structure Invariant (shell : Shell κ) (I : Session × World κ → Prop) : Prop where
  attempt : ∀ command s, I s → I (attempt shell command s).2
  enter : ∀ description s w, I (s, w) → I (s.enter description, w)
  write : ∀ text s w, I (s, w) → I (s.write text, w)

variable {I : Session × World κ → Prop}

theorem Invariant.runCommands (h : Invariant shell I) (description : String) (commands : List String) :
    (runCommands shell description commands).Keeps I fun _ => True := by
  induction commands with
  | nil => exact fun s hs => ⟨hs, fun _ _ => trivial⟩
  | cons command commands ih =>
    intro s hs
    have hfirst := h.attempt command s hs
    rw [Session.runCommands]
    split <;> rename_i hr <;> rw [hr] at hfirst
    · exact ih _ hfirst
    · exact ⟨hfirst, fun _ _ => trivial⟩
    · exact ⟨hfirst, fun _ _ => trivial⟩

theorem Invariant.context (h : Invariant shell I) :
    (context shell).Keeps (fun _ => True) I fun _ => True where
  run d cs _ _ s hs := h.runCommands d cs _ (h.enter d s.1 s.2 hs)
  all _ := Keeps.allOf
  any _ := Keeps.anyOf

theorem Invariant.firstFailure (h : Invariant shell I) (stages : List Stage) {s : Session × World κ} (hs : I s) :
    I (Stage.firstFailure (Session.context shell) stages s).2 := by
  induction stages generalizing s with
  | nil => exact hs
  | cons stage stages ih =>
    have hfirst := (Expression.keeps_eval h.context stage.expression (fun _ _ => trivial) s hs).1
    rw [Stage.firstFailure]
    split <;> rename_i hr <;> rw [hr] at hfirst
    · exact ih hfirst
    · exact hfirst
    · exact hfirst

theorem Invariant.runCleanup (h : Invariant shell I) (cleanup : Option Expression) {s : Session × World κ}
    (hs : I s) : I (Scenario.runCleanup shell cleanup s).2 := by
  obtain ⟨s, w⟩ := s
  cases cleanup with
  | none => exact hs
  | some e =>
    have hcleanup := h.firstFailure [⟨.cleanup, e⟩] (h.write "(finally)" s w hs)
    rw [Scenario.runCleanup]
    split <;> rename_i hr <;> rw [hr] at hcleanup
    · exact hcleanup
    · exact h.write _ _ _ hcleanup

/-- What the steps of a session keep is kept by a whole scenario. -/
theorem Invariant.runIn (h : Invariant shell I) (sc : Scenario) {s : Session × World κ} (hs : I s) :
    I (Scenario.runIn shell sc s).2 :=
  h.runCleanup sc.cleanup (h.firstFailure sc.stages hs)

/-! ### Requests -/

/-- A session asks as the first one does, and its requests lead from that world to the one it is in. -/
structure Traced (shell : Shell κ) (first : Session × World κ) (s : Session × World κ) : Prop where
  request : s.1.request = first.1.request
  world : s.2 = first.2.after shell s.1.requests

variable {first : Session × World κ} {s s' : Session} {w : World κ}

/-- What changes neither the setting of a session nor the commands in its history leaves its requests alone. -/
theorem Traced.of_eq (h : Traced shell first (s, w)) (hrequest : s'.request = s.request)
    (hhistory : s'.history.filterMap Happening.attempted? = s.history.filterMap Happening.attempted?) :
    Traced shell first (s', w) := by
  have hrequests : s'.requests = s.requests := by rw [requests, requests, hrequest, hhistory]
  exact ⟨hrequest.trans h.request, by rw [hrequests]; exact h.world⟩

/-- A command that is attempted is one more request. -/
theorem Traced.of_attempted (h : Traced shell first (s, w)) {command : String} (hrequest : s'.request = s.request)
    (hhistory : s'.history.filterMap Happening.attempted? = s.history.filterMap Happening.attempted? ++ [command]) :
    Traced shell first (s', (shell (s.request command) w).2) := by
  have hrequests : s'.requests = s.requests ++ [s.request command] := by
    rw [requests, requests, hrequest, hhistory, List.map_append]
    rfl
  refine ⟨hrequest.trans h.request, ?_⟩
  have hworld : w = first.2.after shell s.requests := h.world
  rw [hrequests, World.after_append, ← hworld]
  rfl

theorem invariant_traced (shell : Shell κ) (first : Session × World κ) : Invariant shell (Traced shell first) where
  attempt := by
    rintro command ⟨s, w⟩ h
    rw [attempt_eq]
    cases hr : shell (s.request command) w with
    | mk x v =>
      obtain rfl : (shell (s.request command) w).2 = v := congrArg Prod.snd hr
      cases x with
      | ok output => exact h.of_attempted rfl (by simp [extend, Happening.attempted?])
      | error cause => exact h.of_attempted rfl (by simp [extend, Happening.attempted?])
  enter description s w h := by
    rw [enter_eq]
    exact h.of_eq rfl (by simp [extend, Happening.attempted?])
  write text s w h := h.of_eq rfl rfl

theorem directory_setVariables (bindings : List (String × String)) (s : Session) :
    (s.setVariables bindings).directory = s.directory ∧ (s.setVariables bindings).history = s.history := by
  induction bindings generalizing s with
  | nil => exact ⟨rfl, rfl⟩
  | cons b bindings ih => exact ih (s.setVariable b.1 b.2)

end Session

theorem Config.session_eq (c : Config) (directory : String) :
    (c.session directory).directory = directory ∧ (c.session directory).history = [] :=
  Session.directory_setVariables c.environment _

/-- A scenario changes the world by its requests, and stays in the directory that it is run in. -/
theorem Scenario.traced_runIn (shell : Shell κ) (c : Config) (directory : String) (sc : Scenario) (w : World κ) :
    let r := runIn shell sc (c.session directory, w)
    r.2.1.directory = directory ∧ r.2.2 = w.after shell r.2.1.requests := by
  intro r
  obtain ⟨hdirectory, hhistory⟩ := c.session_eq directory
  have hstart : Session.Traced shell (c.session directory, w) (c.session directory, w) :=
    ⟨rfl, by simp [Session.requests, hhistory, World.after]⟩
  have hend := (Session.invariant_traced shell _).runIn sc hstart
  have hplace : r.2.1.directory = (c.session directory).directory :=
    congrArg Request.directory (congrFun hend.request "")
  exact ⟨hplace.trans hdirectory, hend.world⟩

end Acceptance
