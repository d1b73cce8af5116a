import Acceptance.Proofs.Evaluation.Keeps
import Acceptance.Proofs.World.Sandbox
import Acceptance.Run.Runner

/-!
# Cases on one line

What commands write goes to the log only.  The name and the reason of a case are made of values of its scenario and of
texts of faults, and its sandbox stands in the root that is asked for, so with one-line faults and a one-line root they
are all on one line (`plain_of_mem_runFrom`).
-/

namespace Acceptance

variable {κ : Type} {I : World κ → Prop} {shell : Shell κ}

/-- Commands keep `I`, and what keeps one from giving an output is told on one line. -/
structure Shell.Keeps (I : World κ → Prop) (shell : Shell κ) : Prop where
  world : ∀ r w, I w → I (shell r w).2
  fault : ∀ r w o, (shell r w).1 = .error o → OneLine o.cause.message

theorem Obstacle.oneLine_message {o : Obstacle} (h : OneLine o.cause.message) : OneLine o.message := by
  have hstart : OneLine "failed to start shell: " := by decide
  unfold message
  split
  · exact oneLine_append.2 ⟨hstart, h⟩
  · exact h

namespace RunError

theorem oneLine_text_ofObstacle {command description : String} {o : Obstacle} (hd : OneLine description)
    (hc : OneLine command) (ho : OneLine o.cause.message) :
    OneLine ((ofObstacle command o).inBlock description).text := by
  have hcolon : OneLine ": " := by decide
  have hmessage := o.oneLine_message ho
  simp [text, labelled, inBlock, ofObstacle, ofMessage, atCommand, *]

end RunError

namespace Session

open Evaluation (Keeps)

theorem keeps_attempt (h : shell.Keeps I) (command : String) :
    (attempt shell command).Keeps (fun s => I s.2) fun o => OneLine o.cause.message := by
  rintro ⟨s, w⟩ hw
  have hworld := h.world ((s.write ("> " ++ command)).request command) w hw
  have hfault := h.fault ((s.write ("> " ++ command)).request command) w
  rw [attempt]
  dsimp only
  split <;> rename_i hr <;> rw [hr] at hworld hfault
  · exact ⟨hworld, nofun⟩
  · refine ⟨hworld, ?_⟩
    rintro _ ⟨⟩
    exact hfault _ rfl

theorem keeps_runCommands (h : shell.Keeps I) {description : String} {commands : List String}
    (hd : OneLine description) (hc : ∀ c ∈ commands, OneLine c) :
    (runCommands shell description commands).Keeps (fun s => I s.2) fun e => OneLine e.text := by
  induction commands with
  | nil => exact fun s hs => ⟨hs, nofun⟩
  | cons command commands ih =>
    obtain ⟨hcommand, hcommands⟩ := List.forall_mem_cons.1 hc
    intro s hs
    have hfirst := keeps_attempt h command s hs
    rw [runCommands]
    split <;> rename_i hr <;> rw [hr] at hfirst
    · exact ih hcommands _ hfirst.1
    · exact ⟨hfirst.1, nofun⟩
    · refine ⟨hfirst.1, ?_⟩
      rintro _ ⟨⟩
      exact RunError.oneLine_text_ofObstacle hd hcommand (hfirst.2 _ rfl)

theorem keeps_context (h : shell.Keeps I) :
    (context shell).Keeps OneLine (fun s => I s.2) fun e => OneLine e.text where
  run _ _ hd hc _ hs := keeps_runCommands h hd hc _ hs
  all _ := Keeps.allOf
  any _ := Keeps.anyOf

end Session

namespace Stage

theorem oneLine_reason {stage : Stage} (h : ∀ t ∈ stage.expression.values, OneLine t) : OneLine stage.reason := by
  have hdescription : OneLine (described stage.expression.description) := by
    unfold described
    split
    · decide
    · exact Expression.oneLine_description h
  rw [reason]
  refine oneLine_append.2 ⟨?_, hdescription⟩
  cases stage.kind <;> decide

/-- The reason that stages fail for is on one line. -/
theorem oneLine_firstFailure (h : shell.Keeps I) (stages : List Stage)
    (hv : ∀ stage ∈ stages, ∀ t ∈ stage.expression.values, OneLine t) {s : Session × World κ} (hs : I s.2) :
    I (firstFailure (Session.context shell) stages s).2.2 ∧
      ∀ reason ∈ (firstFailure (Session.context shell) stages s).1, OneLine reason := by
  induction stages generalizing s with
  | nil => exact ⟨hs, nofun⟩
  | cons stage stages ih =>
    obtain ⟨hstage, hstages⟩ := List.forall_mem_cons.1 hv
    have hfirst := Expression.keeps_eval (Session.keeps_context h) stage.expression hstage s hs
    rw [firstFailure]
    split <;> rename_i hr <;> rw [hr] at hfirst
    · exact ih hstages hfirst.1
    · refine ⟨hfirst.1, ?_⟩
      rintro _ ⟨⟩
      exact oneLine_reason hstage
    · refine ⟨hfirst.1, ?_⟩
      rintro _ ⟨⟩
      exact hfirst.2 _ rfl

end Stage

namespace Scenario

/-- The expression of a stage is one of the scenario's. -/
theorem exists_mem_parts {sc : Scenario} {stage : Stage} (h : stage ∈ sc.stages) :
    ∃ d, (d, stage.expression) ∈ sc.parts := by
  rcases List.mem_cons.1 h with rfl | h
  · exact ⟨.precondition, sc.precondition_mem_parts⟩
  · obtain ⟨b, hb, h⟩ := List.mem_flatMap.1 h
    rcases List.mem_append.1 h with h | h
    · obtain ⟨e, he, rfl⟩ := Option.map_eq_some_iff.1 (Option.mem_toList.1 h)
      exact ⟨.action, mem_parts_of_mem_behaviors hb (Behavior.action_mem_parts he)⟩
    · obtain ⟨e, he, rfl⟩ := Option.map_eq_some_iff.1 (Option.mem_toList.1 h)
      exact ⟨.expectation, mem_parts_of_mem_behaviors hb (Behavior.expectation_mem_parts he)⟩

theorem oneLine_name {sc : Scenario} (h : sc.Plain) (index : Nat) : OneLine (sc.name index) := by
  unfold name
  split
  · have hword : OneLine "scenario " := by decide
    exact oneLine_append.2 ⟨hword, oneLine_repr index⟩
  · exact Expression.oneLine_description (h _ List.mem_cons_self)

theorem oneLine_runCleanup (h : shell.Keeps I) (cleanup : Option Expression)
    (hv : ∀ e ∈ cleanup, ∀ t ∈ e.values, OneLine t) {s : Session × World κ} (hs : I s.2) :
    I (runCleanup shell cleanup s).2.2 ∧ ∀ reason ∈ (runCleanup shell cleanup s).1, OneLine reason := by
  cases cleanup with
  | none => exact ⟨hs, nofun⟩
  | some e =>
    have hvalues : ∀ stage ∈ [Stage.mk .cleanup e], ∀ t ∈ stage.expression.values, OneLine t := by
      simpa using hv e rfl
    have hannounced : I (s.1.write "(finally)", s.2).2 := hs
    have hstage := Stage.oneLine_firstFailure h _ hvalues hannounced
    rw [runCleanup]
    split <;> rename_i hr <;> rw [hr] at hstage
    · exact hstage
    · exact hstage

/-- The reason that a scenario fails for is on one line. -/
theorem oneLine_runIn (h : shell.Keeps I) {sc : Scenario} (hsc : sc.Plain) {s : Session × World κ} (hs : I s.2) :
    I (runIn shell sc s).2.2 ∧ ∀ reason ∈ (runIn shell sc s).1, OneLine reason := by
  have hvalues : ∀ stage ∈ sc.stages, ∀ t ∈ stage.expression.values, OneLine t := by
    intro stage hstage
    obtain ⟨d, hd⟩ := exists_mem_parts hstage
    exact hsc _ hd
  have hlast : ∀ e ∈ sc.cleanup, ∀ t ∈ e.values, OneLine t :=
    fun _ he => hsc _ (cleanup_mem_parts he)
  have hstages := Stage.oneLine_firstFailure h sc.stages hvalues hs
  have hcleanup := oneLine_runCleanup h sc.cleanup hlast hstages.1
  rw [runIn]
  refine ⟨hcleanup.1, fun reason hreason => ?_⟩
  rcases Option.or_eq_some_iff.1 hreason with hreason | ⟨-, hreason⟩
  · exact hstages.2 reason hreason
  · exact hcleanup.2 reason hreason

end Scenario

/-- If sandboxes are to be made, the path of the directory for them holds no newline. -/
def Config.RootOneLine (c : Config) (w : World κ) : Prop := c.sandbox = true → OneLine (w.rootText c.root)

theorem Config.keeps_temporaries {c : Config} (h : c.sandbox = true) :
    (World.temporaries : Temporaries κ).Keeps c.RootOneLine c.root := by
  have hon : (c.RootOneLine : World κ → Prop) = fun w => OneLine (w.rootText c.root) := by
    funext w
    exact propext ⟨fun hw => hw h, fun hw _ => hw⟩
  rw [hon]
  exact World.keeps_temporaries c.root

/-- What is printed about a case holds no newline, but for its log. -/
structure Case.Plain (c : Case) : Prop where
  name : OneLine c.name
  reason : ∀ reason ∈ c.reason, OneLine reason
  sandbox : ∀ path ∈ c.sandbox, OneLine path

namespace Scenario

variable {c : Config} {t : Temporaries κ}

theorem oneLine_prepare (ht : c.sandbox = true → t.Keeps I c.root) (hfiles : ∀ w files, I w → I { w with files })
    (index : Nat) {w : World κ} (hw : I w) :
    I (prepare t c index w).2 ∧
      (∀ sandbox, (prepare t c index w).1 = .ok sandbox → ∀ path ∈ sandbox, OneLine path) ∧
      ∀ cause, (prepare t c index w).1 = .error cause → OneLine cause.message := by
  unfold prepare
  split
  · rename_i hs
    obtain ⟨hworld, hpath, hcause⟩ := (ht hs).makeSandbox hfiles index hw
    split <;> rename_i hr <;> rw [hr] at hworld hpath hcause
    · refine ⟨hworld, ?_, nofun⟩
      rintro _ ⟨⟩ _ ⟨⟩
      exact hpath _ rfl
    · refine ⟨hworld, nofun, ?_⟩
      rintro _ ⟨⟩
      exact hcause _ rfl
  · refine ⟨hw, ?_, nofun⟩
    rintro _ ⟨⟩
    nofun

/-- Where there are no sandboxes, none is made. -/
theorem sandbox_of_prepare {index : Nat} {w v : World κ} {path : String}
    (h : prepare t c index w = (.ok (some path), v)) : c.sandbox = true := by
  unfold prepare at h
  split at h
  · assumption
  · cases h

theorem oneLine_dismiss (keep : Bool) {sandbox : Option String} (ht : ∀ path ∈ sandbox, ∀ w, I w → I (t.remove path w))
    {w : World κ} (hw : I w) (hs : ∀ path ∈ sandbox, OneLine path) :
    I (dismiss t keep sandbox w).2 ∧ ∀ path ∈ (dismiss t keep sandbox w).1, OneLine path := by
  cases sandbox with
  | none => exact ⟨hw, nofun⟩
  | some path =>
    rw [dismiss]
    split
    · exact ⟨hw, hs⟩
    · exact ⟨ht path rfl w hw, nofun⟩

/-- A case of a scenario on one line is on one line, whatever its commands write. -/
theorem plain_run (ht : c.sandbox = true → t.Keeps I c.root) (hfiles : ∀ w files, I w → I { w with files })
    (h : shell.Keeps I) {sc : Scenario} (hsc : sc.Plain) (index : Nat) {w : World κ} (hw : I w) :
    I (run t shell c index sc w).2 ∧ (run t shell c index sc w).1.Plain := by
  have hname := oneLine_name hsc index
  obtain ⟨hworld, hpath, hcause⟩ := oneLine_prepare ht hfiles index hw
  rw [run]
  dsimp only
  split
  · exact ⟨hw, hname, nofun, nofun⟩
  · split <;> rename_i hp <;> rw [hp] at hworld hpath hcause
    · refine ⟨hworld, hname, ?_, nofun⟩
      rintro _ ⟨⟩
      have hfailed : OneLine "failed to create workdir: " := by decide
      exact oneLine_append.2 ⟨hfailed, hcause _ rfl⟩
    · rename_i sandbox v
      -- the session has no part in `I`
      have hstart : I (c.session (sandbox.getD c.directory), v).2 := hworld
      have hrun := oneLine_runIn h hsc hstart
      have hremove : ∀ path ∈ sandbox, ∀ w, I w → I (t.remove path w) := by
        rintro path ⟨⟩ u hu
        exact (ht (sandbox_of_prepare hp)).remove path u hu
      have hkept := oneLine_dismiss (c.keep || (runIn shell sc (c.session (sandbox.getD c.directory), v)).1.isSome)
        hremove hrun.1 (hpath _ rfl)
      exact ⟨hkept.1, hname, hrun.2, hkept.2⟩

theorem plain_of_mem_runFrom (ht : c.sandbox = true → t.Keeps I c.root) (hfiles : ∀ w files, I w → I { w with files })
    (h : shell.Keeps I) {ss : List Scenario} (hss : ∀ sc ∈ ss, sc.Plain) (index : Nat) {w : World κ} (hw : I w) :
    ∀ x ∈ (runFrom t shell c index ss w).1, x.Plain := by
  induction ss generalizing index w with
  | nil => nofun
  | cons sc ss ih =>
    obtain ⟨hsc, hss⟩ := List.forall_mem_cons.1 hss
    have hrun := plain_run ht hfiles h hsc index hw
    rw [runFrom]
    exact List.forall_mem_cons.2 ⟨hrun.2, ih hss _ hrun.1⟩

end Scenario

end Acceptance
