import Mathlib.Data.List.Nodup
import Acceptance.Proofs.Run.Log

/-!
# Trials

The trial of an expression is the part of it that an evaluation went through: of a block the commands that were
attempted, each with its outcome, and of a chain the children that were evaluated.  It has the places of its blocks
and commands in common with the expression, so that commands of one text are told apart, and its result can be read
off the outcomes.  Whatever happens when an expression is evaluated has a trial (`Happens.exists_trial`).
-/

namespace Acceptance

variable {κ : Type} {shell : Shell κ} {ask : String → Request}

/-! ### What happens is what an evaluation does -/

theorem Attempts.runCommands_eq {d : String} {cs : List String} {w v : World κ} {hs : List Happening}
    {x : Except RunError Bool} (h : Attempts shell ask d cs w hs x v) {s : Session} (hask : s.request = ask) :
    Session.runCommands shell d cs (s, w) = (x, s.extend hs, v) := by
  induction h generalizing s with
  | done => rw [Session.runCommands, Session.extend_nil]
  | @succeeded c cs w o v hs x u hc ho _ ih =>
    have hnext : (s.extend [.ran c o]).request = ask := hask
    rw [Session.runCommands, Session.attempt_eq, hask, hc]
    simp only [Output.succeeded_iff.2 ho, ih hnext, ← Session.extend_append, List.singleton_append]
  | @failed c cs w o v hc ho =>
    have hfailed : o.succeeded = false := Bool.eq_false_iff.2 (mt Output.succeeded_iff.1 ho)
    rw [Session.runCommands, Session.attempt_eq, hask, hc]
    simp only [hfailed]
  | @refused c cs w cause v hc =>
    rw [Session.runCommands, Session.attempt_eq, hask, hc]
    simp only [cause.ofObstacle_eq]

mutual

/-- What can happen when an expression is evaluated is what its evaluation does. -/
theorem Happens.eval_eq {e : Expression} {w v : World κ} {hs : List Happening} {x : Except RunError Bool}
    {s : Session} (hask : s.request = ask) :
    Happens shell ask e w hs x v → e.eval (Session.context shell) (s, w) = (x, s.extend hs, v)
  | .block (d := d) h => by
    have hentered : (s.extend [.entered d]).request = ask := hask
    have hcommands := h.runCommands_eq hentered
    rw [← Session.extend_append, List.singleton_append, ← Session.enter_eq] at hcommands
    exact hcommands
  | .all h => h.evals_eq hask
  | .any h => h.evals_eq hask

theorem HappensEach.evals_eq {b : Bool} {es : List Expression} {w v : World κ} {hs : List Happening}
    {x : Except RunError Bool} {s : Session} (hask : s.request = ask) :
    HappensEach shell ask b es w hs x v →
      Evaluation.whileIs b (Expression.evals (Session.context shell) es) (s, w) = (x, s.extend hs, v)
  | .done => by
    rw [Session.extend_nil]
    cases b <;> rfl
  | .next h hrest => by
    -- the first child changes the log and the history, and so nothing that is asked for after it
    rw [Expression.evals, Evaluation.whileIs_cons_of_eq (h.eval_eq hask), hrest.evals_eq (s := s.extend _) hask,
      Session.extend_append]
  | .stop h hne => by
    have hfirst := h.eval_eq hask
    exact (Evaluation.whileIs_cons_of_ne (by rwa [hfirst]) _).trans hfirst

end

/-! ### Commands in their places -/

/-- A command in an expression: the positions of the children that lead to its block, the description of the block and
its position there. -/
structure Occurrence where
  path : List Nat
  description : String
  position : Nat
  command : String
deriving DecidableEq, Repr

namespace Occurrence

/-- The same command, in an expression that has the one around it at a path. -/
def under (p : List Nat) (o : Occurrence) : Occurrence := { o with path := p ++ o.path }

theorem under_injective (p : List Nat) : Function.Injective (under p) := by
  intro o o' h
  obtain ⟨path, d, i, c⟩ := o
  obtain ⟨path', d', i', c'⟩ := o'
  simp only [under, mk.injEq, List.append_cancel_left_eq] at h ⊢
  exact h

end Occurrence

namespace Expression

def children : Expression → List Expression
  | .block .. => []
  | .all es => es
  | .any es => es

/-- The part of an expression at a path. -/
def at? : List Nat → Expression → Option Expression
  | [], e => some e
  | i :: p, e => e.children[i]?.bind (at? p)

mutual

/-- The commands of an expression, from left to right. -/
def occurrences : Expression → List Occurrence
  | .block d cs => cs.mapIdx fun i c => ⟨[], d, i, c⟩
  | .all es => occurrencesFrom 0 es
  | .any es => occurrencesFrom 0 es

def occurrencesFrom (i : Nat) : List Expression → List Occurrence
  | [] => []
  | e :: es => e.occurrences.map (Occurrence.under [i]) ++ occurrencesFrom (i + 1) es

end

theorem exists_path_of_mem_occurrencesFrom {i : Nat} {es : List Expression} {o : Occurrence}
    (h : o ∈ occurrencesFrom i es) : ∃ j p, i ≤ j ∧ o.path = j :: p := by
  induction es generalizing i with
  | nil => cases h
  | cons e es ih =>
    rw [occurrencesFrom] at h
    rcases List.mem_append.1 h with h | h
    · obtain ⟨o, -, rfl⟩ := List.mem_map.1 h
      exact ⟨i, o.path, le_rfl, rfl⟩
    · obtain ⟨j, p, hj, hp⟩ := ih h
      exact ⟨j, p, by omega, hp⟩

mutual

theorem nodup_occurrences : (e : Expression) → e.occurrences.Nodup
  | .block d cs => by
    rw [occurrences, List.nodup_iff_injective_get]
    intro i j h
    have hposition := congrArg Occurrence.position h
    simpa [Fin.ext_iff] using hposition
  | .all es => nodup_occurrencesFrom 0 es
  | .any es => nodup_occurrencesFrom 0 es

theorem nodup_occurrencesFrom (i : Nat) : (es : List Expression) → (occurrencesFrom i es).Nodup
  | [] => List.nodup_nil
  | e :: es => by
    rw [occurrencesFrom, List.nodup_append]
    refine ⟨(nodup_occurrences e).map (Occurrence.under_injective [i]), nodup_occurrencesFrom (i + 1) es, ?_⟩
    -- the paths in the later children begin with greater positions
    rintro _ ho o' ho' rfl
    obtain ⟨o, -, rfl⟩ := List.mem_map.1 ho
    obtain ⟨j, p, hj, hp⟩ := exists_path_of_mem_occurrencesFrom ho'
    have hij : i = j := List.head_eq_of_cons_eq hp
    omega

end

end Expression

/-! ### Outcomes and results -/

/-- What came of a command. -/
abbrev Outcome := Except Obstacle Output

def Outcome.Succeeded (x : Outcome) : Prop := ∃ output, x = .ok output ∧ output.ending = .exited 0

/-- A command that was attempted. -/
structure Attempt where
  occurrence : Occurrence
  outcome : Outcome

namespace Attempt

def path (a : Attempt) : List Nat := a.occurrence.path

def answer (a : Attempt) : String × Outcome := (a.occurrence.command, a.outcome)

def under (p : List Nat) (a : Attempt) : Attempt := { a with occurrence := a.occurrence.under p }

/-- The error of a command that gave no output: it names the command and the block that it stands in. -/
def blame (a : Attempt) (o : Obstacle) : RunError := o.error a.occurrence.description a.occurrence.command

end Attempt

/-- What was attempted and what came of it, if anything was. -/
def Happening.answer? : Happening → Option (String × Outcome)
  | entered _ => none
  | ran command output => some (command, .ok output)
  | refused command cause => some (command, .error cause)

/-- Each outcome is an answer of the shell. -/
theorem Attempts.exists_answer {d : String} {cs : List String} {w v : World κ} {hs : List Happening}
    {x : Except RunError Bool} (h : Attempts shell ask d cs w hs x v) {a : String × Outcome}
    (ha : a ∈ hs.filterMap Happening.answer?) : ∃ u, (shell (ask a.1) u).1 = a.2 := by
  induction h with
  | done => cases ha
  | succeeded hc _ _ ih =>
    rcases List.mem_cons.1 ha with rfl | ha
    · exact ⟨_, congrArg Prod.fst hc⟩
    · exact ih ha
  | failed hc _ =>
    obtain rfl := List.mem_singleton.1 ha
    exact ⟨_, congrArg Prod.fst hc⟩
  | refused hc =>
    obtain rfl := List.mem_singleton.1 ha
    exact ⟨_, congrArg Prod.fst hc⟩

mutual

theorem Happens.exists_answer {e : Expression} {w v : World κ} {hs : List Happening} {x : Except RunError Bool}
    {a : String × Outcome} : Happens shell ask e w hs x v → a ∈ hs.filterMap Happening.answer? →
      ∃ u, (shell (ask a.1) u).1 = a.2
  | .block h => fun ha => h.exists_answer ha
  | .all h => h.exists_answer
  | .any h => h.exists_answer

theorem HappensEach.exists_answer {b : Bool} {es : List Expression} {w v : World κ} {hs : List Happening}
    {x : Except RunError Bool} {a : String × Outcome} : HappensEach shell ask b es w hs x v →
      a ∈ hs.filterMap Happening.answer? → ∃ u, (shell (ask a.1) u).1 = a.2
  | .done => nofun
  | .next h hrest => fun ha => by
    rw [List.filterMap_append, List.mem_append] at ha
    exact ha.elim h.exists_answer hrest.exists_answer
  | .stop h _ => h.exists_answer

end

/-- What a command in a block of description `d` contributes to the block. -/
def commandResult (d : String) : String × Outcome → Except RunError Bool
  | (_, .ok output) => .ok (output.ending = .exited 0)
  | (command, .error cause) => .error (cause.error d command)

/-- The first result that is not `b`, and `b` if there is none. -/
def firstOther (b : Bool) : List (Except RunError Bool) → Except RunError Bool
  | [] => .ok b
  | x :: xs => if x = .ok b then firstOther b xs else x

/-- What was tried of an expression. -/
inductive Trial where
  | block (description : String) (answers : List (String × Outcome))
  | all (children : List Trial)
  | any (children : List Trial)

namespace Trial

def children : Trial → List Trial
  | .block .. => []
  | .all ts => ts
  | .any ts => ts

def at? : List Nat → Trial → Option Trial
  | [], t => some t
  | i :: p, t => t.children[i]?.bind (at? p)

mutual

/-- The result of an evaluation, by the outcomes of its commands. -/
def result : Trial → Except RunError Bool
  | .block d answers => firstOther true (answers.map (commandResult d))
  | .all ts => firstOther true (results ts)
  | .any ts => firstOther false (results ts)

def results : List Trial → List (Except RunError Bool)
  | [] => []
  | t :: ts => t.result :: results ts

end

mutual

/-- The commands that were attempted, in order. -/
def attempts : Trial → List Attempt
  | .block d answers => answers.mapIdx fun i a => ⟨⟨[], d, i, a.1⟩, a.2⟩
  | .all ts => attemptsFrom 0 ts
  | .any ts => attemptsFrom 0 ts

def attemptsFrom (i : Nat) : List Trial → List Attempt
  | [] => []
  | t :: ts => t.attempts.map (Attempt.under [i]) ++ attemptsFrom (i + 1) ts

end

/-- What the part of the expression at a path was found to be, if it was evaluated. -/
def found? (p : List Nat) (t : Trial) : Option (Except RunError Bool) := (t.at? p).map result

/-! ### Trials of evaluations -/

/-- The trial tells what happens when an expression is evaluated, from one world to another. -/
def Tells (shell : Shell κ) (ask : String → Request) (t : Trial) (e : Expression) (w v : World κ) : Prop :=
  ∃ hs, Happens shell ask e w hs t.result v ∧ hs.filterMap Happening.answer? = t.attempts.map Attempt.answer

/-- Commands are attempted in order, up to the first that does not succeed. -/
structure UpToFirst (answers : List (String × Outcome)) (commands : List String) : Prop where
  inOrder : answers.map Prod.fst <+: commands
  /-- Only the last may not have succeeded. -/
  onlyLast : ∀ a ∈ answers.dropLast, Outcome.Succeeded a.2
  /-- Only a command that does not succeed keeps others from being attempted. -/
  complete : (∀ a ∈ answers, Outcome.Succeeded a.2) → answers.map Prod.fst = commands

mutual

/-- The trial goes along with an expression, and each part of it tells what happened there. -/
inductive Follows (shell : Shell κ) (ask : String → Request) : Trial → Expression → Prop
  | block {d as cs w v} : Tells shell ask (.block d as) (.block d cs) w v → UpToFirst as cs →
      Follows shell ask (.block d as) (.block d cs)
  | all {ts es w v} : Tells shell ask (.all ts) (.all es) w v → FollowsEach shell ask true ts es →
      Follows shell ask (.all ts) (.all es)
  | any {ts es w v} : Tells shell ask (.any ts) (.any es) w v → FollowsEach shell ask false ts es →
      Follows shell ask (.any ts) (.any es)

/-- The trials go along with expressions up to the first that is not `b`. -/
inductive FollowsEach (shell : Shell κ) (ask : String → Request) : Bool → List Trial → List Expression → Prop
  | done {b} : FollowsEach shell ask b [] []
  | next {b t ts e es} : Follows shell ask t e → t.result = .ok b → FollowsEach shell ask b ts es →
      FollowsEach shell ask b (t :: ts) (e :: es)
  | stop {b t e es} : Follows shell ask t e → t.result ≠ .ok b → FollowsEach shell ask b [t] (e :: es)

end

namespace UpToFirst

theorem ofStopped {x : Outcome} (hx : ¬ x.Succeeded) (c : String) (cs : List String) : UpToFirst [(c, x)] (c :: cs) :=
  ⟨⟨cs, rfl⟩, nofun, fun h => absurd (h (c, x) List.mem_cons_self) hx⟩

theorem ofSucceeded {as : List (String × Outcome)} {cs : List String} {x : Outcome} (hx : x.Succeeded) (c : String)
    (h : UpToFirst as cs) : UpToFirst ((c, x) :: as) (c :: cs) := by
  refine ⟨List.cons_prefix_cons.2 ⟨rfl, h.inOrder⟩, ?_, fun hall => ?_⟩
  · cases as with
    | nil => nofun
    | cons a as => exact List.forall_mem_cons.2 ⟨hx, h.onlyLast⟩
  · rw [List.map_cons, h.complete (List.forall_mem_cons.1 hall).2]

end UpToFirst

theorem map_answer_block (d : String) (as : List (String × Outcome)) :
    (block d as).attempts.map Attempt.answer = as := by
  apply List.ext_getElem
  · simp [attempts]
  · intro i _ _
    simp [attempts, Attempt.answer]

end Trial

open Trial (UpToFirst)

/-- The commands of a block are attempted up to the first that does not succeed, and the result is that of this one. -/
theorem Attempts.exists_answers {d : String} {cs : List String} {w v : World κ} {hs : List Happening}
    {x : Except RunError Bool} (h : Attempts shell ask d cs w hs x v) :
    ∃ as, UpToFirst as cs ∧ firstOther true (as.map (commandResult d)) = x ∧
      hs.filterMap Happening.answer? = as := by
  induction h with
  | done => exact ⟨[], ⟨List.nil_prefix, nofun, fun _ => rfl⟩, rfl, rfl⟩
  | @succeeded c cs w o v hs x u hc ho _ ih =>
    obtain ⟨as, has, hx, hhs⟩ := ih
    refine ⟨(c, .ok o) :: as, has.ofSucceeded ⟨o, rfl, ho⟩ c, ?_, ?_⟩
    · simp [firstOther, commandResult, ho, hx]
    · simp [Happening.answer?, hhs]
  | @failed c cs w o v hc ho =>
    have hfailed : ¬ Outcome.Succeeded (.ok o) := by simp [Outcome.Succeeded, ho]
    refine ⟨[(c, .ok o)], .ofStopped hfailed c cs, ?_, rfl⟩
    simp [firstOther, commandResult, ho]
  | @refused c cs w cause v hc =>
    have hfailed : ¬ Outcome.Succeeded (.error cause) := by simp [Outcome.Succeeded]
    refine ⟨[(c, .error cause)], .ofStopped hfailed c cs, ?_, rfl⟩
    simp [firstOther, commandResult]

mutual

/-- Whatever happens when an expression is evaluated has a trial. -/
theorem Happens.exists_trial {e : Expression} {w v : World κ} {hs : List Happening} {x : Except RunError Bool} :
    Happens shell ask e w hs x v → ∃ t : Trial, t.Follows shell ask e ∧ t.result = x ∧
      hs.filterMap Happening.answer? = t.attempts.map Attempt.answer
  | .block (d := d) h => by
    obtain ⟨as, has, rfl, hhs⟩ := h.exists_answers
    have hanswers := hhs.trans (Trial.map_answer_block d as).symm
    exact ⟨.block d as, .block ⟨_, .block h, hanswers⟩ has, rfl, hanswers⟩
  | .all h => by
    obtain ⟨ts, hts, rfl, hhs⟩ := h.exists_trials
    exact ⟨.all ts, .all ⟨_, .all h, hhs 0⟩ hts, rfl, hhs 0⟩
  | .any h => by
    obtain ⟨ts, hts, rfl, hhs⟩ := h.exists_trials
    exact ⟨.any ts, .any ⟨_, .any h, hhs 0⟩ hts, rfl, hhs 0⟩

theorem HappensEach.exists_trials {b : Bool} {es : List Expression} {w v : World κ} {hs : List Happening}
    {x : Except RunError Bool} : HappensEach shell ask b es w hs x v →
      ∃ ts, Trial.FollowsEach shell ask b ts es ∧ firstOther b (Trial.results ts) = x ∧
        ∀ i, hs.filterMap Happening.answer? = (Trial.attemptsFrom i ts).map Attempt.answer
  | .done => ⟨[], .done, rfl, fun _ => rfl⟩
  | .next h hrest => by
    obtain ⟨t, ht, hb, hhs⟩ := h.exists_trial
    obtain ⟨ts, hts, hx, hhss⟩ := hrest.exists_trials
    refine ⟨t :: ts, .next ht hb hts, ?_, fun i => ?_⟩
    · rw [Trial.results, firstOther, if_pos hb, hx]
    · -- places do not show in the answers
      rw [List.filterMap_append, hhs, hhss (i + 1), Trial.attemptsFrom, List.map_append, List.map_map]
      rfl
  | .stop h hne => by
    obtain ⟨t, ht, rfl, hhs⟩ := h.exists_trial
    refine ⟨[t], .stop ht hne, ?_, fun i => ?_⟩
    · rw [Trial.results, firstOther, if_neg hne]
    · rw [hhs, Trial.attemptsFrom, Trial.attemptsFrom, List.append_nil, List.map_map]
      rfl

end

end Acceptance
