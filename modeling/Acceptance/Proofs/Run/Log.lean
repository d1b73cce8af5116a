import Acceptance.Proofs.Evaluation.Keeps
import Acceptance.Proofs.Spec.Layout
import Acceptance.Run.Session

/-!
# The log of an evaluation

What happens in an evaluation depends on the shell, and not on the log (`Happens`): commands are attempted up to the
first that does not succeed, and children are evaluated up to the one that decides.  Every happening has its entries,
and an evaluation adds the entries of what happened to the log, in order, and nothing else (`Expression.eval_logged`).
-/

namespace Acceptance

variable {κ : Type}

/-! ### Entries -/

/-- How a command ended, unless it succeeded. -/
def Ending.entries : Ending → List String
  | .exited code => if code = 0 then [] else [s!"[exit code {code}]"]
  | .signalled => ["[killed by signal]"]

/-- What a command wrote, under a heading, unless it wrote nothing. -/
def sectionEntries (heading : String) (bytes : List UInt8) : List String :=
  if bytes = [] then [] else [heading ++ "\n" ++ decode bytes]

def Happening.entries : Happening → List String
  | .entered description => if description = "" then [] else ["# " ++ description]
  | .ran command output =>
    ("> " ++ command) :: (sectionEntries "[stdout]" output.stdout ++ sectionEntries "[stderr]" output.stderr ++
      output.ending.entries)
  | .refused command _ => ["> " ++ command]

/-- The text of entries, each of which ends in a newline. -/
def entriesText (entries : List String) : String := String.join (entries.map Session.terminated)

def logged (hs : List Happening) : String := entriesText (hs.flatMap Happening.entries)

theorem entriesText_append (ts ts' : List String) : entriesText (ts ++ ts') = entriesText ts ++ entriesText ts' := by
  apply String.toList_injective
  simp [entriesText, String.toList_join]

theorem logged_append (hs hs' : List Happening) : logged (hs ++ hs') = logged hs ++ logged hs' := by
  rw [logged, List.flatMap_append, entriesText_append, logged, logged]

theorem atStart_terminated (text : String) : AtStart (Session.terminated text).toList := by
  intro c hc
  rw [Session.terminated] at hc
  split at hc
  · rename_i h
    exact Option.some_inj.1 (hc.symm.trans h)
  · simpa using hc.symm

theorem atStart_entriesText (entries : List String) : AtStart (entriesText entries).toList := by
  induction entries with
  | nil => nofun
  | cons t ts ih =>
    rw [← List.singleton_append, entriesText_append, String.toList_append]
    refine AtStart.append ?_ ih
    have hone : entriesText [t] = Session.terminated t := by simp [entriesText, String.join]
    rw [hone]
    exact atStart_terminated t

/-! ### What happens -/

theorem Output.succeeded_iff {o : Output} : o.succeeded = true ↔ o.ending = .exited 0 := beq_iff_eq

/-- The error of a command that gave no output, in a block of the given description. -/
def Obstacle.error (o : Obstacle) (description command : String) : RunError where
  kind := o.kind
  message :=
    match o.kind with
    | .spawn => "failed to start shell: " ++ o.cause.message
    | .wait => o.cause.message
  description := some description
  command := some command

theorem Obstacle.ofObstacle_eq (o : Obstacle) (description command : String) :
    (RunError.ofObstacle command o).inBlock description = o.error description command := by
  obtain ⟨kind, cause⟩ := o
  cases kind <;> rfl

/-- What happens when a shell is asked for commands in a block of description `d`, one after the other: the result,
and the world after them. -/
inductive Attempts (shell : Shell κ) (ask : String → Request) (d : String) :
    List String → World κ → List Happening → Except RunError Bool → World κ → Prop
  | done {w} : Attempts shell ask d [] w [] (.ok true) w
  | succeeded {c cs w o v hs x u} : shell (ask c) w = (.ok o, v) → o.ending = .exited 0 →
      Attempts shell ask d cs v hs x u → Attempts shell ask d (c :: cs) w (.ran c o :: hs) x u
  | failed {c cs w o v} : shell (ask c) w = (.ok o, v) → o.ending ≠ .exited 0 →
      Attempts shell ask d (c :: cs) w [.ran c o] (.ok false) v
  | refused {c cs w cause v} : shell (ask c) w = (.error cause, v) →
      Attempts shell ask d (c :: cs) w [.refused c cause] (.error (cause.error d c)) v

mutual

/-- What happens when an expression is evaluated. -/
inductive Happens (shell : Shell κ) (ask : String → Request) :
    Expression → World κ → List Happening → Except RunError Bool → World κ → Prop
  | block {d cs w hs x v} : Attempts shell ask d cs w hs x v → Happens shell ask (.block d cs) w (.entered d :: hs) x v
  | all {es w hs x v} : HappensEach shell ask true es w hs x v → Happens shell ask (.all es) w hs x v
  | any {es w hs x v} : HappensEach shell ask false es w hs x v → Happens shell ask (.any es) w hs x v

/-- What happens when expressions are evaluated as long as they are `b`. -/
inductive HappensEach (shell : Shell κ) (ask : String → Request) :
    Bool → List Expression → World κ → List Happening → Except RunError Bool → World κ → Prop
  | done {b w} : HappensEach shell ask b [] w [] (.ok b) w
  | next {b e es w hs v hs' x u} : Happens shell ask e w hs (.ok b) v → HappensEach shell ask b es v hs' x u →
      HappensEach shell ask b (e :: es) w (hs ++ hs') x u
  | stop {b e es w hs x v} : Happens shell ask e w hs x v → x ≠ .ok b → HappensEach shell ask b (e :: es) w hs x v

end

/-! ### Sessions and their logs -/

namespace Session

/-- The session after happenings, of which nothing but the log and the history tells. -/
def extend (hs : List Happening) (s : Session) : Session :=
  { s with log := s.log ++ logged hs, history := s.history ++ hs }

theorem extend_nil (s : Session) : s.extend [] = s := by
  simp [extend, logged, entriesText]

theorem extend_append (hs hs' : List Happening) (s : Session) : s.extend (hs ++ hs') = (s.extend hs).extend hs' := by
  simp only [extend, logged_append, String.append_assoc, List.append_assoc]

def writeAll (ts : List String) (s : Session) : Session := { s with log := s.log ++ entriesText ts }

theorem writeAll_nil (s : Session) : s.writeAll [] = s := by
  simp [writeAll, entriesText]

theorem writeAll_append (ts ts' : List String) (s : Session) :
    s.writeAll (ts ++ ts') = (s.writeAll ts).writeAll ts' := by
  simp only [writeAll, entriesText_append, String.append_assoc]

theorem write_eq (t : String) (s : Session) : s.write t = s.writeAll [t] := by
  simp [write, writeAll, entriesText, String.join]

theorem writeSection_eq (heading : String) (bytes : List UInt8) (s : Session) :
    s.writeSection heading bytes = s.writeAll (sectionEntries heading bytes) := by
  by_cases h : bytes = []
  · have hempty : decode bytes = "" := by rw [h]; rfl
    rw [writeSection, if_pos hempty, sectionEntries, if_pos h, writeAll_nil]
  · -- bytes that are not a character are read as one
    have hread : decode bytes ≠ "" := by
      intro hd
      have hnil := congrArg String.toList hd
      rw [decode, String.toList_ofList] at hnil
      exact readBytes_ne_nil sound_none (.inr h) hnil
    rw [writeSection, if_neg hread, sectionEntries, if_neg h, write_eq]

theorem writeOutput_eq (o : Output) (s : Session) :
    s.writeOutput o = s.writeAll (sectionEntries "[stdout]" o.stdout ++ sectionEntries "[stderr]" o.stderr ++
      o.ending.entries) := by
  rw [writeOutput, writeSection_eq, writeSection_eq, writeAll_append, writeAll_append]
  cases o.ending with
  | exited code =>
    cases code with
    | zero => exact (writeAll_nil _).symm
    | succ code => exact write_eq _ _
  | signalled => exact write_eq _ _

theorem record_writeAll (h : Happening) (s : Session) : (s.writeAll h.entries).record h = s.extend [h] := by
  rw [extend, logged, List.flatMap_singleton]
  rfl

theorem enter_eq (d : String) (s : Session) : s.enter d = s.extend [.entered d] := by
  have hwrite : (if d = "" then s else s.write ("# " ++ d)) = s.writeAll (Happening.entered d).entries := by
    rw [Happening.entries]
    split
    · rw [writeAll_nil]
    · rw [write_eq]
  rw [enter, hwrite, record_writeAll]

theorem attempt_eq (shell : Shell κ) (c : String) (s : Session) (w : World κ) :
    attempt shell c (s, w) =
      match shell (s.request c) w with
      | (.ok o, v) => (.ok o.succeeded, s.extend [.ran c o], v)
      | (.error cause, v) => (.error cause, s.extend [.refused c cause], v) := by
  have hrequest : (s.write ("> " ++ c)).request c = s.request c := rfl
  rw [attempt]
  simp only [hrequest]
  cases shell (s.request c) w with
  | mk x v =>
    cases x with
    | ok o =>
      have hwrite : (s.write ("> " ++ c)).writeOutput o = s.writeAll (Happening.ran c o).entries := by
        rw [write_eq, writeOutput_eq, ← writeAll_append, Happening.entries, List.singleton_append]
      simp only [hwrite, record_writeAll]
    | error cause =>
      have hwrite : s.write ("> " ++ c) = s.writeAll (Happening.refused c cause).entries := write_eq _ s
      simp only [hwrite, record_writeAll]

end Session

/-! ### Evaluations that are logged -/

/-- From every session and world the evaluation does what `H` allows, and the session tells of that and nothing else. -/
def Evaluation.Logs (H : (String → Request) → World κ → List Happening → Except RunError Bool → World κ → Prop)
    (e : Evaluation (Session × World κ) RunError) : Prop :=
  ∀ s w, ∃ hs, H s.request w hs (e (s, w)).1 (e (s, w)).2.2 ∧ (e (s, w)).2.1 = s.extend hs

theorem Session.logs_runCommands (shell : Shell κ) (d : String) (cs : List String) :
    (runCommands shell d cs).Logs fun ask => Attempts shell ask d cs := by
  induction cs with
  | nil => exact fun s w => ⟨[], .done, (extend_nil s).symm⟩
  | cons c cs ih =>
    intro s w
    rw [runCommands, attempt_eq]
    cases hc : shell (s.request c) w with
    | mk x v =>
      cases x with
      | error cause => exact ⟨[.refused c cause], by simpa [cause.ofObstacle_eq] using .refused hc, rfl⟩
      | ok o =>
        cases ho : o.succeeded with
        | false =>
          have hending : o.ending ≠ .exited 0 := fun h => by simp [Output.succeeded_iff.2 h] at ho
          exact ⟨[.ran c o], by simpa [ho] using .failed hc hending, by simp [ho]⟩
        | true =>
          -- the session asks for the other commands as before, since only its log and history are longer
          obtain ⟨hs, hattempts, hsession⟩ := ih (s.extend [.ran c o]) v
          refine ⟨.ran c o :: hs, ?_, ?_⟩
          · simpa [ho] using .succeeded hc (Output.succeeded_iff.1 ho) hattempts
          · simpa [ho, ← extend_append] using hsession

theorem Session.logs_runBlock (shell : Shell κ) (d : String) (cs : List String) :
    (runBlock shell d cs).Logs fun ask => Happens shell ask (.block d cs) := by
  intro s w
  have hblock : runBlock shell d cs (s, w) = runCommands shell d cs (s.extend [.entered d], w) := by
    rw [runBlock, enter_eq]
  obtain ⟨hs, hattempts, hsession⟩ := logs_runCommands shell d cs (s.extend [.entered d]) w
  rw [hblock]
  refine ⟨.entered d :: hs, .block hattempts, ?_⟩
  rw [hsession, ← extend_append, List.singleton_append]

namespace Expression

variable (shell : Shell κ)

mutual

theorem logs_eval : (e : Expression) →
    (e.eval (Session.context shell)).Logs fun ask => Happens shell ask e
  | .block d cs => by
    rw [eval]
    exact Session.logs_runBlock shell d cs
  | .all children => by
    intro s w
    obtain ⟨hs, heach, hsession⟩ := logs_evals true children s w
    exact ⟨hs, .all heach, hsession⟩
  | .any children => by
    intro s w
    obtain ⟨hs, heach, hsession⟩ := logs_evals false children s w
    exact ⟨hs, .any heach, hsession⟩

theorem logs_evals (b : Bool) : (es : List Expression) →
    (Evaluation.whileIs b (evals (Session.context shell) es)).Logs fun ask => HappensEach shell ask b es
  | [] => fun s w => by
    refine ⟨[], ?_, ?_⟩
    · cases b <;> exact .done
    · cases b <;> exact s.extend_nil.symm
  | e :: es => fun s w => by
    obtain ⟨hs, hfirst, hsession⟩ := logs_eval e s w
    rw [evals]
    by_cases hb : (e.eval (Session.context shell) (s, w)).1 = .ok b
    · -- the evaluation goes on from the session and the world that the first child leaves
      obtain ⟨hs', hrest, hsession'⟩ := logs_evals b es (s.extend hs) (e.eval (Session.context shell) (s, w)).2.2
      have hstep : e.eval (Session.context shell) (s, w) =
          (.ok b, s.extend hs, (e.eval (Session.context shell) (s, w)).2.2) :=
        Prod.ext hb (Prod.ext hsession rfl)
      rw [hb] at hfirst
      rw [Evaluation.whileIs_cons_of_eq hstep]
      exact ⟨hs ++ hs', .next hfirst hrest, by rw [hsession', Session.extend_append]⟩
    · rw [Evaluation.whileIs_cons_of_ne hb]
      exact ⟨hs, .stop hfirst hb, hsession⟩

end

/-- Whatever the shell does and however the evaluation ends, the log grows by the entries of what happened, in order,
and by nothing else, so a log that is empty or ends in a newline stays so. -/
theorem eval_logged (e : Expression) (s : Session) (w : World κ) :
    let r := e.eval (Session.context shell) (s, w)
    ∃ hs, Happens shell s.request e w hs r.1 r.2.2 ∧
      r.2.1 = { s with log := s.log ++ logged hs, history := s.history ++ hs } ∧
      (AtStart s.log.toList → AtStart r.2.1.log.toList) := by
  intro r
  obtain ⟨hs, hhappens, hsession⟩ := logs_eval shell e s w
  refine ⟨hs, hhappens, hsession, fun hlog => ?_⟩
  have hr : r.2.1.log.toList = s.log.toList ++ (logged hs).toList := by
    rw [show r.2.1 = s.extend hs from hsession, ← String.toList_append]
    rfl
  rw [hr]
  exact AtStart.append hlog (atStart_entriesText _)

/-- A chain that goes on after a command is killed, and breaks off at a command that is not run. -/
theorem eval_logged_refused :
    let shell : Shell Unit := fun r w =>
      (match r.command with
        | "x" => .ok ⟨[0xFF], [], .exited 0⟩
        | "y" => .ok ⟨[], encode "no\n", .signalled⟩
        | "z" => .ok ⟨[], [], .exited 3⟩
        | _ => .error ⟨.spawn, .nulInArgument⟩, w)
    let e : Expression :=
      .any [.all [.block "a" ["x", "y", "x"], .block "b" ["x"]], .block "" ["z"], .block "c" ["u"], .block "f" ["x"]]
    let s := (Session.inDirectory "d").write "before"
    let w : World Unit := ⟨⟨[]⟩, ["d"], "t", 0, ()⟩
    let r := e.eval (Session.context shell) (s, w)
    (∃ hs, Happens shell s.request e w hs r.1 r.2.2 ∧
      r.2.1 = { s with log := s.log ++ logged hs, history := s.history ++ hs } ∧
      (AtStart s.log.toList → AtStart r.2.1.log.toList)) ∧
    AtStart s.log.toList ∧ AtStart r.2.1.log.toList ∧
      r.1 = .error (Obstacle.error ⟨.spawn, .nulInArgument⟩ "c" "u") ∧
      r.2.1.log = "before\n# a\n> x\n[stdout]\n\uFFFD\n> y\n[stderr]\nno\n[killed by signal]\n" ++
        "> z\n[exit code 3]\n# c\n> u\n" := by
  intro shell e s w r
  have hstart : AtStart s.log.toList := by decide +kernel
  obtain ⟨hs, hhappens, hsession, hlog⟩ := eval_logged shell e s w
  refine ⟨⟨hs, hhappens, hsession, hlog⟩, hstart, hlog hstart, ?_, ?_⟩
  · rfl
  · decide +kernel

end Expression

end Acceptance
