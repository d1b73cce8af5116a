import Acceptance.Proofs.Evaluation.Keeps
import Acceptance.Proofs.Run.Log

/-!
# Chains in chains

To evaluate a chain is to evaluate its children one after the other as long as they have the value at which it goes
on.  This is associative, so a chain among the children of a chain of its kind may be replaced by its own children,
and a chain of one child is that child.  A block is such a sequence of commands and can be divided; the second part is
a block without a description, which is entered silently.  Only the error of a command in the second part can tell
(`Expression.eval_regrouped`).
-/

namespace Acceptance

variable {σ ε κ : Type}

/-! ### Sequences of evaluations -/

namespace Evaluation

/-- Goes on with the second evaluation if the value of the first is `b`. -/
def thenIf (b : Bool) (e f : Evaluation σ ε) : Evaluation σ ε := fun s =>
  match e s with
  | (.ok v, t) => if v = b then f t else (.ok v, t)
  | (.error x, t) => (.error x, t)

variable {b : Bool} {e f : Evaluation σ ε}

theorem thenIf_of_eq {s t : σ} (h : e s = (.ok b, t)) : e.thenIf b f s = f t := by
  simp [thenIf, h]

theorem thenIf_of_ne {s : σ} (h : (e s).1 ≠ .ok b) : e.thenIf b f s = e s := by
  rw [thenIf]
  obtain ⟨⟨x, t⟩, hs⟩ : ∃ y, e s = y := ⟨_, rfl⟩
  rw [hs] at h ⊢
  rcases x with x | v
  · rfl
  · exact if_neg fun hv => h (congrArg Except.ok hv)

theorem thenIf_assoc (e f g : Evaluation σ ε) : (e.thenIf b f).thenIf b g = e.thenIf b (f.thenIf b g) := by
  funext s
  by_cases h : (e s).1 = .ok b
  · have hs : e s = (.ok b, (e s).2) := Prod.ext h rfl
    rw [thenIf_of_eq hs, thenIf, thenIf_of_eq hs, thenIf]
  · have hs : (e.thenIf b f s).1 ≠ .ok b := by rwa [thenIf_of_ne h]
    rw [thenIf_of_ne hs, thenIf_of_ne h, thenIf_of_ne h]

theorem whileIs_nil_thenIf (f : Evaluation σ ε) : (whileIs b []).thenIf b f = f := by
  funext s
  cases b <;> rfl

theorem thenIf_whileIs_nil (e : Evaluation σ ε) : e.thenIf b (whileIs b []) = e := by
  funext s
  by_cases h : (e s).1 = .ok b
  · have hs : e s = (.ok b, (e s).2) := Prod.ext h rfl
    rw [thenIf_of_eq hs, hs]
    cases b <;> rfl
  · exact thenIf_of_ne h

theorem whileIs_cons (e : Evaluation σ ε) (es : List (Evaluation σ ε)) :
    whileIs b (e :: es) = e.thenIf b (whileIs b es) := by
  funext s
  by_cases h : (e s).1 = .ok b
  · have hs : e s = (.ok b, (e s).2) := Prod.ext h rfl
    rw [whileIs_cons_of_eq hs, thenIf_of_eq hs]
  · rw [whileIs_cons_of_ne h, thenIf_of_ne h]

theorem whileIs_singleton (e : Evaluation σ ε) : whileIs b [e] = e := by
  rw [whileIs_cons, thenIf_whileIs_nil]

theorem whileIs_append (es fs : List (Evaluation σ ε)) :
    whileIs b (es ++ fs) = (whileIs b es).thenIf b (whileIs b fs) := by
  induction es with
  | nil => rw [List.nil_append, whileIs_nil_thenIf]
  | cons e es ih => rw [List.cons_append, whileIs_cons, ih, whileIs_cons, thenIf_assoc]

/-- What stands in the middle of a sequence may be a sequence of its own. -/
theorem whileIs_nested (es fs gs : List (Evaluation σ ε)) :
    whileIs b (es ++ [whileIs b fs] ++ gs) = whileIs b (es ++ fs ++ gs) := by
  simp only [whileIs_append, whileIs_singleton]

end Evaluation

/-! ### Blocks in two parts -/

/-- Of two names of its block an error keeps the last. -/
theorem mapError_inBlock_mapError (d d' : String) (x : Except RunError Bool) :
    (x.mapError fun x => x.inBlock d').mapError (fun x => x.inBlock d) = x.mapError fun x => x.inBlock d := by
  cases x <;> rfl

namespace Session

/-- The session without the memory of the blocks that it entered: all that it did, and its log. -/
def withoutEntries (s : Session) : Session :=
  { s with history := s.history.filter fun h => h.attempted?.isSome }

theorem withoutEntries_extend_attempt {h : Happening} (hh : h.attempted?.isSome) (s : Session) :
    (s.extend [h]).withoutEntries = s.withoutEntries.extend [h] := by
  simp [extend, withoutEntries, hh]

theorem withoutEntries_enter_empty (s : Session) : (s.enter "").withoutEntries = s.withoutEntries := by
  simp [enter, record, withoutEntries, Happening.attempted?]

variable (shell : Shell κ)

theorem runCommands_append (d : String) (cs cs' : List String) :
    runCommands shell d (cs ++ cs') = (runCommands shell d cs).thenIf true (runCommands shell d cs') := by
  funext s
  induction cs generalizing s with
  | nil => rfl
  | cons c cs ih =>
    rw [List.cons_append, runCommands, Evaluation.thenIf, runCommands]
    obtain ⟨⟨x, t⟩, hc⟩ : ∃ y, attempt shell c s = y := ⟨_, rfl⟩
    rw [hc]
    rcases x with cause | _ | _
    case ok.true => exact ih t
    all_goals rfl

theorem runBlock_append (d : String) (cs cs' : List String) :
    runBlock shell d (cs ++ cs') = (runBlock shell d cs).thenIf true (runCommands shell d cs') := by
  funext s
  exact congrFun (runCommands_append shell d cs cs') (s.1.enter d, s.2)

/-- Commands do the same whatever blocks were entered before, and an error names the block that they are in. -/
theorem runCommands_withoutEntries (d d' : String) (cs : List String) (s : Session) (w : World κ) :
    let r := runCommands shell d cs (s, w)
    runCommands shell d' cs (s.withoutEntries, w) =
      (r.1.mapError fun x => x.inBlock d', r.2.1.withoutEntries, r.2.2) := by
  induction cs generalizing s w with
  | nil => rfl
  | cons c cs ih =>
    have hrequest : s.withoutEntries.request c = s.request c := rfl
    rw [runCommands, runCommands, attempt_eq, attempt_eq, hrequest]
    obtain ⟨⟨x, v⟩, hc⟩ : ∃ y, shell (s.request c) w = y := ⟨_, rfl⟩
    rw [hc]
    rcases x with cause | o
    · simp only [← withoutEntries_extend_attempt (h := .refused c cause) rfl]
      rfl
    · simp only [← withoutEntries_extend_attempt (h := .ran c o) rfl]
      cases o.succeeded
      case true => exact ih _ v
      case false => rfl

/-- An error in a block names the block. -/
theorem mapError_inBlock_runCommands (d : String) (cs : List String) (s : Session × World κ) :
    (runCommands shell d cs s).1.mapError (fun x => x.inBlock d) = (runCommands shell d cs s).1 := by
  induction cs generalizing s with
  | nil => rfl
  | cons c cs ih =>
    rw [runCommands]
    obtain ⟨⟨x, t⟩, hc⟩ : ∃ y, attempt shell c s = y := ⟨_, rfl⟩
    rw [hc]
    rcases x with cause | _ | _
    case ok.true => exact ih t
    all_goals rfl

/-- To enter a block without a description leaves no trace but the memory of it. -/
theorem runBlock_empty (d : String) (cs : List String) (s : Session) (w : World κ) :
    let r := runCommands shell d cs (s, w)
    let r' := runBlock shell "" cs (s, w)
    r'.1 = r.1.mapError (fun x => x.inBlock "") ∧ r'.2.1.withoutEntries = r.2.1.withoutEntries ∧ r'.2.2 = r.2.2 := by
  intro r r'
  have hbefore := runCommands_withoutEntries shell d "" cs s w
  have hafter := runCommands_withoutEntries shell "" "" cs (s.enter "") w
  rw [withoutEntries_enter_empty, hbefore] at hafter
  dsimp only at hafter
  rw [mapError_inBlock_runCommands] at hafter
  obtain ⟨hresult, hsession, hworld⟩ := Prod.ext_iff.1 hafter |>.imp_right Prod.ext_iff.1
  exact ⟨hresult.symm, hsession.symm, hworld.symm⟩

/-- The first commands of a block and then the others in a block without a description do what the whole block does,
but that an error of the second part has no description to name. -/
theorem runBlock_divided (d : String) (cs cs' : List String) (s : Session × World κ) :
    let first := runBlock shell d cs s
    let whole := runBlock shell d (cs ++ cs') s
    let parts := (runBlock shell d cs).thenIf true (runBlock shell "" cs') s
    parts.1 = (match first.1 with
      | .ok true => whole.1.mapError fun x => x.inBlock ""
      | _ => whole.1) ∧
    whole.1 = parts.1.mapError (fun x => x.inBlock d) ∧
    parts.2.1.withoutEntries = whole.2.1.withoutEntries ∧
    parts.2.2 = whole.2.2 := by
  intro first whole parts
  have hwhole : whole = (runBlock shell d cs).thenIf true (runCommands shell d cs') s :=
    congrFun (runBlock_append shell d cs cs') s
  have hnamed : whole.1.mapError (fun x => x.inBlock d) = whole.1 :=
    mapError_inBlock_runCommands shell d (cs ++ cs') (s.1.enter d, s.2)
  by_cases h : first.1 = .ok true
  · -- both go on with the other commands from the same state
    have hfirst : runBlock shell d cs s = (.ok true, first.2) := Prod.ext h rfl
    have hparts : parts = runBlock shell "" cs' first.2 := Evaluation.thenIf_of_eq hfirst
    rw [Evaluation.thenIf_of_eq hfirst] at hwhole
    obtain ⟨hresult, hsession, hworld⟩ := runBlock_empty shell d cs' first.2.1 first.2.2
    rw [← hwhole, ← hparts] at hresult hsession hworld
    refine ⟨?_, ?_, hsession, hworld⟩
    · rw [h, hresult]
    · rw [hresult, mapError_inBlock_mapError, hnamed]
  · have hparts : parts = first := Evaluation.thenIf_of_ne h
    have hfirst : whole = first := hwhole.trans (Evaluation.thenIf_of_ne h)
    rw [hparts.trans hfirst.symm]
    refine ⟨?_, hnamed.symm, rfl, rfl⟩
    split
    · exact absurd ‹_› h
    · rfl

end Session

namespace Expression

open Evaluation (thenIf whileIs)

theorem eval_all (shell : Shell κ) (es : List Expression) :
    eval (Session.context shell) (.all es) = whileIs true (evals (Session.context shell) es) := by
  rw [eval]
  rfl

theorem eval_any (shell : Shell κ) (es : List Expression) :
    eval (Session.context shell) (.any es) = whileIs false (evals (Session.context shell) es) := by
  rw [eval]
  rfl

/-- A chain in a chain of its kind may be replaced by its children, and a chain of one child by that child.  A block
may be divided into a block of its first commands and one without a description of the others: the result, the log,
the world and all else that happens are the same, but that an error of the second part has no description to name. -/
theorem eval_regrouped (shell : Shell κ) :
    let eval := eval (Session.context shell)
    (∀ xs ys zs, eval (.all (xs ++ [.all ys] ++ zs)) = eval (.all (xs ++ ys ++ zs))) ∧
    (∀ xs ys zs, eval (.any (xs ++ [.any ys] ++ zs)) = eval (.any (xs ++ ys ++ zs))) ∧
    (∀ e, eval (.all [e]) = eval e ∧ eval (.any [e]) = eval e) ∧
    ∀ d cs cs' s w,
      let first := eval (.block d cs) (s, w)
      let whole := eval (.block d (cs ++ cs')) (s, w)
      let parts := eval (.all [.block d cs, .block "" cs']) (s, w)
      parts.1 = (match first.1 with
        | .ok true => whole.1.mapError fun x => x.inBlock ""
        | _ => whole.1) ∧
      whole.1 = parts.1.mapError (fun x => x.inBlock d) ∧
      parts.2.1.log = whole.2.1.log ∧
      parts.2.1.withoutEntries = whole.2.1.withoutEntries ∧
      parts.2.2 = whole.2.2 := by
  refine ⟨fun xs ys zs => ?_, fun xs ys zs => ?_, fun e => ⟨?_, ?_⟩, fun d cs cs' s w => ?_⟩
  · simp only [eval_all, evals_eq_map, List.map_append, List.map_cons, List.map_nil, Evaluation.whileIs_nested]
  · simp only [eval_any, evals_eq_map, List.map_append, List.map_cons, List.map_nil, Evaluation.whileIs_nested]
  · rw [eval_all, evals, evals, Evaluation.whileIs_singleton]
  · rw [eval_any, evals, evals, Evaluation.whileIs_singleton]
  intro first whole parts
  have hparts : parts = (Session.runBlock shell d cs).thenIf true (Session.runBlock shell "" cs') (s, w) := by
    simp only [parts, eval_all, evals, Evaluation.whileIs_cons, Evaluation.thenIf_whileIs_nil]
    rfl
  obtain ⟨hresult, hnamed, hsession, hworld⟩ := Session.runBlock_divided shell d cs cs' (s, w)
  rw [← hparts] at hresult hnamed hsession hworld
  have hlog : parts.2.1.log = whole.2.1.log := (congrArg Session.log hsession :)
  exact ⟨hresult, hnamed, hlog, hsession, hworld⟩

end Expression

end Acceptance
