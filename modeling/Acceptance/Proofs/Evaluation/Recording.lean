import Acceptance.Evaluation.Recording
import Acceptance.Proofs.Evaluation.Keeps

/-!
# Stopping early and evaluating everything

Where all children of a chain can be evaluated without an error, the chain may as well stop at the child that decides:
the value is the same, and what is left out of the calls are those of the children behind it.  The value is that of
the expression as a Boolean formula over its blocks (`Expression.eval_short`).  The converse fails, since an error may
stand behind the child that decides.
-/

namespace Acceptance

variable {ε : Type}

/-! ### The value of an expression -/

namespace Expression

mutual

/-- The value of an expression whose blocks have the given values. -/
def holds (truth : String → Bool) : Expression → Bool
  | .block d _ => truth d
  | .all children => (truths truth children).all id
  | .any children => (truths truth children).any id

def truths (truth : String → Bool) : List Expression → List Bool
  | [] => []
  | e :: es => e.holds truth :: truths truth es

end

end Expression

/-- The value of a list of which one is evaluated after the other as long as it is `b`. -/
def decided (b : Bool) (vs : List Bool) : Bool := if vs.contains !b then !b else b

theorem decided_cons_of_eq (b : Bool) (vs : List Bool) : decided b (b :: vs) = decided b vs := by
  simp [decided]

theorem decided_cons_of_ne {b v : Bool} (h : v ≠ b) (vs : List Bool) : decided b (v :: vs) = v := by
  obtain rfl : v = !b := Bool.eq_not.2 h
  simp [decided]

theorem decided_true (vs : List Bool) : decided true vs = vs.all id := by
  induction vs with
  | nil => rfl
  | cons v vs ih =>
    cases v
    · simp [decided_cons_of_ne]
    · simp [decided_cons_of_eq, ih]

theorem decided_false (vs : List Bool) : decided false vs = vs.any id := by
  induction vs with
  | nil => rfl
  | cons v vs ih =>
    cases v
    · simp [decided_cons_of_eq, ih]
    · simp [decided_cons_of_ne]

theorem foldl_and (vs : List Bool) (v : Bool) : vs.foldl and v = (v && vs.all id) := by
  induction vs generalizing v with
  | nil => simp
  | cons u vs ih => simp [ih, Bool.and_assoc]

theorem foldl_or (vs : List Bool) (v : Bool) : vs.foldl or v = (v || vs.any id) := by
  induction vs generalizing v with
  | nil => simp
  | cons u vs ih => simp [ih, Bool.or_assoc]

namespace Recording

/-- The value that a table gives to the blocks that it has one for. -/
def truth (table : String → Except ε Bool) (description : String) : Bool :=
  match table description with
  | .ok v => v
  | .error _ => false

/-- Where the full evaluation succeeds, both have the value `v`, and the calls of the short one are some of those of
the full one, in order. -/
def Shortens (short full : Evaluation (List Call) ε) (v : Bool) : Prop :=
  ∀ u calls calls', full calls = (.ok u, calls') → u = v ∧ ∃ made, calls' = calls ++ made ∧
    ∀ start, ∃ kept, short start = (.ok v, start ++ kept) ∧ kept.Sublist made

/-- A call that both make is one of the calls of both. -/
theorem Shortens.noting {short full : Evaluation (List Call) ε} {v : Bool} (h : Shortens short full v) (call : Call) :
    Shortens (noting call short) (noting call full) v := by
  intro u calls calls' hfull
  obtain ⟨hu, made, hmade, hshort⟩ := h u _ calls' hfull
  refine ⟨hu, call :: made, by simp [hmade], fun start => ?_⟩
  obtain ⟨kept, hkept, hsub⟩ := hshort (start ++ [call])
  exact ⟨call :: kept, by simp [Recording.noting, hkept], hsub.cons_cons call⟩

theorem shortens_lookUp (table : String → Except ε Bool) (d : String) :
    Shortens (lookUp table d) (lookUp table d) (truth table d) := by
  intro u calls calls' hfull
  obtain ⟨hd, rfl⟩ := Prod.ext_iff.1 hfull
  have hd : table d = .ok u := hd
  have hu : u = truth table d := by rw [truth, hd]
  refine ⟨hu, [], (List.append_nil calls).symm, fun start => ⟨[], ?_, .slnil⟩⟩
  rw [lookUp, hd, hu, List.append_nil]

/-- The children that one evaluation goes through and those that the other does. -/
def ShortensEach (shorts fulls : List (Evaluation (List Call) ε)) (vs : List Bool) : Prop :=
  ∀ combine v u calls calls', Evaluation.every combine v fulls calls = (.ok u, calls') → u = vs.foldl combine v ∧
    ∃ made, calls' = calls ++ made ∧ ∀ b start, ∃ kept,
        Evaluation.whileIs b shorts start = (.ok (decided b vs), start ++ kept) ∧ kept.Sublist made

theorem shortensEach_nil : ShortensEach (ε := ε) [] [] [] := by
  intro combine v u calls calls' hfull
  obtain ⟨hu, rfl⟩ := Prod.ext_iff.1 hfull
  refine ⟨(Except.ok.inj hu).symm, [], (List.append_nil calls).symm, fun b start => ⟨[], ?_, .slnil⟩⟩
  cases b <;> simp [Evaluation.whileIs, Evaluation.allOf, Evaluation.anyOf, decided]

theorem ShortensEach.cons {short full : Evaluation (List Call) ε} {v : Bool}
    {shorts fulls : List (Evaluation (List Call) ε)} {vs : List Bool} (h : Shortens short full v)
    (hs : ShortensEach shorts fulls vs) : ShortensEach (short :: shorts) (full :: fulls) (v :: vs) := by
  intro combine w u calls calls' hfull
  rw [Evaluation.every] at hfull
  obtain ⟨⟨x, mid⟩, hfirst⟩ : ∃ y, full calls = y := ⟨_, rfl⟩
  rw [hfirst] at hfull
  rcases x with x | v'
  · cases hfull
  obtain ⟨rfl, made, rfl, hshort⟩ := h v' calls mid hfirst
  obtain ⟨hu, made', rfl, hshorts⟩ := hs combine _ u _ calls' hfull
  refine ⟨hu, made ++ made', List.append_assoc .., fun b start => ?_⟩
  obtain ⟨kept, hkept, hsub⟩ := hshort start
  by_cases hb : v' = b
  · -- both go on, and what each makes of the later children comes after what it made of this one
    subst hb
    obtain ⟨kept', hkept', hsub'⟩ := hshorts v' (start ++ kept)
    refine ⟨kept ++ kept', ?_, hsub.append hsub'⟩
    rw [Evaluation.whileIs_cons_of_eq hkept, hkept', decided_cons_of_eq, List.append_assoc]
  · -- the child decides, so the short evaluation makes none of the later calls
    have hne : (short start).1 ≠ .ok b := by simp [hkept, hb]
    refine ⟨kept, ?_, hsub.trans (List.sublist_append_left ..)⟩
    rw [Evaluation.whileIs_cons_of_ne hne, hkept, decided_cons_of_ne hb]

theorem ShortensEach.all {shorts fulls : List (Evaluation (List Call) ε)} {vs : List Bool}
    (h : ShortensEach shorts fulls vs) :
    Shortens (Evaluation.allOf shorts) (Evaluation.everyAllOf fulls) (vs.all id) := by
  intro u calls calls' hfull
  obtain ⟨hu, made, hmade, hshorts⟩ := h and true u calls calls' hfull
  refine ⟨hu.trans (foldl_and vs true), made, hmade, fun start => ?_⟩
  rw [← decided_true]
  exact hshorts true start

theorem ShortensEach.any {shorts fulls : List (Evaluation (List Call) ε)} {vs : List Bool}
    (h : ShortensEach shorts fulls vs) :
    Shortens (Evaluation.anyOf shorts) (Evaluation.everyAnyOf fulls) (vs.any id) := by
  intro u calls calls' hfull
  obtain ⟨hu, made, hmade, hshorts⟩ := h or false u calls calls' hfull
  refine ⟨hu.trans (foldl_or vs false), made, hmade, fun start => ?_⟩
  rw [← decided_false]
  exact hshorts false start

end Recording

namespace Expression

open Recording (Shortens ShortensEach)

variable (table : String → Except ε Bool)

mutual

theorem shortens_eval : (e : Expression) →
    Shortens (e.eval (Recording.short table)) (e.eval (Recording.full table)) (e.holds (Recording.truth table))
  | .block d cs => by
    rw [eval, eval, holds]
    exact (Recording.shortens_lookUp table d).noting (.run d cs)
  | .all children => by
    have heach := (shortens_evals children).all.noting (.all children.length)
    rw [eval, eval, holds]
    simpa only [Recording.short, Recording.full, evals_eq_map, List.length_map] using heach
  | .any children => by
    have heach := (shortens_evals children).any.noting (.any children.length)
    rw [eval, eval, holds]
    simpa only [Recording.short, Recording.full, evals_eq_map, List.length_map] using heach

theorem shortens_evals : (es : List Expression) →
    ShortensEach (evals (Recording.short table) es) (evals (Recording.full table) es)
      (truths (Recording.truth table) es)
  | [] => Recording.shortensEach_nil
  | e :: es => (shortens_evals es).cons (shortens_eval e)

end

/-- If all children can be evaluated, then to stop at the child that decides gives the same value, which is that of the
expression as a formula, and the calls are some of the calls, in order.  So whatever fails when stopping early also
fails when everything is evaluated. -/
theorem eval_short (table : String → Except ε Bool) (e : Expression) (calls : List Call) :
    let short := e.eval (Recording.short table) calls
    let full := e.eval (Recording.full table) calls
    (∀ v, full.1 = .ok v → short.1 = .ok v ∧ v = e.holds (Recording.truth table) ∧
      ∃ kept made, short.2 = calls ++ kept ∧ full.2 = calls ++ made ∧ kept.Sublist made) ∧
    (∀ x, short.1 = .error x → ∃ y, full.1 = .error y) := by
  intro short full
  have hsucceeds : ∀ v, full.1 = .ok v → short.1 = .ok v ∧ v = e.holds (Recording.truth table) ∧
      ∃ kept made, short.2 = calls ++ kept ∧ full.2 = calls ++ made ∧ kept.Sublist made := by
    intro v hv
    obtain ⟨hvalue, made, hmade, hshort⟩ := shortens_eval table e v calls full.2 (Prod.ext hv rfl)
    obtain ⟨kept, hkept, hsub⟩ := hshort calls
    obtain ⟨hresult, hcalls⟩ := Prod.ext_iff.1 hkept
    exact ⟨hvalue ▸ hresult, hvalue, kept, made, hcalls, hmade, hsub⟩
  refine ⟨hsucceeds, fun x hx => ?_⟩
  cases hfull : full.1 with
  | error y => exact ⟨y, rfl⟩
  | ok v => exact absurd ((hsucceeds v hfull).1.symm.trans hx) nofun

/-- A child behind the one that decides is left out. -/
theorem eval_short_left_out :
    let table : String → Except Unit Bool := fun d => .ok (d != "no")
    let e : Expression := .any [.block "no" [], .all [.block "yes" []], .block "late" []]
    let short := e.eval (Recording.short table) []
    let full := e.eval (Recording.full table) []
    full.1 = .ok true ∧ short.1 = .ok true ∧ short.2.Sublist full.2 ∧ short.2 ≠ full.2 := by
  intro table e short full
  have hfull : full.1 = .ok true := by decide
  obtain ⟨hshort, -, kept, made, hkept, hmade, hsub⟩ := (eval_short table e []).1 true hfull
  refine ⟨hfull, hshort, ?_, by decide⟩
  rw [show short.2 = kept from hkept, show full.2 = made from hmade]
  exact hsub

/-- An error behind the child that decides is met by the full evaluation only. -/
example :
    let table : String → Except Unit Bool := fun d => if d = "boom" then .error () else .ok (d != "no")
    let e : Expression := .any [.block "no" [], .all [.block "yes" []], .block "boom" []]
    (e.eval (Recording.short table) []).1 = .ok true ∧ (e.eval (Recording.full table) []).1 = .error () := by
  decide

end Expression

end Acceptance
