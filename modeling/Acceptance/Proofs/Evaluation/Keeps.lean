import Acceptance.Evaluation.Context
import Acceptance.Proofs.Spec.Values

/-!
# What evaluation keeps

An evaluation keeps a property of states, and errors of a certain kind, if it leads from states with the property to
states with the property and fails only with errors of that kind.  If the blocks of an expression keep them, then the
whole expression does, however its chains are nested (`Expression.keeps_eval`).
-/

namespace Acceptance

variable {σ ε : Type} {I : σ → Prop} {E : ε → Prop}

namespace Evaluation

/-- Evaluates as long as the values are `b`: `allOf` goes on while they are true, `anyOf` while they are false. -/
def whileIs (b : Bool) (es : List (Evaluation σ ε)) : Evaluation σ ε := if b then allOf es else anyOf es

section

variable {b : Bool} {e : Evaluation σ ε} {s : σ}

theorem whileIs_cons_of_eq {t : σ} (h : e s = (.ok b, t)) (es : List (Evaluation σ ε)) :
    whileIs b (e :: es) s = whileIs b es t := by
  cases b with
  | true =>
    show allOf (e :: es) s = allOf es t
    rw [allOf, h]
  | false =>
    show anyOf (e :: es) s = anyOf es t
    rw [anyOf, h]

theorem whileIs_cons_of_ne (h : (e s).1 ≠ .ok b) (es : List (Evaluation σ ε)) : whileIs b (e :: es) s = e s := by
  cases hs : e s with
  | mk x t =>
    rw [hs] at h
    cases x with
    | error x => cases b <;> simp [whileIs, allOf, anyOf, hs]
    | ok v =>
      -- the value is the one that decides
      have hv : v = !b := by
        cases v <;> cases b <;> simp_all
      subst hv
      cases b <;> simp [whileIs, allOf, anyOf, hs]

end

/-- From states where `I` holds, the evaluation leads to states where it holds, and its errors satisfy `E`. -/
def Keeps (I : σ → Prop) (E : ε → Prop) (e : Evaluation σ ε) : Prop :=
  ∀ s, I s → I (e s).2 ∧ ∀ x, (e s).1 = .error x → E x

variable {es : List (Evaluation σ ε)}

theorem Keeps.whileIs {b : Bool} (h : ∀ e ∈ es, e.Keeps I E) : (whileIs b es).Keeps I E := by
  induction es with
  | nil => cases b <;> exact fun s hs => ⟨hs, nofun⟩
  | cons e es ih =>
    obtain ⟨he, hes⟩ := List.forall_mem_cons.1 h
    intro s hs
    have hfirst := he s hs
    by_cases hb : (e s).1 = .ok b
    · have hstep : e s = (.ok b, (e s).2) := Prod.ext hb rfl
      rw [whileIs_cons_of_eq hstep]
      exact ih hes _ hfirst.1
    · rw [whileIs_cons_of_ne hb]
      exact hfirst

theorem Keeps.allOf (h : ∀ e ∈ es, e.Keeps I E) : (allOf es).Keeps I E := Keeps.whileIs (b := true) h

theorem Keeps.anyOf (h : ∀ e ∈ es, e.Keeps I E) : (anyOf es).Keeps I E := Keeps.whileIs (b := false) h

end Evaluation

open Evaluation (Keeps)

/-- Blocks whose values satisfy `P` keep `I` and `E`, and so do chains of what keeps them. -/
structure Context.Keeps (P : String → Prop) (I : σ → Prop) (E : ε → Prop) (ctx : Context σ ε) : Prop where
  run : ∀ d cs, P d → (∀ c ∈ cs, P c) → (ctx.run d cs).Keeps I E
  all : ∀ es : List (Evaluation σ ε), (∀ e ∈ es, e.Keeps I E) → (ctx.all es).Keeps I E
  any : ∀ es : List (Evaluation σ ε), (∀ e ∈ es, e.Keeps I E) → (ctx.any es).Keeps I E

namespace Expression

variable {ctx : Context σ ε} {P : String → Prop}

theorem evals_eq_map (ctx : Context σ ε) (es : List Expression) : evals ctx es = es.map (eval ctx) := by
  induction es with
  | nil => rfl
  | cons e es ih => rw [evals, ih, List.map_cons]

mutual

/-- What the blocks of a context keep is kept by every expression. -/
theorem keeps_eval (h : ctx.Keeps P I E) : (e : Expression) → (∀ t ∈ e.values, P t) → (e.eval ctx).Keeps I E
  | .block d cs, hP => by
    rw [eval]
    exact h.run d cs (hP d List.mem_cons_self) fun c hc => hP c (List.mem_cons_of_mem d hc)
  | .all children, hP => by
    rw [eval]
    exact h.all _ (keeps_evals h children hP)
  | .any children, hP => by
    rw [eval]
    exact h.any _ (keeps_evals h children hP)

theorem keeps_evals (h : ctx.Keeps P I E) :
    (es : List Expression) → (∀ t ∈ valuesIn es, P t) → ∀ x ∈ evals ctx es, x.Keeps I E
  | [], _ => nofun
  | e :: es, hP => by
    obtain ⟨he, hes⟩ := List.forall_mem_append.1 hP
    rw [evals]
    exact List.forall_mem_cons.2 ⟨keeps_eval h e he, keeps_evals h es hes⟩

end

end Expression

end Acceptance
