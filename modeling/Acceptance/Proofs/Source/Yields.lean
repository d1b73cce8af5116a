import Acceptance.Source.Filtered

/-!
# What a source yields

A source yields a list of items if its pulls give them one after the other and then it finishes: it stops at every
further pull, or its next pull fails.  A filtered source yields the accepted items and finishes in the same way
(`Filtered.yields_ofPredicate`).
-/

namespace Acceptance

/-- The item of an answer, if it is one. -/
def Answer.item? : Answer α ε → Option α
  | .item a => some a
  | _ => none

/-- How a source goes on after its items. -/
inductive Finish (σ ε : Type) where
  /-- Every further pull stops. -/
  | stops
  /-- The next pull fails with `e` and leaves the source at `t`. -/
  | fails (e : ε) (t : σ)

/-- The same finish, of another source. -/
def Finish.map (f : σ → τ) : Finish σ ε → Finish τ ε
  | stops => stops
  | fails e t => fails e (f t)

namespace Source

variable {σ α ε : Type} [Source σ α ε]

/-- Every pull from `s` stops. -/
def Stopped (s : σ) : Prop := ∀ n, (pull (after n s)).1 = .stop

/-- A source with no items before its finish. -/
def Ends (s : σ) : Finish σ ε → Prop
  | .stops => Stopped s
  | .fails e t => pull s = (.failed e, t)

/-- The pulls from `s` give `as`, and then it finishes with `x`. -/
def Yields (s : σ) : List α → Finish σ ε → Prop
  | [], x => Ends s x
  | a :: as, x => ∃ t, pull s = (.item a, t) ∧ Yields t as x

theorem Stopped.pull {s : σ} (h : Stopped s) : ∃ t, Source.pull s = (.stop, t) ∧ Stopped t :=
  ⟨(Source.pull s).2, Prod.ext (h 0) rfl, fun n => h (n + 1)⟩

/-- A source stops for good if it stops wherever `P` holds and `P` holds on. -/
theorem stopped_of_invariant {P : σ → Prop} (hP : ∀ s, P s → ∃ t, pull s = (.stop, t) ∧ P t) {s : σ} (hs : P s) :
    Stopped s := by
  intro n
  induction n generalizing s with
  | zero =>
    obtain ⟨t, ht, -⟩ := hP s hs
    exact congrArg Prod.fst ht
  | succ n ih =>
    obtain ⟨t, ht, hPt⟩ := hP s hs
    show (Source.pull (after n (Source.pull s).2)).1 = .stop
    rw [ht]
    exact ih hPt

theorem stopped_of_pull {s t : σ} (h : pull s = (.stop, t)) (ht : Stopped t) : Stopped s := by
  intro n
  cases n with
  | zero => exact congrArg Prod.fst h
  | succ n =>
    show (Source.pull (after n (Source.pull s).2)).1 = .stop
    rw [h]
    exact ht n

theorem after_succ (n : Nat) (s : σ) : after (n + 1) s = (pull (after n s)).2 := by
  induction n generalizing s with
  | zero => rfl
  | succ n ih => exact ih (pull s).2

theorem after_add (m n : Nat) (s : σ) : after (m + n) s = after n (after m s) := by
  induction m generalizing s with
  | zero => rw [Nat.zero_add, after]
  | succ m ih =>
    rw [Nat.succ_add]
    exact ih (pull s).2

theorem answers_add (m n : Nat) (s : σ) : answers (m + n) s = answers m s ++ answers n (after m s) := by
  induction m generalizing s with
  | zero => rw [Nat.zero_add, answers, after, List.nil_append]
  | succ m ih =>
    rw [Nat.succ_add, answers, ih (pull s).2]
    rfl

/-- After some pulls a source yields the items that have not been given. -/
theorem Yields.drop {s : σ} {as : List α} (h : Yields s as .stops) (n : Nat) :
    Yields (after n s) (as.drop n) .stops := by
  induction n generalizing s as with
  | zero => exact h
  | succ n ih =>
    cases as with
    | nil =>
      obtain ⟨t, ht, hst⟩ := (h : Stopped s).pull
      have hrest : Yields (after n t) (List.drop n []) .stops := ih hst
      rw [List.drop_nil] at hrest ⊢
      rwa [after, ht]
    | cons a as =>
      obtain ⟨t, ht, hy⟩ := h
      rw [after, ht]
      exact ih hy

/-- The next pull gives the first item, if there is one. -/
theorem Yields.item?_pull {s : σ} {as : List α} (h : Yields s as .stops) : (pull s).1.item? = as.head? := by
  cases as with
  | nil => rw [show (pull s).1 = .stop from (h : Stopped s) 0]; rfl
  | cons a as =>
    obtain ⟨t, ht, -⟩ := h
    rw [ht]
    rfl

/-- Only the next pull tells what a source yields. -/
theorem Yields.of_pull_eq {s t : σ} {as : List α} {x : Finish σ ε} (h : Yields t as x) (hp : pull s = pull t) :
    Yields s as x := by
  cases as with
  | nil =>
    cases x with
    | stops =>
      intro n
      cases n with
      | zero => rw [after, hp]; exact h 0
      | succ n => rw [after, hp]; exact h (n + 1)
    | fails e u => exact hp.trans h
  | cons a as =>
    obtain ⟨u, hu, hy⟩ := h
    exact ⟨u, hp.trans hu, hy⟩

end Source

/-- A script of items yields them and stops. -/
theorem Script.yields_items (as : List α) : Source.Yields (as.map .item : Script α ε) as .stops := by
  induction as with
  | nil => exact Source.stopped_of_invariant (P := (· = [])) (by rintro _ rfl; exact ⟨[], rfl, rfl⟩) rfl
  | cons a as ih => exact ⟨as.map .item, rfl, ih⟩

/-- A script that yields items up to a failure begins with them. -/
theorem Script.eq_of_yields_fails {s t : Script α ε} {as : List α} {e : ε} (h : Source.Yields s as (.fails e t)) :
    s = as.map .item ++ .failed e :: t := by
  induction as generalizing s with
  | nil =>
    have hs : Script.pull s = (.failed e, t) := h
    cases s with
    | nil => cases hs
    | cons x s =>
      cases hs
      rfl
  | cons a as ih =>
    obtain ⟨u, hu, hy⟩ := h
    have hs : Script.pull s = (.item a, u) := hu
    cases s with
    | nil => cases hs
    | cons x s =>
      cases hs
      rw [ih hy]
      rfl

/-- A script yields its items up to the first failure. -/
theorem Script.yields_fails (as : List α) (e : ε) (t : Script α ε) :
    Source.Yields (as.map .item ++ .failed e :: t : Script α ε) as (.fails e t) := by
  induction as with
  | nil => rfl
  | cons a as ih => exact ⟨_, rfl, ih⟩

namespace Filtered

variable {σ α ε : Type} [Source σ α ε] {p : α → Bool}

section Pull

variable {κ : Type} (j : Judge κ α) (k : κ)

theorem pull_of_item {s t : σ} {a : α} (h : Source.pull s = (.item a, t)) :
    Source.pull (⟨s, j, k⟩ : Filtered σ κ α) =
      if (j a k).1 then (.item a, ⟨t, j, (j a k).2⟩) else Source.pull (⟨t, j, (j a k).2⟩ : Filtered σ κ α) := by
  change pull _ = if (j a k).1 then _ else pull _
  rw [pull]
  simp only
  split <;> simp_all
  split <;> simp_all

theorem pull_of_stop {s t : σ} (h : Source.pull s = (.stop, t)) :
    Source.pull (⟨s, j, k⟩ : Filtered σ κ α) = (.stop, ⟨t, j, k⟩) := by
  change pull _ = _
  rw [pull]
  simp only
  split <;> simp_all

theorem pull_of_failed {s t : σ} {e : ε} (h : Source.pull s = (.failed e, t)) :
    Source.pull (⟨s, j, k⟩ : Filtered σ κ α) = (.failed e, ⟨t, j, k⟩) := by
  change pull _ = _
  rw [pull]
  simp only
  split <;> simp_all

end Pull

theorem pull_ofPredicate_item {s t : σ} {a : α} (h : Source.pull s = (.item a, t)) :
    Source.pull (ofPredicate s p) =
      if p a then (.item a, ofPredicate t p) else Source.pull (ofPredicate t p) :=
  pull_of_item (.ofPredicate p) () h

theorem pull_ofPredicate_stop {s t : σ} (h : Source.pull s = (.stop, t)) :
    Source.pull (ofPredicate s p) = (.stop, ofPredicate t p) :=
  pull_of_stop (.ofPredicate p) () h

theorem pull_ofPredicate_failed {s t : σ} {e : ε} (h : Source.pull s = (.failed e, t)) :
    Source.pull (ofPredicate s p) = (.failed e, ofPredicate t p) :=
  pull_of_failed (.ofPredicate p) () h

theorem stopped_ofPredicate {s : σ} (h : Source.Stopped s) : Source.Stopped (ofPredicate s p) := by
  refine Source.stopped_of_invariant (P := fun f => ∃ s : σ, Source.Stopped s ∧ f = ofPredicate s p) ?_ ⟨s, h, rfl⟩
  rintro _ ⟨s, hs, rfl⟩
  obtain ⟨t, ht, hst⟩ := hs.pull
  exact ⟨ofPredicate t p, pull_ofPredicate_stop ht, t, hst, rfl⟩

/-- A filtered source yields the items that satisfy the predicate. -/
theorem yields_ofPredicate {s : σ} {as : List α} {x : Finish σ ε} (h : Source.Yields s as x) :
    Source.Yields (ofPredicate s p) (as.filter p) (x.map (ofPredicate · p)) := by
  induction as generalizing s with
  | nil =>
    cases x with
    | stops => exact stopped_ofPredicate h
    | fails e t => exact pull_ofPredicate_failed h
  | cons a as ih =>
    obtain ⟨t, ht, hy⟩ := h
    have hp := pull_ofPredicate_item (p := p) ht
    by_cases ha : p a
    · rw [List.filter_cons_of_pos ha]
      rw [if_pos ha] at hp
      exact ⟨_, hp, ih hy⟩
    · rw [List.filter_cons_of_neg ha]
      rw [if_neg ha] at hp
      exact (ih hy).of_pull_eq hp

end Filtered

end Acceptance
