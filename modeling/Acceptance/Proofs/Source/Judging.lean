import Acceptance.Proofs.Source.Simulation

/-!
# What a filter leaves

A filter asks its judge about every item that its source gives, once and in order, and its own answers are those of
the source without the rejected items: stops and failures stay in their places.  So a filter over a filter is one
filter whose judge asks the first judge and then, about what that accepts, the second (`Filtered.answers_judged`).
-/

namespace Acceptance

variable {σ α ε κ μ : Type}

/-! ### What a judge makes of answers -/

namespace Judge

/-- The state of a judge that has been asked about items one after the other. -/
def stateAfter (j : Judge κ α) (k : κ) (as : List α) : κ := as.foldl (fun k a => (j a k).2) k

/-- Answers without the items that a judge rejects, when it is asked about them one after the other. -/
def keep (j : Judge κ α) (k : κ) : List (Answer α ε) → List (Answer α ε)
  | [] => []
  | .item a :: xs => if (j a k).1 then .item a :: keep j (j a k).2 xs else keep j (j a k).2 xs
  | .stop :: xs => .stop :: keep j k xs
  | .failed e :: xs => .failed e :: keep j k xs

/-- The same judge, with a list of what it has been asked about. -/
def noting (j : Judge κ α) : Judge (κ × List α) α := fun a s => ((j a s.1).1, (j a s.1).2, s.2 ++ [a])

variable (j : Judge κ α)

theorem keep_append (k : κ) (xs ys : List (Answer α ε)) :
    j.keep k (xs ++ ys) = j.keep k xs ++ j.keep (j.stateAfter k (xs.filterMap Answer.item?)) ys := by
  induction xs generalizing k with
  | nil => rfl
  | cons x xs ih =>
    cases x with
    | item a =>
      have hstate : j.stateAfter k ((.item a :: xs).filterMap Answer.item?) =
          j.stateAfter (j a k).2 (xs.filterMap (Answer.item? (ε := ε))) := rfl
      rw [List.cons_append, keep, keep, ih, hstate]
      split <;> rfl
    | stop | failed e => exact congrArg _ (ih k)

theorem stateAfter_append (k : κ) (as bs : List α) :
    j.stateAfter k (as ++ bs) = j.stateAfter (j.stateAfter k as) bs :=
  List.foldl_append

theorem stateAfter_noting (k : κ) (asked as : List α) :
    j.noting.stateAfter (k, asked) as = (j.stateAfter k as, asked ++ as) := by
  induction as generalizing k asked with
  | nil => rw [List.append_nil]; rfl
  | cons a as ih =>
    rw [← List.singleton_append (l := as), ← List.append_assoc]
    exact ih (j a k).2 (asked ++ [a])

theorem keep_noting (k : κ) (asked : List α) (xs : List (Answer α ε)) :
    j.noting.keep (k, asked) xs = j.keep k xs := by
  induction xs generalizing k asked with
  | nil => rfl
  | cons x xs ih =>
    cases x with
    | item a =>
      rw [keep, keep, ih]
      rfl
    | stop | failed e => exact congrArg _ (ih k asked)

/-- Noting does not change a verdict. -/
theorem agree_noting : Agree (fun (s : κ × List α) k => s.1 = k) j.noting j := by
  rintro a ⟨k, asked⟩ _ rfl
  exact ⟨rfl, rfl⟩

end Judge

/-! ### Pulls of a filter -/

namespace Filtered

/-- The answers of a script, filtered, are those of the script without the rejected items. -/
theorem simulates_keep (j : Judge κ α) : Source.Simulates fun (f : Filtered (Script α ε) κ α) (t : Script α ε) =>
    ∃ (script : Script α ε) (k : κ), f = ⟨script, j, k⟩ ∧ t = j.keep k script := by
  rintro _ _ ⟨script, k, rfl, rfl⟩
  induction script generalizing k with
  | nil =>
    rw [pull_of_stop (t := ([] : Script α ε)) j k rfl]
    exact ⟨rfl, [], k, rfl, rfl⟩
  | cons x rest ih =>
    cases x with
    | item a =>
      rw [pull_of_item (t := rest) j k rfl, Judge.keep]
      split
      · exact ⟨rfl, rest, _, rfl, rfl⟩
      · exact ih (j a k).2
    | stop =>
      rw [pull_of_stop (t := rest) j k rfl]
      exact ⟨rfl, rest, k, rfl, rfl⟩
    | failed e =>
      rw [pull_of_failed (t := rest) j k rfl]
      exact ⟨rfl, rest, k, rfl, rfl⟩

variable [Source σ α ε]

/-- For one answer a filter pulls its source until something is left, and its judge has been asked about the items. -/
theorem exists_pull (j : Judge κ α) (k : κ) (s : σ) :
    ∃ m, [(Source.pull (⟨s, j, k⟩ : Filtered σ κ α)).1] = j.keep k (Source.answers m s) ∧
      (Source.pull (⟨s, j, k⟩ : Filtered σ κ α)).2 =
        ⟨Source.after m s, j, j.stateAfter k ((Source.answers m s).filterMap Answer.item?)⟩ := by
  induction hn : Source.size s using Nat.strongRecOn generalizing s k with
  | ind n ih =>
    subst hn
    cases hs : Source.pull s with
    | mk x t =>
      -- what is pulled first comes before what is pulled from the rest
      have hanswers (m : Nat) : Source.answers (m + 1) s = x :: Source.answers m t := by rw [Source.answers, hs]
      have hafter (m : Nat) : Source.after (m + 1) s = Source.after m t := by rw [Source.after, hs]
      cases x with
      | item a =>
        rw [pull_of_item j k hs]
        by_cases ha : (j a k).1 = true
        · rw [if_pos ha]
          refine ⟨1, ?_, ?_⟩
          · rw [hanswers, Judge.keep, if_pos ha]
            rfl
          · rw [hanswers, hafter]
            rfl
        · obtain ⟨m, hkeep, hstate⟩ := ih _ (Source.size_lt_of_pull hs) (j a k).2 t rfl
          rw [if_neg ha]
          refine ⟨m + 1, ?_, ?_⟩
          · rw [hanswers, Judge.keep, if_neg ha, hkeep]
          · rw [hanswers, hafter, hstate]
            rfl
      | stop =>
        rw [pull_of_stop j k hs]
        refine ⟨1, ?_, ?_⟩
        · rw [hanswers]
          rfl
        · rw [hanswers, hafter]
          rfl
      | failed e =>
        rw [pull_of_failed j k hs]
        refine ⟨1, ?_, ?_⟩
        · rw [hanswers]
          rfl
        · rw [hanswers, hafter]
          rfl

/-- However often a filter is pulled, its answers are those of its source without the rejected items, and its judge has
been asked about the items of the source. -/
theorem exists_answers (j : Judge κ α) (k : κ) (s : σ) (n : Nat) :
    ∃ m, Source.answers n (⟨s, j, k⟩ : Filtered σ κ α) = j.keep k (Source.answers m s) ∧
      Source.after n (⟨s, j, k⟩ : Filtered σ κ α) =
        ⟨Source.after m s, j, j.stateAfter k ((Source.answers m s).filterMap Answer.item?)⟩ := by
  induction n generalizing s k with
  | zero => exact ⟨0, rfl, rfl⟩
  | succ n ih =>
    obtain ⟨m, hfirst, hnext⟩ := exists_pull j k s
    obtain ⟨m', hrest, hlast⟩ := ih (j.stateAfter k ((Source.answers m s).filterMap Answer.item?)) (Source.after m s)
    refine ⟨m + m', ?_, ?_⟩
    · rw [Source.answers, hnext, hrest, Source.answers_add, Judge.keep_append, ← hfirst, List.singleton_append]
    · rw [Source.after, hnext, hlast, Source.answers_add, Source.after_add, List.filterMap_append,
        Judge.stateAfter_append]

/-- A filter does the same whether its judge takes notes or not. -/
theorem after_noting (j : Judge κ α) (k : κ) (asked : List α) (s : σ) (n : Nat) :
    let noting := Source.after n (⟨s, j.noting, (k, asked)⟩ : Filtered σ (κ × List α) α)
    Source.answers n (⟨s, j, k⟩ : Filtered σ κ α) =
        Source.answers n (⟨s, j.noting, (k, asked)⟩ : Filtered σ (κ × List α) α) ∧
      Source.after n (⟨s, j, k⟩ : Filtered σ κ α) = ⟨noting.source, j, noting.state.1⟩ := by
  have hsame : Source.Simulates (Eq : σ → σ → Prop) := by
    rintro s _ rfl
    exact ⟨rfl, rfl⟩
  have halike := simulates hsame j.agree_noting
  have hstart : ∃ t u a b, t = u ∧ a.1 = b ∧
      (⟨s, j.noting, (k, asked)⟩ : Filtered σ (κ × List α) α) = ⟨t, j.noting, a⟩ ∧
      (⟨s, j, k⟩ : Filtered σ κ α) = ⟨u, j, b⟩ := ⟨s, s, (k, asked), k, rfl, rfl, rfl, rfl⟩
  obtain ⟨t, _, a, _, rfl, rfl, hnoting, hplain⟩ := halike.after hstart n
  refine ⟨(halike.answers_eq hstart n).symm, ?_⟩
  rw [hnoting, hplain]

/-- What a filter does depends on nothing of its source but the next pull. -/
private theorem pull_congr {s t : σ} (h : Source.pull s = Source.pull t) (j : Judge κ α) (k : κ) :
    Source.pull (⟨s, j, k⟩ : Filtered σ κ α) = Source.pull (⟨t, j, k⟩ : Filtered σ κ α) := by
  cases ht : Source.pull t with
  | mk x u =>
    have hs := h.trans ht
    cases x with
    | item a => rw [pull_of_item j k hs, pull_of_item j k ht]
    | stop => rw [pull_of_stop j k hs, pull_of_stop j k ht]
    | failed e => rw [pull_of_failed j k hs, pull_of_failed j k ht]

/-- A filter over a filter answers like one filter that asks both judges. -/
theorem simulates_both (f : Judge κ α) (g : Judge μ α) :
    Source.Simulates fun (a : Filtered (Filtered σ κ α) μ α) (b : Filtered σ (κ × μ) α) =>
      ∃ (s : σ) (k : κ) (m : μ), a = ⟨⟨s, f, k⟩, g, m⟩ ∧ b = ⟨s, f.both g, (k, m)⟩ := by
  rintro _ _ ⟨s, k, m, rfl, rfl⟩
  -- induction on the items left: what either judge rejects is passed over by both sides
  induction hn : Source.size s using Nat.strongRecOn generalizing s k m with
  | ind n ih =>
    subst hn
    cases hs : Source.pull s with
    | mk x t =>
      cases x with
      | item a =>
        have hlt := Source.size_lt_of_pull hs
        have hinner := pull_of_item f k hs
        have hright := pull_of_item (f.both g) (k, m) hs
        cases hf : f a k with
        | mk accepted k' =>
          rw [hf] at hinner
          cases accepted with
          | true =>
            have hboth : f.both g a (k, m) = ((g a m).1, k', (g a m).2) := by simp only [Judge.both, hf]
            rw [hboth] at hright
            rw [pull_of_item g m hinner, hright]
            by_cases hg : (g a m).1 = true
            · rw [if_pos hg, if_pos hg]
              exact ⟨rfl, t, k', (g a m).2, rfl, rfl⟩
            · rw [if_neg hg, if_neg hg]
              exact ih _ hlt t k' (g a m).2 rfl
          | false =>
            have hboth : f.both g a (k, m) = (false, k', m) := by simp only [Judge.both, hf]
            rw [hboth] at hright
            rw [pull_congr hinner g m, hright]
            exact ih _ hlt t k' m rfl
      | stop =>
        rw [pull_of_stop g m (pull_of_stop f k hs), pull_of_stop (f.both g) (k, m) hs]
        exact ⟨rfl, t, k, m, rfl, rfl⟩
      | failed e =>
        rw [pull_of_failed g m (pull_of_failed f k hs), pull_of_failed (f.both g) (k, m) hs]
        exact ⟨rfl, t, k, m, rfl, rfl⟩

/-- A filter gives the answers of its source without the rejected items, and its judge, whatever state it keeps, is
asked about each item that is pulled once and in order.  A filter over a filter is one filter: it gives the same, and
both judges are left in the same states. -/
theorem answers_judged (j : Judge κ α) (k : κ) :
    (∀ (script : Script α ε) n,
      Source.answers n (⟨script, j, k⟩ : Filtered (Script α ε) κ α) =
        Source.answers n (j.keep k script : Script α ε)) ∧
    (∀ (s : σ) n, ∃ m,
      let given := Source.answers m s
      let asked := given.filterMap Answer.item?
      Source.answers n (⟨s, j, k⟩ : Filtered σ κ α) = j.keep k given ∧
        Source.after n (⟨s, j, k⟩ : Filtered σ κ α) = ⟨Source.after m s, j, j.stateAfter k asked⟩ ∧
        Source.answers n (⟨s, j.noting, (k, [])⟩ : Filtered σ (κ × List α) α) = j.keep k given ∧
        Source.after n (⟨s, j.noting, (k, [])⟩ : Filtered σ (κ × List α) α) =
          ⟨Source.after m s, j.noting, (j.stateAfter k asked, asked)⟩) ∧
    ∀ (g : Judge μ α) (m : μ) (s : σ) n,
      let stacked : Filtered (Filtered σ κ α) μ α := ⟨⟨s, j, k⟩, g, m⟩
      let single : Filtered σ (κ × μ) α := ⟨s, j.both g, (k, m)⟩
      Source.answers n stacked = Source.answers n single ∧
        (Source.after n single).source = (Source.after n stacked).source.source ∧
        (Source.after n single).state = ((Source.after n stacked).source.state, (Source.after n stacked).state) := by
  refine ⟨fun script n => ?_, fun s n => ?_, fun g m s n => ?_⟩
  · exact (simulates_keep j).answers_eq ⟨script, k, rfl, rfl⟩ n
  · obtain ⟨m, hanswers, hafter⟩ := exists_answers j.noting (k, []) s n
    obtain ⟨hsame, hplain⟩ := after_noting j k [] s n
    rw [Judge.keep_noting] at hanswers
    rw [Judge.stateAfter_noting, List.nil_append] at hafter
    rw [hafter] at hplain
    exact ⟨m, hsame.trans hanswers, hplain, hanswers, hafter⟩
  · have hstart : ∃ (t : σ) (a : κ) (b : μ), (⟨⟨s, j, k⟩, g, m⟩ : Filtered (Filtered σ κ α) μ α) = ⟨⟨t, j, a⟩, g, b⟩ ∧
        (⟨s, j.both g, (k, m)⟩ : Filtered σ (κ × μ) α) = ⟨t, j.both g, (a, b)⟩ := ⟨s, k, m, rfl, rfl⟩
    have hboth := simulates_both (σ := σ) j g
    obtain ⟨t, a, b, hstacked, hsingle⟩ := hboth.after hstart n
    refine ⟨hboth.answers_eq hstart n, ?_, ?_⟩
    · rw [hstacked, hsingle]
    · rw [hstacked, hsingle]

end Filtered

end Acceptance
