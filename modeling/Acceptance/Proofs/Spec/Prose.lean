import Acceptance.Proofs.Spec.Simulation

/-!
# Prose is passed over

A parser gives the same results, call after call, whether its source gives prose or not (`results_withoutProse`), so a
lexer may as well keep to itself the lines that it makes prose.  The two parsers need not remember the same token in
between: the one may have seen prose last, and the other has not.  It does not matter, since a look goes back only to
what it has found, which is not prose, and so `Rewind.Alike` asks for the same token only where it is to be given again.
-/

namespace Acceptance

/-! ### Sources without rejected items -/

section Rejected

variable {σ α ε : Type} [Source σ α ε]

/-- An answer that is not passed over where `p` accepts items. -/
def Answer.isKept (p : α → Bool) : Answer α ε → Bool
  | .item a => p a
  | _ => true

/-- A search finds an item only if it is accepted. -/
theorem Source.accepted_of_seek (p : α → Bool) (s : σ) (a : α) (h : (seek p s).1 = .item a) : p a = true := by
  fun_induction seek p s with
  | case1 s b rest hp hb =>
    cases h
    exact hb
  | case2 s b rest hp hb ih => exact ih h
  | case3 s rest hp => cases h
  | case4 s e rest hp => cases h

/-- Past the items that are rejected, a script answers like the script without them. -/
theorem Script.simulatesPast_filter (p : α → Bool) :
    Source.SimulatesPast p fun s t : Script α ε => t = s.filter (Answer.isKept p) := by
  rintro script _ rfl
  induction script with
  | nil =>
    have hnil : Source.pull ([] : Script α ε) = (.stop, []) := rfl
    rw [List.filter_nil, Source.seek_of_stop p hnil]
    exact ⟨rfl, rfl⟩
  | cons x rest ih =>
    have hleft : Source.pull (x :: rest : Script α ε) = (x, rest) := rfl
    by_cases hx : x.isKept p = true
    · have hright : Source.pull (x :: rest.filter (Answer.isKept p) : Script α ε) =
          (x, rest.filter (Answer.isKept p)) := rfl
      rw [List.filter_cons_of_pos hx]
      cases x with
      | item a =>
        have ha : p a = true := hx
        rw [Source.seek_of_item p hleft, Source.seek_of_item p hright, if_pos ha, if_pos ha]
        exact ⟨rfl, rfl⟩
      | stop =>
        rw [Source.seek_of_stop p hleft, Source.seek_of_stop p hright]
        exact ⟨rfl, rfl⟩
      | failed e =>
        rw [Source.seek_of_failed p hleft, Source.seek_of_failed p hright]
        exact ⟨rfl, rfl⟩
    · rw [List.filter_cons_of_neg hx]
      -- only an item is rejected, and it is passed over on the left
      cases x with
      | item a =>
        have ha : ¬ p a = true := hx
        rw [Source.seek_of_item p hleft, if_neg ha]
        exact ih
      | stop => exact absurd rfl hx
      | failed e => exact absurd rfl hx

namespace Filtered

/-- A filtered source gives what a search in the source finds. -/
theorem pull_ofPredicate_eq_seek (p : α → Bool) (s : σ) :
    Source.pull (ofPredicate s p) = ((Source.seek p s).1, ofPredicate (Source.seek p s).2 p) := by
  fun_induction Source.seek p s with
  | case1 s a rest hp ha => exact (pull_ofPredicate_item hp).trans (if_pos ha)
  | case2 s a rest hp ha ih => exact ((pull_ofPredicate_item hp).trans (if_neg ha)).trans ih
  | case3 s rest hp => exact pull_ofPredicate_stop hp
  | case4 s e rest hp => exact pull_ofPredicate_failed hp

/-- Past the items that are rejected, a source answers like the filtered source, which gives none of them. -/
theorem simulatesPast_ofPredicate (p : α → Bool) :
    Source.SimulatesPast p fun (s : σ) (f : Filtered σ Unit α) => f = ofPredicate s p := by
  rintro s _ rfl
  have hpull := pull_ofPredicate_eq_seek p s
  have haccepted := Source.accepted_of_seek p s
  cases hs : Source.seek p s with
  | mk x t =>
    rw [hs] at hpull haccepted
    have hseek : Source.seek p (ofPredicate s p) = (x, ofPredicate t p) := by
      cases x with
      | item a => exact (Source.seek_of_item p hpull).trans (if_pos (haccepted a rfl))
      | stop => exact Source.seek_of_stop p hpull
      | failed e => exact Source.seek_of_failed p hpull
    rw [hseek]
    exact ⟨rfl, rfl⟩

end Filtered

end Rejected

namespace Parser

/-! ### Calls without prose -/

section Results

variable {σ τ ε : Type} [Source σ Token ε] [Source τ Token ε]

/-- The results of calls of a parser, one after the other. -/
def results : Nat → Rewind σ Token → List (Except ε (List Scenario))
  | 0, _ => []
  | n + 1, s => (parse s).1 :: results n (parse s).2

theorem results_eq_of_alike {R : σ → τ → Prop} (hR : Source.SimulatesPast Token.isSignificant R) {s : Rewind σ Token}
    {t : Rewind τ Token} (h : Rewind.Alike R s t) (n : Nat) : results n s = results n t := by
  induction n generalizing s t with
  | zero => rfl
  | succ n ih =>
    obtain ⟨hresult, hnext⟩ := parallel_parse (ε := ε) hR h
    rw [results, results, hresult, ih hnext]

end Results

/-- The script without its prose.  Stops and failures stay in their places. -/
def withoutProse {ε : Type} (script : Script Token ε) : Script Token ε :=
  script.filter (Answer.isKept Token.isSignificant)

/-- Without the prose that its source gives, a parser has the same results at every call, wherever the source stops or
fails in between; and a lexer may keep the lines to itself that it makes prose. -/
theorem results_withoutProse {ε : Type} :
    (∀ (script : Script Token ε) (n : Nat),
      results n (ofTokens script) = results n (ofTokens (withoutProse script))) ∧
    ∀ {σ : Type} [Source σ Line ε] (lines : σ) (n : Nat),
      results n (ofTokens (Lexer.ofSource lines)) =
        results n (ofTokens (Filtered.ofPredicate (Lexer.ofSource lines) Token.isSignificant)) := by
  constructor
  · intro script n
    exact results_eq_of_alike (Script.simulatesPast_filter Token.isSignificant) (.ofSource rfl) n
  · intro σ _ lines n
    exact results_eq_of_alike (Filtered.simulatesPast_ofPredicate Token.isSignificant) (.ofSource rfl) n

/-- Prose between a block and its commands and before a failure, where the two parsers remember different tokens. -/
example :
    let g : Token := ⟨.directive .precondition, "g", 1⟩
    let script : Script Token Fault := [.item g, .item ⟨.prose, "p", 2⟩, .failed .nulInPath, .item g]
    (parse (ofTokens script)).2.memory = .holding ⟨.prose, "p", 2⟩ ∧
      (parse (ofTokens (withoutProse script))).2.memory = .holding g ∧
      results 2 (ofTokens script) = [.error .nulInPath, .ok [⟨.block "g" [], [], none⟩]] := by
  decide +kernel

end Parser

end Acceptance
