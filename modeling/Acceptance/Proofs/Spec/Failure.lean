import Acceptance.Proofs.Source.Tally
import Acceptance.Proofs.Spec.Simulation

/-!
# Failures of the source

A parser whose source fails at some point either stops in front of a token before it, and never gets to the failure,
or needs to know what comes next and ends with the failure.  In that case it has pulled what comes up to the failure
and nothing else, and it goes on as a new parser of what comes after it (`parse_ofScript_failed`).
-/

namespace Acceptance

namespace Parser

/-! ### Calls of the parser -/

/-- What a call of the parser shows: its result, how often it pulled, and the tokens it was given. -/
structure Call (ε : Type) where
  result : Except ε (List Scenario)
  pulls : Nat
  given : List Token

section Calls

variable {σ ε : Type} [Source σ Token ε]

/-- One call of a parser. -/
def call (s : Parser (Tally σ Token)) : Call ε :=
  let before := s.source
  let after := (parse s).2.source
  ⟨(parse s).1, after.pulls - before.pulls, after.given.drop before.given.length⟩

/-- Calls of a parser, one after the other. -/
def calls : Nat → Parser (Tally σ Token) → List (Call ε)
  | 0, _ => []
  | n + 1, s => call s :: calls n (parse s).2

/-- The parser after some calls. -/
def afterCalls : Nat → Parser σ → Parser σ
  | 0, s => s
  | n + 1, s => afterCalls n (parse s).2

/-- Calls of parsers whose sources are the same but for what has been counted before show the same. -/
private theorem calls_eq_of_continues {k : Nat} {given : List Token} {s t : Parser (Tally σ Token)}
    (h : Rewind.Alike (Tally.Continues k given) s t) (n : Nat) : calls n s = calls n t := by
  induction n generalizing s t with
  | zero => rfl
  | succ n ih =>
    have hsource : s.source = ⟨t.source.source, k + t.source.pulls, given ++ t.source.given⟩ := h.1
    obtain ⟨hresult, hnext⟩ := parallel_parse (ε := ε) ((Tally.simulates_continues k given).past _) h
    have hsource' : (parse s).2.source = ⟨(parse t).2.source.source, k + (parse t).2.source.pulls,
        given ++ (parse t).2.source.given⟩ := hnext.1
    have hcall : call s = call t := by
      unfold call
      simp only [hresult, hsource, hsource', Nat.add_sub_add_left, List.length_append, List.drop_length_add_append]
    rw [calls, calls, hcall, ih hnext]

end Calls

/-! ### Parsing up to a failure -/

section Failing

variable {τ ε : Type} [Source τ Token ε]

/-- With a token in front that is no precondition, the parser takes nothing. -/
private theorem reads_parse_nil {ts : List Token} (h : Refused (· == .directive .precondition) (contents ts)) :
    Reads (τ := τ) (ε := ε) parse ts [] ts := by
  have hchunk : Reads (τ := τ) (ε := ε) (chunk .precondition) ts none ts := by
    rw [chunk_eq]
    exact (Rewind.reads_takeIf_none (refused_contents.1 h)).ifSome_none none
  have hscenario : Reads (τ := τ) (ε := ε) scenario ts none ts := by
    rw [scenario_eq]
    exact hchunk.ifSome_none none
  rw [parse_eq]
  exact hscenario.ifSome_none []

/-- A parser in front of a token that is no precondition stays there, so the failure is still to come. -/
private theorem faces_afterCalls {s : Parser τ} {ts : List Token} {x : Finish τ ε}
    (hs : s.Faces Token.isSignificant ts x) (h : Refused (· == .directive .precondition) (contents ts))
    (hne : ts ≠ []) (n : Nat) : (afterCalls n s).Faces Token.isSignificant ts x := by
  induction n generalizing s with
  | zero => exact hs
  | succ n ih =>
    rcases (reads_parse_nil h).outcome hs with ⟨t, ht, hta, -⟩ | ⟨e, t, -, hnil, -⟩
    · rw [afterCalls, ht]
      exact ih hta
    · exact absurd hnil hne

/-- If the source fails with `e` after the tokens `ts`, then the parser fails where it would take all of `ts` without
the failure, and otherwise does the same as without it. -/
private theorem parse_of_fails {s s₀ u : τ} {ts : List Token} {e : ε} (h₀ : Source.Yields s₀ ts .stops)
    (h : Source.Yields s ts (.fails e u)) :
    ∃ ss t₀, parse (ofTokens s₀) = (.ok ss, t₀) ∧
      ((Exhausted t₀ ∧ ∃ m, m.waiting = 0 ∧ parse (ofTokens s) = (.error e, ⟨u, m⟩)) ∨
        (¬ Exhausted t₀ ∧ ∃ t rest, parse (ofTokens s) = (.ok ss, t) ∧
          t.Faces Token.isSignificant rest (.fails e u) ∧ rest ≠ [] ∧
          Refused (· == .directive .precondition) (contents rest))) := by
  obtain ⟨ss, rest, -, -, hstuck, hreads⟩ := reads_parse (τ := τ) (ε := ε) (ts.filter Token.isSignificant)
  obtain ⟨t₀, ht₀, hta₀⟩ := hreads.of_stops (faces_ofTokens h₀)
  refine ⟨ss, t₀, ht₀, ?_⟩
  rw [exhausted_iff_of_faces hta₀]
  have hgives := hreads _ _ (faces_ofTokens h)
  cases hp : parse (ofTokens s) with
  | mk r t =>
    rw [hp] at hgives
    cases hgives with
    | ok hta hnil =>
      have hne : rest ≠ [] := fun hrest => by cases hnil hrest
      have hrefused : Refused (· == .directive .precondition) (contents rest) :=
        hstuck.mono fun k hk => by simp [takesAfter, show k = .directive .precondition by simpa using hk]
      exact .inr ⟨hne, t, rest, rfl, hta, hne, hrefused⟩
    | error hrest hfin hm =>
      cases hfin
      exact .inl ⟨hrest, _, hm, rfl⟩

/-- A failure that is faced is still to come from the source. -/
private theorem exists_yields_of_faces {s : Parser τ} {u : τ} {ts : List Token} {e : ε}
    (h : s.Faces Token.isSignificant ts (.fails e u)) : ∃ before, Source.Yields s.source before (.fails e u) := by
  obtain ⟨bs, hs, -⟩ := h
  obtain ⟨s, m⟩ := s
  cases m with
  | replaying a =>
    obtain ⟨as, -, hy⟩ := hs
    exact ⟨as, hy⟩
  | empty => exact ⟨bs, hs⟩
  | holding a => exact ⟨bs, hs⟩

end Failing

/-- A new parser of a script, with its pulls counted. -/
def ofScript (script : Script Token ε) : Parser (Tally (Script Token ε) Token) := ofTokens (.ofSource script)

/-- If the parser would take all tokens before the first failure of a script, then it ends with the failure, has
pulled just these tokens and the failure, and any number of later calls show what they show of a new parser of what
comes after the failure.  Otherwise its result is that of the tokens alone, and no later call gets to the failure. -/
theorem parse_ofScript_failed {ε : Type} (ts : List Token) (e : ε) (later : Script Token ε) :
    let alone := parse (ofScript (ε := ε) (ts.map .item))
    let s := ofScript (ts.map .item ++ .failed e :: later)
    (Exhausted alone.2 → ∃ r, parse s = (.error e, r) ∧ r.source = ⟨later, ts.length + 1, ts⟩ ∧
      ∀ n, calls n r = calls n (ofScript later)) ∧
    (¬ Exhausted alone.2 → (∃ ss, alone.1 = .ok ss ∧ (parse s).1 = .ok ss) ∧
      ∀ n, ∃ before : List Token,
        (afterCalls (n + 1) s).source.source = before.map .item ++ .failed e :: later) := by
  intro alone s
  have h₀ := Tally.yields_stops (Script.yields_items (ε := ε) ts) 0 []
  have h := Tally.yields_fails (Script.yields_fails ts e later) 0 []
  rw [Nat.zero_add, List.nil_append] at h
  obtain ⟨ss, t₀, ht₀, hcases⟩ := parse_of_fails h₀ h
  have halone : alone = (.ok ss, t₀) := ht₀
  rw [halone]
  rcases hcases with ⟨hex, m, hm, hs⟩ | ⟨hex, t, rest, hs, hta, hne, hrefused⟩
  · refine ⟨fun _ => ⟨_, hs, rfl, fun n => ?_⟩, fun hn => absurd hex hn⟩
    have hcontinues : Tally.Continues (ts.length + 1) ts ⟨later, ts.length + 1, ts⟩ (Tally.ofSource later) := by
      simp [Tally.Continues, Tally.ofSource]
    exact calls_eq_of_continues (.of_idle hcontinues hm) n
  · refine ⟨fun hx => absurd hx hex, fun _ => ⟨⟨ss, rfl, congrArg Prod.fst hs⟩, fun n => ?_⟩⟩
    have hta' := faces_afterCalls hta hrefused hne n
    have hs' : afterCalls (n + 1) s = afterCalls n t := congrArg (afterCalls n) (congrArg Prod.snd hs)
    obtain ⟨before, hbefore⟩ := exists_yields_of_faces hta'
    rw [hs']
    exact ⟨before, Script.eq_of_yields_fails (Tally.yields_source hbefore)⟩

/-- A failure in the middle of a block with prose at its end, with a second failure after it, and one behind a stray
link. -/
theorem parse_ofScript_failed_twice :
    let ts : List Token := [⟨.directive .precondition, "g", 1⟩, ⟨.command, "a", 2⟩, ⟨.prose, "p", 3⟩]
    let stray : List Token := [⟨.directive .precondition, "g", 1⟩, ⟨.directive .instead, "h", 2⟩,
      ⟨.directive .also, "i", 3⟩, ⟨.directive .precondition, "j", 4⟩]
    let later : Script Token Fault := [.item ⟨.command, "b", 4⟩, .failed .nulInPath]
    let e := Fault.nulInArgument
    (Exhausted (parse (ofScript (ε := Fault) (ts.map .item))).2 ∧
      ∃ r, parse (ofScript (ts.map .item ++ .failed e :: later)) = (.error e, r) ∧
        r.source = ⟨later, ts.length + 1, ts⟩ ∧ ∀ n, calls n r = calls n (ofScript later)) ∧
    (¬ Exhausted (parse (ofScript (ε := Fault) (stray.map .item))).2 ∧
      (∃ ss, (parse (ofScript (ε := Fault) (stray.map .item))).1 = .ok ss ∧
        (parse (ofScript (stray.map .item ++ .failed e :: later))).1 = .ok ss) ∧
      ∀ n, ∃ before : List Token,
        (afterCalls (n + 1) (ofScript (stray.map .item ++ .failed e :: later))).source.source =
          before.map .item ++ .failed e :: later) := by
  intro ts stray later e
  have hex : Exhausted (parse (ofScript (ε := Fault) (ts.map .item))).2 := by decide +kernel
  have hstray : ¬ Exhausted (parse (ofScript (ε := Fault) (stray.map .item))).2 := by decide +kernel
  exact ⟨⟨hex, (parse_ofScript_failed ts e later).1 hex⟩, hstray, (parse_ofScript_failed stray e later).2 hstray⟩

end Parser

end Acceptance
