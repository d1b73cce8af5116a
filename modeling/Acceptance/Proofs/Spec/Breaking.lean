import Acceptance.Proofs.Spec.Entry

/-!
# Readers that break off

A parser that can use all tokens before a failure has to look at what comes next and meets the failure, whatever it
has read before; in front of a token that it cannot use it stops and never gets there.  So a reader that fails gives
no scenarios if and only if scenarios spell all of the tokens before the failure (`parseReader_eq_error_iff`).
-/

namespace Acceptance

/-- Scenarios spell the tokens to the last one. -/
def Spelled (cs : List Content) : Prop := ∃ ss : List Scenario, (∀ sc ∈ ss, sc.Canonical) ∧ cs = spelling ss

namespace Parser

/-- The parser fails if the source does and scenarios spell all tokens before the failure. -/
theorem parse_eq_error_iff {σ ε : Type} [Source σ Token ε] {s : σ} {ts : List Token} {x : Finish σ ε} {e : ε}
    (h : Source.Yields s ts x) :
    (parse (ofTokens s)).1 = .error e ↔
      (∃ t, x = .fails e t) ∧ Spelled (contents (ts.filter Token.isSignificant)) := by
  obtain ⟨ss, rest, hs, hcan, hstuck, hreads⟩ := reads_parse (τ := σ) (ε := ε) (ts.filter Token.isSignificant)
  have hgives := hreads _ _ (faces_ofTokens h)
  generalize parse (ofTokens s) = result at hgives
  cases hgives with
  | ok _ hfinish =>
    refine iff_of_false (by simp) ?_
    rintro ⟨⟨t, rfl⟩, ss', hcan', hs'⟩
    -- the tokens are spelled in one way, so nothing is left, and the parser has met the failure
    have hsplit : spelling ss ++ contents rest = spelling ss' ++ [] := by rw [← hs, hs', List.append_nil]
    obtain ⟨-, hnil⟩ := spelling_append_inj hcan hcan' hstuck (stuck_nil ss') hsplit
    cases hfinish (List.map_eq_nil_iff.1 hnil)
  | error hrest hfails =>
    subst hfails
    have hspelled : Spelled (contents (ts.filter Token.isSignificant)) := ⟨ss, hcan, by rw [hs, hrest]; simp [contents]⟩
    constructor
    · rintro ⟨⟩
      exact ⟨⟨_, rfl⟩, hspelled⟩
    · rintro ⟨⟨t, ht⟩, -⟩
      cases ht
      rfl

end Parser

/-- The reader fails after some lines, and there is no token in them that the parser cannot use. -/
def Reader.Breaks (r : Reader) (cause : Fault) : Prop :=
  ∃ ls t, Source.Yields (Lines.ofReader r) ls (.fails cause t) ∧
    Spelled (contents ((tokensFrom 0 (ls.filter Line.isNotBlank)).filter Token.isSignificant))

/-- Reading a specification fails if and only if the reader does before the parser stops. -/
theorem parseReader_eq_error_iff {r : Reader} {cause : Fault} : parseReader r = .error cause ↔ r.Breaks cause := by
  have htokens {ls : List Line} {x : Finish Lines Fault} (hy : Source.Yields (Lines.ofReader r) ls x) :=
    Lexer.yields_tokensFrom 0 (Filtered.yields_ofPredicate (p := Line.isNotBlank) hy)
  constructor
  · intro h
    obtain ⟨ls, x, hy, -⟩ := Lines.exists_yields (.ofReader r)
    obtain ⟨⟨t, ht⟩, hspelled⟩ := (Parser.parse_eq_error_iff (htokens hy)).1 h
    cases x with
    | stops => cases ht
    | fails e u =>
      cases ht
      exact ⟨ls, u, hy, hspelled⟩
  · rintro ⟨ls, t, hy, hspelled⟩
    exact (Parser.parse_eq_error_iff (htokens hy)).2 ⟨⟨_, rfl⟩, hspelled⟩

end Acceptance
