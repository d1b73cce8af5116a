import Acceptance.Proofs.Spec.Entry

/-!
# The values of scenarios

The descriptions and the commands of an expression are the values of the tokens that spell it.  So in the scenarios
that are parsed from a reader each of them is a part of a line and holds no newline, whatever the reader is given
(`plain_of_parseReader`).
-/

namespace Acceptance

namespace Expression

mutual

/-- The descriptions and the commands of an expression, in order. -/
def values : Expression → List String
  | .block description commands => description :: commands
  | .all children => valuesIn children
  | .any children => valuesIn children

/-- The descriptions and the commands of expressions, in order. -/
def valuesIn : List Expression → List String
  | [] => []
  | e :: es => e.values ++ valuesIn es

end

mutual

/-- An expression is spelled with its values, whatever it stands under. -/
theorem map_snd_spelling (d : Directive) : (e : Expression) → (e.spelling d).map Prod.snd = e.values
  | .block description commands => by simp [spelling, values, Function.comp_def]
  | .all children => map_snd_chainSpelling d .also children
  | .any children => map_snd_chainSpelling d .instead children

theorem map_snd_chainSpelling (d link : Directive) :
    (es : List Expression) → (chainSpelling d link es).map Prod.snd = valuesIn es
  | [] => rfl
  | e :: es => by
    rw [chainSpelling, List.map_append, map_snd_spelling d e, map_snd_chainSpelling link link es, valuesIn]

end

/-- A description that is not empty is one of the values. -/
theorem description_mem_values (e : Expression) : e.description = "" ∨ e.description ∈ e.values := by
  fun_induction description e with
  | case1 d cs => exact .inr List.mem_cons_self
  | case2 | case4 => exact .inl rfl
  | case3 e es ih | case5 e es ih => exact ih.imp_right (List.mem_append_left _)

theorem oneLine_description {e : Expression} (h : ∀ t ∈ e.values, OneLine t) : OneLine e.description := by
  rcases e.description_mem_values with he | he
  · rw [he]
    decide
  · exact h _ he

end Expression

/-- All values of a scenario are on one line. -/
def Scenario.Plain (sc : Scenario) : Prop := ∀ p ∈ sc.parts, ∀ t ∈ p.2.values, OneLine t

/-- Scenarios are spelled with their values. -/
theorem plain_of_spelling {ss : List Scenario} (h : ∀ c ∈ spelling ss, OneLine c.2) : ∀ sc ∈ ss, sc.Plain := by
  intro sc hsc p hp t ht
  rw [← Expression.map_snd_spelling p.1] at ht
  obtain ⟨c, hc, rfl⟩ := List.mem_map.1 ht
  exact h c (List.mem_flatMap.2 ⟨p, List.mem_flatMap.2 ⟨sc, hsc, hp⟩, hc⟩)

namespace Parser

/-- The scenarios that are parsed are spelled by the tokens in front, however the tokens end. -/
theorem contents_of_parse {σ ε : Type} [Source σ Token ε] {s : σ} {ts : List Token} {x : Finish σ ε}
    (h : Source.Yields s ts x) {ss : List Scenario} (hss : (parse (ofTokens s)).1 = .ok ss) :
    ∃ rest, contents (ts.filter Token.isSignificant) = spelling ss ++ rest := by
  obtain ⟨ss', rest, hs, -, -, hreads⟩ := reads_parse (τ := σ) (ε := ε) (ts.filter Token.isSignificant)
  have hgives := hreads _ _ (faces_ofTokens h)
  generalize parse (ofTokens s) = result at hss hgives
  cases hgives with
  | ok => cases hss; exact ⟨contents rest, hs⟩
  | error => cases hss

end Parser

/-- No value of a scenario holds a newline, whatever it is read from. -/
theorem plain_of_parseReader {r : Reader} {ss : List Scenario} (h : parseReader r = .ok ss) :
    ∀ sc ∈ ss, sc.Plain := by
  obtain ⟨ls, x, hy, hls⟩ := Lines.exists_yields (.ofReader r)
  have htokens := Lexer.yields_tokensFrom 0 (Filtered.yields_ofPredicate (p := Line.isNotBlank) hy)
  obtain ⟨rest, hs⟩ := Parser.contents_of_parse htokens h
  refine plain_of_spelling fun c hc => ?_
  obtain ⟨t, ht, rfl⟩ := List.mem_map.1 (hs ▸ List.mem_append_left rest hc)
  exact oneLine_tokensFrom 0 (fun l hl => hls l (List.mem_filter.1 hl).1) t (List.mem_filter.1 ht).1

end Acceptance
