import Acceptance.Proofs.Spec.Display
import Acceptance.Proofs.Spec.Entry

/-!
# The description of an expression

The description of an expression is looked for at its first child, at the first child of that, and so on.  At the end
of this branch stands either a block or a chain without children.  A block there is the first block of the whole
expression; a chain without children hides every block that comes after it (`description_eq_headD_iff`).  A text has no
such chains, so each chunk of a parsed scenario is described by its first block (`description_of_mem_parseText`).
-/

namespace Acceptance

namespace Expression

/-- What stands at the end of a branch. -/
inductive Leaf where
  | block (description : String)
  /-- A chain without children. -/
  | bare
deriving DecidableEq, Repr

/-- The description of a block. -/
def Leaf.description? : Leaf → Option String
  | block d => some d
  | bare => none

mutual

/-- The ends of the branches of an expression, from left to right. -/
def leaves : Expression → List Leaf
  | .block d _ => [.block d]
  | .all children => if children.isEmpty then [.bare] else leavesIn children
  | .any children => if children.isEmpty then [.bare] else leavesIn children

def leavesIn : List Expression → List Leaf
  | [] => []
  | e :: es => e.leaves ++ leavesIn es

end

theorem leaves_ne_nil (e : Expression) : e.leaves ≠ [] := by
  fun_induction description e with
  | case1 | case2 | case4 => simp [leaves]
  | case3 e es ih | case5 e es ih => simp [leaves, leavesIn, ih]

mutual

/-- The blocks of an expression are those of its leaves that are not bare. -/
theorem descriptions_eq_filterMap : (e : Expression) → e.descriptions = e.leaves.filterMap Leaf.description?
  | .block _ _ => rfl
  | .all [] => rfl
  | .any [] => rfl
  | .all (e :: es) => descriptionsIn_eq_filterMap (e :: es)
  | .any (e :: es) => descriptionsIn_eq_filterMap (e :: es)

theorem descriptionsIn_eq_filterMap :
    (es : List Expression) → descriptionsIn es = (leavesIn es).filterMap Leaf.description?
  | [] => rfl
  | e :: es => by
    rw [descriptionsIn, leavesIn, List.filterMap_append, descriptions_eq_filterMap e, descriptionsIn_eq_filterMap es]

end

/-- The description is that of the first leaf, and empty if that one is bare. -/
theorem description_eq_head? (e : Expression) : e.description = (e.leaves.head?.bind Leaf.description?).getD "" := by
  fun_induction description e with
  | case1 | case2 | case4 => rfl
  | case3 e es ih | case5 e es ih =>
    -- the first leaf of a chain is that of its first child
    have hfirst : (e.leaves ++ leavesIn es).head? = e.leaves.head? := List.head?_append_of_ne_nil _ e.leaves_ne_nil
    rw [ih, leaves, List.isEmpty_cons, if_neg Bool.false_ne_true, leavesIn, hfirst]

/-- The description is that of the first block from left to right, and empty if there is none, just in case no chain
without children comes before that block or its description is empty.  Behind such a chain no block is found. -/
theorem description_eq_headD_iff (e : Expression) :
    (e.description = e.descriptions.headD "" ↔ e.leaves.head? ≠ some .bare ∨ e.descriptions.headD "" = "") ∧
      e.description = (e.leaves.head?.bind Leaf.description?).getD "" ∧
      e.descriptions = e.leaves.filterMap Leaf.description? := by
  refine ⟨?_, e.description_eq_head?, e.descriptions_eq_filterMap⟩
  rw [e.description_eq_head?, e.descriptions_eq_filterMap]
  cases hl : e.leaves with
  | nil => exact absurd hl e.leaves_ne_nil
  | cons leaf rest =>
    cases leaf with
    | block d => exact iff_of_true rfl (.inl (by simp))
    | bare =>
      -- what is said of the description is that it is empty
      have hbare : some Leaf.bare ≠ some .bare ↔ False := by simp
      rw [List.head?_cons, hbare, false_or]
      exact eq_comm

/-- A chain without children in front of a block hides the description of the block. -/
theorem description_ne_headD_bare :
    (all [all [], block "x" ["true"]]).description = "" ∧
      (all [all [], block "x" ["true"]]).descriptions.headD "" = "x" :=
  ⟨rfl, rfl⟩

/-- A canonical expression is described by its first block. -/
theorem Canonical.description_eq {e : Expression} (h : e.Canonical) : e.description = e.descriptions.headD "" := by
  have hchain {es : List Expression} (hes : 2 ≤ es.length ∧ ∀ c ∈ es, c.IsBlock) :
      ∃ d cs rest, es = .block d cs :: rest := by
    match es, hes with
    | .block d cs :: rest, _ => exact ⟨d, cs, rest, rfl⟩
    | .all _ :: _, ⟨_, hblock⟩ => exact absurd (hblock _ List.mem_cons_self) id
    | .any _ :: _, ⟨_, hblock⟩ => exact absurd (hblock _ List.mem_cons_self) id
  cases e with
  | block d cs => rfl
  | all es =>
    obtain ⟨d, cs, rest, rfl⟩ := hchain h
    rfl
  | any es =>
    obtain ⟨d, cs, rest, rfl⟩ := hchain h
    rfl

end Expression

/-- Each chunk of a scenario that is parsed from a text is described by its first block. -/
theorem description_of_mem_parseText {text : String} {sc : Scenario} (h : sc ∈ parseText text) :
    ∀ p ∈ sc.parts, p.2.description = p.2.descriptions.headD "" := fun p hp =>
  (((parseText_greedy text).2.1 sc h).expressions p hp).description_eq

end Acceptance
