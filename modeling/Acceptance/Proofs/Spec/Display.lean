import Acceptance.Proofs.Spec.Grammar
import Acceptance.Proofs.Text.Quoted
import Acceptance.Spec.Display

/-!
# The text of a scenario determines it

Where no description holds an opening bracket, two scenarios of one text are equal, whatever their shape and their
commands are (`Scenario.text_eq_text_iff`).  The text is followed from its front: a label tells the kind of an
expression, the first bracket where its description ends, and quoted commands and neighbouring children are told
apart.  Of quoting nothing else is used, so the same holds whichever characters are written by their code points.
-/

namespace Acceptance

/-! ### Texts with another quoting -/

namespace Expression

variable (q : String → String)

mutual

/-- The text of an expression whose commands are quoted by `q`. -/
def textBy : Expression → String
  | .block d cs => braced "Block" (d ++ " " ++ ("[" ++ ", ".intercalate (cs.map q) ++ "]"))
  | .all children => braced "And" (spaced (textsBy children))
  | .any children => braced "Or" (spaced (textsBy children))

def textsBy : List Expression → List String
  | [] => []
  | e :: es => e.textBy :: textsBy es

end

mutual

theorem text_eq_textBy : (e : Expression) → e.text = e.textBy quote
  | .block _ _ => rfl
  | .all children => by rw [text, textBy, texts_eq_textsBy children]
  | .any children => by rw [text, textBy, texts_eq_textsBy children]

theorem texts_eq_textsBy : (es : List Expression) → texts es = textsBy quote es
  | [] => rfl
  | e :: es => by rw [texts, textsBy, text_eq_textBy e, texts_eq_textsBy es]

end

theorem textsBy_eq_map (es : List Expression) : textsBy q es = es.map (textBy q) := by
  induction es with
  | nil => rfl
  | cons e es ih => rw [textsBy, ih, List.map_cons]

def optionalTextBy : Option Expression → String
  | none => "<none>"
  | some e => e.textBy q

end Expression

/-- The text of a behavior whose commands are quoted by `q`. -/
def Behavior.textBy (q : String → String) (b : Behavior) : String :=
  braced "Behavior" ("When: " ++ Expression.optionalTextBy q b.action ++
    " Then: " ++ Expression.optionalTextBy q b.expectation)

namespace Scenario

def cleanupTextBy (q : String → String) : Option Expression → String
  | none => ""
  | some e => " Finally: " ++ e.textBy q

/-- The text of a scenario whose commands are quoted by `q`. -/
def textBy (q : String → String) (sc : Scenario) : String :=
  braced "Scenario" (sc.precondition.textBy q ++ " [" ++ spaced (sc.behaviors.map (Behavior.textBy q)) ++ "]" ++
    cleanupTextBy q sc.cleanup)

theorem text_eq_textBy (sc : Scenario) : sc.text = sc.textBy quote := by
  have hoptional (e : Option Expression) : Expression.optionalText e = Expression.optionalTextBy quote e := by
    cases e with
    | none => rfl
    | some e => exact e.text_eq_textBy
  have hbehavior : Behavior.text = Behavior.textBy quote := by
    funext b
    rw [Behavior.text, Behavior.textBy, hoptional, hoptional]
  have hcleanup (e : Option Expression) : cleanupText e = cleanupTextBy quote e := by
    cases e with
    | none => rfl
    | some e => rw [cleanupText, cleanupTextBy, e.text_eq_textBy]
  rw [text, textBy, hbehavior, hcleanup, Expression.text_eq_textBy]

end Scenario

/-! ### Descriptions -/

namespace Expression

mutual

/-- The descriptions of the blocks of an expression, from left to right. -/
def descriptions : Expression → List String
  | .block d _ => [d]
  | .all children => descriptionsIn children
  | .any children => descriptionsIn children

def descriptionsIn : List Expression → List String
  | [] => []
  | e :: es => e.descriptions ++ descriptionsIn es

end

theorem descriptionsIn_eq_flatMap (es : List Expression) : descriptionsIn es = es.flatMap descriptions := by
  induction es with
  | nil => rfl
  | cons e es ih => rw [descriptionsIn, ih, List.flatMap_cons]

/-- No description holds an opening bracket. -/
def Unbracketed (e : Expression) : Prop := ∀ d ∈ e.descriptions, '[' ∉ d.toList

theorem unbracketed_block {d : String} {cs : List String} : (block d cs).Unbracketed ↔ '[' ∉ d.toList :=
  List.forall_mem_singleton

theorem unbracketed_all {es : List Expression} : (all es).Unbracketed ↔ ∀ e ∈ es, e.Unbracketed := by
  rw [Unbracketed, descriptions, descriptionsIn_eq_flatMap, List.forall_mem_flatMap]
  rfl

theorem unbracketed_any {es : List Expression} : (any es).Unbracketed ↔ ∀ e ∈ es, e.Unbracketed := unbracketed_all

end Expression

/-- No description holds an opening bracket. -/
def Scenario.Unbracketed (sc : Scenario) : Prop := ∀ p ∈ sc.parts, p.2.Unbracketed

instance (e : Expression) : Decidable e.Unbracketed :=
  inferInstanceAs (Decidable (∀ d ∈ e.descriptions, '[' ∉ d.toList))

instance (sc : Scenario) : Decidable sc.Unbracketed :=
  inferInstanceAs (Decidable (∀ p ∈ sc.parts, p.2.Unbracketed))

/-! ### Following the text -/

/-- Quoted texts are told apart, and do not begin like the end of a list. -/
structure Quotes (q : String → String) : Prop where
  toldApart : ∀ s t, ToldApart (fun s => (q s).toList) s t
  begins : ∀ s, BeginsOther ']' (q s).toList

theorem quotes_quoteBy (byCode : Char → Bool) : Quotes (quoteBy byCode) where
  toldApart := toldApart_quoteBy byCode
  begins s := by
    rw [quoteBy, String.toList_ofList]
    exact ⟨'"', _, rfl, by decide⟩

namespace Expression

variable {q : String → String}

theorem toList_textBy_block (d : String) (cs : List String) (r : List Char) :
    (textBy q (.block d cs)).toList ++ r =
      'B' :: 'l' :: 'o' :: 'c' :: 'k' :: '{' :: ((d.toList ++ [' ']) ++ '[' ::
        ([',', ' '].intercalate (cs.map fun c => (q c).toList) ++ ']' :: '}' :: r)) := by
  simp [textBy, braced, Function.comp_def]

theorem toList_textBy_all (es : List Expression) (r : List Char) :
    (textBy q (.all es)).toList ++ r =
      'A' :: 'n' :: 'd' :: '{' :: ([' '].intercalate (es.map fun e => (textBy q e).toList) ++ '}' :: r) := by
  simp [textBy, braced, spaced, textsBy_eq_map, Function.comp_def]

theorem toList_textBy_any (es : List Expression) (r : List Char) :
    (textBy q (.any es)).toList ++ r =
      'O' :: 'r' :: '{' :: ([' '].intercalate (es.map fun e => (textBy q e).toList) ++ '}' :: r) := by
  simp [textBy, braced, spaced, textsBy_eq_map, Function.comp_def]

/-- An expression begins with a label. -/
theorem beginsOther_textBy {c : Char} (hc : c ∉ ['B', 'A', 'O']) (e : Expression) :
    BeginsOther c (textBy q e).toList := by
  have hfront := List.append_nil (textBy q e).toList
  simp only [List.mem_cons, List.not_mem_nil, or_false, not_or] at hc
  cases e with
  | block d cs => exact ⟨'B', _, hfront.symm.trans (toList_textBy_block d cs []), Ne.symm hc.1⟩
  | all es => exact ⟨'A', _, hfront.symm.trans (toList_textBy_all es []), Ne.symm hc.2.1⟩
  | any es => exact ⟨'O', _, hfront.symm.trans (toList_textBy_any es []), Ne.symm hc.2.2⟩

/-- The space behind a description does not hide the bracket that ends it. -/
theorem append_space_unbracketed {d : String} {cs : List String} (h : (block d cs).Unbracketed) :
    '[' ∉ d.toList ++ [' '] := by
  rw [List.mem_append]
  rintro (hd | hd)
  · exact unbracketed_block.1 h hd
  · simp at hd

theorem children_append_inj {es es' : List Expression}
    (hes : ∀ a ∈ es, ∀ b ∈ es', ToldApart (fun e => (textBy q e).toList) a b) {r r' : List Char}
    (h : [' '].intercalate (es.map fun e => (textBy q e).toList) ++ '}' :: r =
      [' '].intercalate (es'.map fun e => (textBy q e).toList) ++ '}' :: r') : es = es' ∧ r = r' :=
  intercalate_append_inj ⟨' ', [], rfl, by decide⟩ (beginsOther_textBy (by decide)) hes h

mutual

/-- An expression shows where its text ends and which one it is.  Expressions of two kinds differ in their labels. -/
theorem toldApart_textBy (hq : Quotes q) : (e : Expression) → e.Unbracketed → ∀ e' : Expression, e'.Unbracketed →
    ToldApart (fun e => (textBy q e).toList) e e'
  | .block d cs, hd, e', hd' => by
    intro r r' h
    cases e' with
    | block d' cs' =>
      have hd := append_space_unbracketed hd
      have hd' := append_space_unbracketed hd'
      simp only [toList_textBy_block, List.cons.injEq, true_and] at h
      -- the first bracket ends the description
      obtain ⟨hds, hlist⟩ := append_cons_inj hd hd' h
      obtain ⟨rfl, hr⟩ := intercalate_append_inj ⟨',', [' '], rfl, by decide⟩ hq.begins
        (fun a _ b _ => hq.toldApart a b) hlist
      obtain rfl : d = d' := String.toList_inj.1 (List.append_singleton_inj.1 hds).1
      exact ⟨rfl, (List.cons.inj hr).2⟩
    | all es => simp [toList_textBy_block, toList_textBy_all] at h
    | any es => simp [toList_textBy_block, toList_textBy_any] at h
  | .all es, hes, e', hes' => by
    intro r r' h
    cases e' with
    | block d cs => simp [toList_textBy_block, toList_textBy_all] at h
    | all es' =>
      simp only [toList_textBy_all, List.cons.injEq, true_and] at h
      have happart := toldApart_textsBy hq es (unbracketed_all.1 hes)
      obtain ⟨rfl, hr⟩ := children_append_inj (fun a ha b hb => happart a ha b (unbracketed_all.1 hes' b hb)) h
      exact ⟨rfl, hr⟩
    | any es' => simp [toList_textBy_all, toList_textBy_any] at h
  | .any es, hes, e', hes' => by
    intro r r' h
    cases e' with
    | block d cs => simp [toList_textBy_block, toList_textBy_any] at h
    | all es' => simp [toList_textBy_all, toList_textBy_any] at h
    | any es' =>
      simp only [toList_textBy_any, List.cons.injEq, true_and] at h
      have happart := toldApart_textsBy hq es (unbracketed_any.1 hes)
      obtain ⟨rfl, hr⟩ := children_append_inj (fun a ha b hb => happart a ha b (unbracketed_any.1 hes' b hb)) h
      exact ⟨rfl, hr⟩

theorem toldApart_textsBy (hq : Quotes q) : (es : List Expression) → (∀ e ∈ es, e.Unbracketed) →
    ∀ e ∈ es, ∀ e' : Expression, e'.Unbracketed → ToldApart (fun e => (textBy q e).toList) e e'
  | [], _ => nofun
  | e :: es, hes => by
    obtain ⟨he, hes⟩ := List.forall_mem_cons.1 hes
    exact List.forall_mem_cons.2 ⟨toldApart_textBy hq e he, toldApart_textsBy hq es hes⟩

end

/-- So does one that may be missing. -/
theorem toldApart_optionalTextBy (hq : Quotes q) {e e' : Option Expression} (he : ∀ x ∈ e, x.Unbracketed)
    (he' : ∀ x ∈ e', x.Unbracketed) : ToldApart (fun e => (optionalTextBy q e).toList) e e' := by
  intro r r' h
  have hmissing (x : Expression) (r r' : List Char) : "<none>".toList ++ r ≠ (textBy q x).toList ++ r' :=
    fun heq => (beginsOther_textBy (by decide) x).ne r' _ heq.symm
  cases e with
  | none =>
    cases e' with
    | none => exact ⟨rfl, List.append_cancel_left h⟩
    | some x' => exact absurd h (hmissing x' r r')
  | some x =>
    cases e' with
    | none => exact absurd h.symm (hmissing x r' r)
    | some x' =>
      obtain ⟨rfl, hr⟩ := toldApart_textBy hq x (he x rfl) x' (he' x' rfl) r r' h
      exact ⟨rfl, hr⟩

end Expression

open Expression (optionalTextBy toldApart_textBy toldApart_optionalTextBy)

namespace Behavior

variable {q : String → String}

theorem toList_textBy (b : Behavior) (r : List Char) :
    (textBy q b).toList ++ r = "Behavior\x7bWhen: ".toList ++ ((optionalTextBy q b.action).toList ++
      (" Then: ".toList ++ ((optionalTextBy q b.expectation).toList ++ '}' :: r))) := by
  simp [textBy, braced]

theorem toldApart_textBy (hq : Quotes q) {b b' : Behavior} (hb : ∀ p ∈ b.parts, p.2.Unbracketed)
    (hb' : ∀ p ∈ b'.parts, p.2.Unbracketed) : ToldApart (fun b => (textBy q b).toList) b b' := by
  intro r r' h
  simp only [toList_textBy, List.append_cancel_left_eq] at h
  obtain ⟨hwhen, h⟩ := toldApart_optionalTextBy hq (fun _ hx => hb _ (action_mem_parts hx))
    (fun _ hx => hb' _ (action_mem_parts hx)) _ _ h
  rw [List.append_cancel_left_eq] at h
  obtain ⟨hthen, h⟩ := toldApart_optionalTextBy hq (fun _ hx => hb _ (expectation_mem_parts hx))
    (fun _ hx => hb' _ (expectation_mem_parts hx)) _ _ h
  obtain ⟨-, hr⟩ := List.cons.inj h
  cases b
  cases b'
  cases hwhen
  cases hthen
  exact ⟨rfl, hr⟩

theorem beginsOther_textBy (b : Behavior) : BeginsOther ']' (textBy q b).toList :=
  ⟨'B', _, (List.append_nil _).symm.trans (toList_textBy b []), by decide⟩

end Behavior

namespace Scenario

variable {q : String → String}

theorem toList_textBy (sc : Scenario) :
    (textBy q sc).toList = "Scenario\x7b".toList ++ ((sc.precondition.textBy q).toList ++ (" [".toList ++
      ([' '].intercalate (sc.behaviors.map fun b => (b.textBy q).toList) ++ ']' ::
        ((cleanupTextBy q sc.cleanup).toList ++ ['}'])))) := by
  simp [textBy, braced, spaced, Function.comp_def]

theorem cleanupTextBy_inj (hq : Quotes q) {c c' : Option Expression} (hc : ∀ x ∈ c, x.Unbracketed)
    (hc' : ∀ x ∈ c', x.Unbracketed)
    (h : (cleanupTextBy q c).toList ++ ['}'] = (cleanupTextBy q c').toList ++ ['}']) : c = c' := by
  cases c with
  | none =>
    cases c' with
    | none => rfl
    | some x' => simp [cleanupTextBy] at h
  | some x =>
    cases c' with
    | none => simp [cleanupTextBy] at h
    | some x' =>
      simp only [cleanupTextBy, String.toList_append, List.append_assoc, List.append_cancel_left_eq] at h
      exact congrArg some (toldApart_textBy hq x (hc x rfl) x' (hc' x' rfl) _ _ h).1

theorem textBy_inj (hq : Quotes q) {a b : Scenario} (ha : a.Unbracketed) (hb : b.Unbracketed)
    (h : a.textBy q = b.textBy q) : a = b := by
  have happart : ∀ x ∈ a.behaviors, ∀ y ∈ b.behaviors, ToldApart (fun b => (Behavior.textBy q b).toList) x y :=
    fun x hx y hy => Behavior.toldApart_textBy hq (fun p hp => ha p (mem_parts_of_mem_behaviors hx hp))
      fun p hp => hb p (mem_parts_of_mem_behaviors hy hp)
  have h := congrArg String.toList h
  simp only [toList_textBy, List.append_cancel_left_eq] at h
  obtain ⟨hgiven, h⟩ := toldApart_textBy hq _ (ha _ a.precondition_mem_parts) _ (hb _ b.precondition_mem_parts) _ _ h
  rw [List.append_cancel_left_eq] at h
  obtain ⟨hspecified, h⟩ := intercalate_append_inj ⟨' ', [], rfl, by decide⟩ Behavior.beginsOther_textBy happart h
  have hfinally := cleanupTextBy_inj hq (fun _ hx => ha _ (cleanup_mem_parts hx))
    (fun _ hx => hb _ (cleanup_mem_parts hx)) h
  cases a
  cases b
  cases hgiven
  cases hspecified
  cases hfinally
  rfl

/-- Scenarios whose descriptions hold no opening bracket are told by their texts, whatever their commands are and
whichever characters are written by their code points. -/
theorem text_eq_text_iff {a b : Scenario} (ha : a.Unbracketed) (hb : b.Unbracketed) :
    (a.text = b.text ↔ a = b) ∧
      ∀ byCode, a.textBy (quoteBy byCode) = b.textBy (quoteBy byCode) ↔ a = b := by
  have hby (byCode : Char → Bool) : a.textBy (quoteBy byCode) = b.textBy (quoteBy byCode) ↔ a = b :=
    ⟨textBy_inj (quotes_quoteBy byCode) ha hb, fun h => h ▸ rfl⟩
  refine ⟨?_, hby⟩
  rw [text_eq_textBy, text_eq_textBy, quote_eq_quoteBy]
  exact hby writtenByCode

/-- A command that reads like the end of one and the begin of another is not taken for two. -/
theorem text_ne_text_two_commands :
    let a : Scenario := ⟨.all [.block "p" ["x\", \"y"], .any []], [⟨none, none⟩], none⟩
    let b : Scenario := ⟨.all [.block "p" ["x", "y"], .any []], [⟨none, none⟩], none⟩
    a.Unbracketed ∧ b.Unbracketed ∧ a.text ≠ b.text := by
  intro a b
  have ha : a.Unbracketed := by decide
  have hb : b.Unbracketed := by decide
  have hne : a ≠ b := by simp [a, b]
  exact ⟨ha, hb, fun h => hne ((text_eq_text_iff ha hb).1.1 h)⟩

/-- With an opening bracket in a description one block may look like two. -/
example :
    let a : Scenario := ⟨.all [.block "p" ["x"], .block "q" ["y"]], [], none⟩
    let b : Scenario := ⟨.all [.block "p [\"x\"]\x7d Block\x7bq" ["y"]], [], none⟩
    a ≠ b ∧ a.text = b.text := by
  decide

end Scenario

end Acceptance
