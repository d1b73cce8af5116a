import Acceptance.Proofs.CommandLine.Refusals
import Acceptance.Proofs.Spec.Display

/-!
# Scenarios in a list

With `--parse-only` each scenario that is read is shown on a line of its own (`answer_listed`).  Commands are quoted,
so a newline in the text of a scenario could only come from one of its descriptions (`Scenario.oneLine_text_iff`), and
these are parts of lines.
-/

namespace Acceptance

/-! ### Texts made of others -/

theorem oneLine_intercalate {sep : String} (hsep : OneLine sep) {texts : List String} :
    OneLine (sep.intercalate texts) ↔ ∀ t ∈ texts, OneLine t := by
  have hsep : '\n' ∉ sep.toList := hsep
  rw [OneLine, String.toList_intercalate]
  cases texts with
  | nil => simp
  | cons t ts =>
    rw [intercalate_cons_eq_flatMap]
    simp [OneLine, hsep]

theorem oneLine_spaced {texts : List String} : OneLine (spaced texts) ↔ ∀ t ∈ texts, OneLine t :=
  oneLine_intercalate (by decide)

theorem oneLine_braced {label inner : String} (h : OneLine label) : OneLine (braced label inner) ↔ OneLine inner := by
  have hopen : OneLine "\x7b" := by decide
  have hclose : OneLine "\x7d" := by decide
  simp [braced, h, hopen, hclose]

/-! ### The text of a scenario -/

/-- No description holds a newline. -/
def Scenario.PlainlyDescribed (sc : Scenario) : Prop := ∀ p ∈ sc.parts, ∀ d ∈ p.2.descriptions, OneLine d

variable {q : String → String}

namespace Expression

mutual

/-- A newline in the text of an expression is one of a description. -/
theorem oneLine_textBy (hq : ∀ s, OneLine (q s)) :
    (e : Expression) → (OneLine (e.textBy q) ↔ ∀ d ∈ e.descriptions, OneLine d)
  | .block d cs => by
    have hlist : OneLine (", ".intercalate (cs.map q)) :=
      (oneLine_intercalate (by decide)).2 (List.forall_mem_map.2 fun c _ => hq c)
    have hspace : OneLine " " := by decide
    have hopen : OneLine "[" := by decide
    have hclose : OneLine "]" := by decide
    rw [textBy, oneLine_braced (by decide), descriptions, List.forall_mem_singleton]
    simp [*]
  | .all children => by
    rw [textBy, oneLine_braced (by decide), oneLine_spaced, oneLine_textsBy hq children, descriptions]
  | .any children => by
    rw [textBy, oneLine_braced (by decide), oneLine_spaced, oneLine_textsBy hq children, descriptions]

theorem oneLine_textsBy (hq : ∀ s, OneLine (q s)) :
    (es : List Expression) → ((∀ t ∈ textsBy q es, OneLine t) ↔ ∀ d ∈ descriptionsIn es, OneLine d)
  | [] => by simp [textsBy, descriptionsIn]
  | e :: es => by
    rw [textsBy, List.forall_mem_cons, oneLine_textBy hq e, oneLine_textsBy hq es, descriptionsIn,
      List.forall_mem_append]

end

theorem oneLine_optionalTextBy (hq : ∀ s, OneLine (q s)) {e : Option Expression} :
    OneLine (optionalTextBy q e) ↔ ∀ x ∈ e, ∀ d ∈ x.descriptions, OneLine d := by
  cases e with
  | none => exact iff_of_true (by decide : OneLine "<none>") nofun
  | some x =>
    rw [optionalTextBy, oneLine_textBy hq]
    simp

end Expression

theorem Behavior.oneLine_textBy (hq : ∀ s, OneLine (q s)) {b : Behavior} :
    OneLine (b.textBy q) ↔ ∀ p ∈ b.parts, ∀ d ∈ p.2.descriptions, OneLine d := by
  have hwhen : OneLine "When: " := by decide
  have hthen : OneLine " Then: " := by decide
  rw [Behavior.textBy, oneLine_braced (by decide), Behavior.parts, List.forall_mem_append]
  simp [Expression.oneLine_optionalTextBy hq, *]

namespace Scenario

theorem oneLine_cleanupTextBy (hq : ∀ s, OneLine (q s)) {e : Option Expression} :
    OneLine (cleanupTextBy q e) ↔ ∀ x ∈ e, ∀ d ∈ x.descriptions, OneLine d := by
  cases e with
  | none => exact iff_of_true (by decide : OneLine "") nofun
  | some x =>
    have hfinally : OneLine " Finally: " := by decide
    rw [cleanupTextBy, oneLine_append, Expression.oneLine_textBy hq]
    simp [hfinally]

theorem oneLine_textBy (hq : ∀ s, OneLine (q s)) {sc : Scenario} : OneLine (sc.textBy q) ↔ sc.PlainlyDescribed := by
  have hopen : OneLine " [" := by decide
  have hclose : OneLine "]" := by decide
  rw [textBy, oneLine_braced (by decide), PlainlyDescribed, parts, List.forall_mem_cons, List.forall_mem_append,
    List.forall_mem_flatMap]
  simp [Expression.oneLine_textBy hq, oneLine_spaced, Behavior.oneLine_textBy hq, oneLine_cleanupTextBy hq, and_assoc,
    *]

/-- A newline in the text of a scenario is one of a description, whatever the commands are. -/
theorem oneLine_text_iff {sc : Scenario} : OneLine sc.text ↔ sc.PlainlyDescribed := by
  rw [text_eq_textBy, quote_eq_quoteBy]
  exact oneLine_textBy (oneLine_quoteBy writtenByCode)

end Scenario

namespace Expression

mutual

theorem descriptions_subset_values : (e : Expression) → e.descriptions ⊆ e.values
  | .block _ _ => List.cons_subset_cons _ (List.nil_subset _)
  | .all children => descriptionsIn_subset_valuesIn children
  | .any children => descriptionsIn_subset_valuesIn children

theorem descriptionsIn_subset_valuesIn : (es : List Expression) → descriptionsIn es ⊆ valuesIn es
  | [] => List.nil_subset _
  | e :: es => by
    rw [descriptionsIn, valuesIn]
    exact List.append_subset.2 ⟨List.subset_append_of_subset_left _ (descriptions_subset_values e),
      List.subset_append_of_subset_right _ (descriptionsIn_subset_valuesIn es)⟩

end

end Expression

theorem Scenario.Plain.oneLine_text {sc : Scenario} (h : sc.Plain) : OneLine sc.text :=
  Scenario.oneLine_text_iff.2 fun p hp d hd => h p hp d (p.2.descriptions_subset_values hd)

/-! ### The output -/

namespace CommandLine

variable {κ : Type}

/-- If no line holds a newline, then there are as many newlines as lines. -/
theorem count_newline_ofLines {lines : List String} (h : ∀ line ∈ lines, OneLine line) :
    (Outcome.ofLines lines).toList.count '\n' = lines.length := by
  rw [toList_ofLines]
  induction lines with
  | nil => rfl
  | cons line lines ih =>
    obtain ⟨hline, hlines⟩ := List.forall_mem_cons.1 h
    rw [List.map_cons, List.flatMap_cons, List.count_append, List.count_append, List.count_eq_zero.2 hline, ih hlines,
      List.count_singleton_self, List.length_cons]
    omega

/-- The scenarios that are read without an error are shown, one on each line and in order.  Neither a description nor a
command in them holds a newline, however deep it stands in its scenario, and the text of a scenario adds none. -/
theorem answer_listed (p : Platform κ) (args : List String) (input : Reader) (w : World κ) (o : Options) (r : Reader)
    (ss : List Scenario) (hargs : p.arguments args = .ok o) (hshow : o.parseOnly = true)
    (hspec : o.specification input w = .ok r) (hss : parseReader r = .ok ss) :
    let out := (answer p args input w).1
    out.status = 0 ∧ out.output.toList.count '\n' = ss.length ∧ out.lines = ss.map Scenario.text ∧
    ∀ sc ∈ ss, sc.Plain ∧ OneLine sc.text := by
  intro out
  have hplain : ∀ sc ∈ ss, sc.Plain := plain_of_parseReader hss
  have htexts : ∀ line ∈ ss.map Scenario.text, OneLine line :=
    List.forall_mem_map.2 fun sc hsc => (hplain sc hsc).oneLine_text
  have hscenarios : o.scenarios input w = .ok ss := by
    rw [Options.scenarios_eq, hspec]
    simp only [hss]
    rfl
  have hout : out = .printed true (ss.map Scenario.text) := by
    show (answer p args input w).1 = _
    simp only [answer, hargs, perform_of_parseOnly hshow, hscenarios]
  have hcount : out.output.toList.count '\n' = ss.length := by
    rw [hout, Outcome.printed, count_newline_ofLines htexts, List.length_map]
  rw [hcount, hout, lines_printed true htexts]
  exact ⟨rfl, rfl, rfl, fun sc hsc => ⟨hplain sc hsc, (hplain sc hsc).oneLine_text⟩⟩

/-- Carriage returns inside of lines, a byte that is not UTF-8, a command that quotes and one that writes newlines. -/
theorem answer_listed_torn :
    let input : Reader := .ofDeliveries [.data (encode "Given: a\rb" ++ [0xFF, 13]), .fault (.reported .interrupted ""),
      .data (10 :: encode "\tprintf \"\\n\"\nAnd: [\r\n\tc\rd\nThen:\nGiven: e")]
    let w : World Unit := ⟨⟨[]⟩, ["d"], "t", 0, ()⟩
    let o : Options := { Options.default with parseOnly := true }
    let ss : List Scenario := [⟨.all [.block "a\rb\uFFFD" ["printf \"\\n\""], .block "[" ["c\rd"]],
      [⟨none, some (.block "" [])⟩], none⟩, ⟨.block "e" [], [], none⟩]
    let p (shell : Shell Unit) : Platform Unit := {
      arguments := fun _ => .ok o
      pattern := fun _ => .ok fun _ => true
      temporaries := World.temporaries
      shell }
    (o.parseOnly = true ∧ o.specification input w = .ok input ∧ parseReader input = .ok ss) ∧
    ∀ shell, (p shell).arguments ["--parse-only"] = .ok o ∧
      let out := (answer (p shell) ["--parse-only"] input w).1
      out.output.toList.count '\n' = 2 ∧ out.lines = ss.map Scenario.text := by
  intro input w o ss p
  have hspec : o.specification input w = .ok input := if_pos (Options.readsInput_of_path rfl)
  have hss : parseReader input = .ok ss := eq_ok_of_toOption (by decide +kernel)
  refine ⟨⟨rfl, hspec, hss⟩, fun shell => ?_⟩
  obtain ⟨-, hcount, hlines, -⟩ := answer_listed (p shell) _ input w o input ss rfl rfl hspec hss
  exact ⟨rfl, hcount, hlines⟩

end CommandLine

end Acceptance
