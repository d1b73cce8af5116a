import Acceptance.Proofs.CommandLine.Output
import Acceptance.Proofs.Spec.Breaking
import Mathlib.Data.List.TakeWhile

/-!
# Refusals

Everything that can keep the program from running a specification is looked at before anything is run: first the
specification itself, to the end of what the parser reads, then the pattern for names, then the bindings in order.  If
one of them is not acceptable, then the program says so, prints nothing else and leaves the world as it is.  When the
scenarios are only to be shown, the specification alone decides (`answer_refused`).
-/

namespace Acceptance.CommandLine

variable {κ : Type}

namespace Options

/-! ### What can be objected to -/

/-- The reader of the specification, if it can be opened. -/
def specification (o : Options) (input : Reader) (w : World κ) : Except Fault Reader :=
  if o.readsInput then .ok input else (w.openFile o.path).map .ofDeliveries

/-- The specification cannot be opened, or reading it fails before the parser stops. -/
inductive ReadError (o : Options) (input : Reader) (w : World κ) : String → Prop
  | notOpened {cause : Fault} : o.specification input w = .error cause →
      ReadError o input w ("failed to open " ++ o.path ++ ": " ++ cause.message)
  | inputNotRead {r : Reader} {cause : Fault} : o.readsInput = true → o.specification input w = .ok r →
      r.Breaks cause → ReadError o input w ("failed to read stdin: " ++ cause.message)
  | notRead {r : Reader} {cause : Fault} : o.readsInput = false → o.specification input w = .ok r →
      r.Breaks cause → ReadError o input w ("failed to read " ++ o.path ++ ": " ++ cause.message)

/-- The pattern for the names of scenarios is not a pattern. -/
inductive FilterError (pattern : Matcher) (o : Options) : String → Prop
  | badFilter {text cause : String} : o.filter = some text → pattern text = .error cause →
      FilterError pattern o ("invalid --filter pattern: " ++ cause)

/-- There is a binding without an equals sign, and this is the first. -/
inductive BindingError (o : Options) : String → Prop
  | badBinding {before after : List String} {text : String} : o.bindings = before ++ text :: after →
      (∀ b ∈ before, '=' ∈ b.toList) → '=' ∉ text.toList →
      BindingError o ("invalid --env " ++ quote text ++ ": expected KEY=VALUE")

/-- What the program objects to: the error of reading if there is one, then that of the pattern, then that of the
bindings, and only the first if the scenarios are not to be run. -/
def Objects (pattern : Matcher) (o : Options) (input : Reader) (w : World κ) (text : String) : Prop :=
  o.ReadError input w text ∨
    (∀ t, ¬ o.ReadError input w t) ∧ o.parseOnly = false ∧
      (o.FilterError pattern text ∨ (∀ t, ¬ o.FilterError pattern t) ∧ o.BindingError text)

/-- Something about the specification or the options is not acceptable. -/
def Unacceptable (pattern : Matcher) (o : Options) (input : Reader) (w : World κ) : Prop :=
  (∃ cause, o.specification input w = .error cause) ∨
    (∃ r cause, o.specification input w = .ok r ∧ r.Breaks cause) ∨
    o.parseOnly = false ∧
      ((∃ text cause, o.filter = some text ∧ pattern text = .error cause) ∨
        ∃ text ∈ o.bindings, '=' ∉ text.toList)

/-! ### The checks of the program -/

theorem readsInput_of_path {o : Options} (h : o.path = standardInput) : o.readsInput = true := by
  unfold readsInput
  rw [h]
  unfold String.splitOn
  iterate 2 unfold String.splitOnAux
  decide +kernel

/-- The scenarios are what the reader of the specification gives, if it can be opened. -/
theorem scenarios_eq (o : Options) (input : Reader) (w : World κ) :
    o.scenarios input w =
      match o.specification input w with
      | .error cause => .error (.notOpened o.path cause)
      | .ok r => (parseReader r).mapError (if o.readsInput then .inputNotRead else .notRead o.path) := by
  unfold scenarios specification
  cases hi : o.readsInput with
  | true => rfl
  | false =>
    simp only [Bool.false_eq_true, ↓reduceIte]
    cases w.openFile o.path <;> rfl

/-- Opening and reading the specification fails with the errors of reading. -/
theorem readError_iff {o : Options} {input : Reader} {w : World κ} {text : String} :
    o.ReadError input w text ↔ ∃ r, o.scenarios input w = .error r ∧ r.message = text := by
  rw [scenarios_eq]
  constructor
  · intro h
    cases h with
    | notOpened hs => exact ⟨_, by rw [hs], rfl⟩
    | inputNotRead hi hs hbreaks =>
      refine ⟨.inputNotRead _, ?_, rfl⟩
      simp only [hs, parseReader_eq_error_iff.2 hbreaks, hi]
      rfl
    | notRead hi hs hbreaks =>
      refine ⟨.notRead o.path _, ?_, rfl⟩
      simp only [hs, parseReader_eq_error_iff.2 hbreaks, hi]
      rfl
  · rintro ⟨r, h, rfl⟩
    cases hs : o.specification input w with
    | error cause =>
      rw [hs] at h
      cases h
      exact .notOpened hs
    | ok reader =>
      rw [hs] at h
      cases hp : parseReader reader with
      | ok ss =>
        simp only [hp] at h
        cases h
      | error cause =>
        have hbreaks := parseReader_eq_error_iff.1 hp
        simp only [hp] at h
        cases hi : o.readsInput with
        | true =>
          rw [hi] at h
          cases h
          exact .inputNotRead hi hs hbreaks
        | false =>
          rw [hi] at h
          cases h
          exact .notRead hi hs hbreaks

/-- The scenarios depend on nothing but the path and the reader of the specification. -/
theorem scenarios_congr {o o' : Options} {input input' : Reader} {w w' : World κ} (hpath : o'.path = o.path)
    (hspec : o'.specification input' w' = o.specification input w) :
    o'.scenarios input' w' = o.scenarios input w := by
  have hinput : o'.readsInput = o.readsInput := by rw [readsInput, readsInput, hpath]
  rw [scenarios_eq, scenarios_eq, hspec, hpath, hinput]

theorem binding?_eq_none_iff {text : String} : binding? text = none ↔ '=' ∉ text.toList := by
  have hdrop : text.toList.dropWhile (· != '=') = [] ↔ '=' ∉ text.toList := by
    rw [List.dropWhile_eq_nil_iff]
    refine ⟨fun h hm => by simpa using h '=' hm, fun h c hc => ?_⟩
    have hne : c ≠ '=' := fun he => h (he ▸ hc)
    simpa using hne
  rw [← hdrop, binding?]
  split <;> simp_all

theorem binding_eq_error_iff {text : String} {r : Refusal} :
    binding text = .error r ↔ '=' ∉ text.toList ∧ r = .badBinding text := by
  rw [← binding?_eq_none_iff, binding]
  cases binding? text <;> simp [eq_comm]

/-- Going through a list fails at the first element that fails. -/
theorem mapM_eq_error_iff {α β ε : Type} {f : α → Except ε β} {xs : List α} {e : ε} :
    xs.mapM f = .error e ↔
      ∃ before x after, xs = before ++ x :: after ∧ (∀ y ∈ before, ∃ b, f y = .ok b) ∧ f x = .error e := by
  induction xs with
  | nil => simp [pure, Except.pure]
  | cons x xs ih =>
    rw [List.mapM_cons]
    cases hx : f x with
    | error e' =>
      constructor
      · rintro ⟨⟩
        exact ⟨[], x, xs, rfl, nofun, hx⟩
      · rintro ⟨before, y, after, hsplit, hbefore, hy⟩
        cases before with
        | nil =>
          cases hsplit
          cases hx.symm.trans hy
          rfl
        | cons z before =>
          cases hsplit
          obtain ⟨b, hb⟩ := hbefore x List.mem_cons_self
          cases hx.symm.trans hb
    | ok b =>
      have hrest : (f x >>= fun b => xs.mapM f >>= fun bs => pure (b :: bs)) = .error e ↔ xs.mapM f = .error e := by
        rw [hx]
        cases xs.mapM f <;> simp [bind, Except.bind, pure, Except.pure]
      rw [← hx, hrest, ih]
      constructor
      · rintro ⟨before, y, after, rfl, hbefore, hy⟩
        exact ⟨x :: before, y, after, rfl, List.forall_mem_cons.2 ⟨⟨b, hx⟩, hbefore⟩, hy⟩
      · rintro ⟨before, y, after, hsplit, hbefore, hy⟩
        cases before with
        | nil =>
          cases hsplit
          cases hx.symm.trans hy
        | cons z before =>
          cases hsplit
          exact ⟨before, y, after, rfl, (List.forall_mem_cons.1 hbefore).2, hy⟩

/-- The bindings fail with the first that has no equals sign. -/
theorem bindingError_iff {o : Options} {text : String} :
    o.BindingError text ↔ ∃ r, o.bindings.mapM binding = .error r ∧ r.message = text := by
  have hok {b : String} : (∃ x, binding b = .ok x) ↔ '=' ∈ b.toList := by
    rw [← not_iff_not, ← binding?_eq_none_iff, binding]
    cases binding? b <;> simp
  simp only [mapM_eq_error_iff, hok, binding_eq_error_iff]
  constructor
  · rintro ⟨hsplit, hbefore, htext⟩
    exact ⟨_, ⟨_, _, _, hsplit, hbefore, htext, rfl⟩, rfl⟩
  · rintro ⟨_, ⟨before, b, after, hsplit, hbefore, htext, rfl⟩, rfl⟩
    exact .badBinding hsplit hbefore htext

variable {pattern : Matcher}

theorem filterError_iff {o : Options} {text : String} :
    o.FilterError pattern text ↔ ∃ r, o.filter.mapM (ofPattern pattern) = .error r ∧ r.message = text := by
  constructor
  · rintro ⟨hf, hp⟩
    refine ⟨.badFilter _, ?_, rfl⟩
    rw [hf, Option.mapM_some, ofPattern, hp]
    rfl
  · rintro ⟨r, h, rfl⟩
    cases hf : o.filter with
    | none =>
      rw [hf] at h
      cases h
    | some t =>
      rw [hf, Option.mapM_some, ofPattern] at h
      cases hp : pattern t with
      | ok accepts =>
        rw [hp] at h
        cases h
      | error cause =>
        rw [hp] at h
        cases h
        exact .badFilter hf hp

/-- The pattern is looked at first, and then the bindings. -/
theorem config_eq_error_iff {o : Options} {r : Refusal} :
    o.config pattern = .error r ↔ o.filter.mapM (ofPattern pattern) = .error r ∨
      (∃ f, o.filter.mapM (ofPattern pattern) = .ok f) ∧ o.bindings.mapM binding = .error r := by
  rw [config]
  cases o.filter.mapM (ofPattern pattern) with
  | error r' => simp [bind, Except.bind]
  | ok filter => cases o.bindings.mapM binding <;> simp [bind, Except.bind, pure, Except.pure]

theorem forall_not_filterError_iff {o : Options} :
    (∀ t, ¬ o.FilterError pattern t) ↔ ∃ f, o.filter.mapM (ofPattern pattern) = .ok f := by
  simp only [filterError_iff]
  cases o.filter.mapM (ofPattern pattern) with
  | error r => exact iff_of_false (fun h => h _ ⟨r, rfl, rfl⟩) nofun
  | ok f => exact iff_of_true nofun ⟨f, rfl⟩

theorem exists_config_eq_error {o : Options} {text : String}
    (h : o.FilterError pattern text ∨ (∀ t, ¬ o.FilterError pattern t) ∧ o.BindingError text) :
    ∃ r, o.config pattern = .error r ∧ r.message = text := by
  rcases h with hf | ⟨hnone, hb⟩
  · obtain ⟨r, hr, htext⟩ := filterError_iff.1 hf
    exact ⟨r, config_eq_error_iff.2 (.inl hr), htext⟩
  · obtain ⟨r, hr, htext⟩ := bindingError_iff.1 hb
    exact ⟨r, config_eq_error_iff.2 (.inr ⟨forall_not_filterError_iff.1 hnone, hr⟩), htext⟩

theorem exists_bindingError_iff {o : Options} :
    (∃ text, o.BindingError text) ↔ ∃ text ∈ o.bindings, '=' ∉ text.toList := by
  constructor
  · rintro ⟨_, hsplit, -, htext⟩
    exact ⟨_, by rw [hsplit]; simp, htext⟩
  · rintro ⟨text, hmem, htext⟩
    -- there is a first one
    have hsome : (o.bindings.find? fun b => decide ('=' ∉ b.toList)).isSome :=
      List.find?_isSome.2 ⟨text, hmem, by simpa using htext⟩
    obtain ⟨first, hfirst⟩ := Option.isSome_iff_exists.1 hsome
    obtain ⟨hno, before, after, hsplit, hbefore⟩ := List.find?_eq_some_iff_append.1 hfirst
    exact ⟨_, .badBinding hsplit (fun b hb => by simpa using hbefore b hb) (by simpa using hno)⟩

theorem exists_readError_iff {o : Options} {input : Reader} {w : World κ} :
    (∃ text, o.ReadError input w text) ↔ (∃ cause, o.specification input w = .error cause) ∨
      ∃ r cause, o.specification input w = .ok r ∧ r.Breaks cause := by
  constructor
  · rintro ⟨_, hs | ⟨-, hs, hbreaks⟩ | ⟨-, hs, hbreaks⟩⟩
    · exact .inl ⟨_, hs⟩
    · exact .inr ⟨_, _, hs, hbreaks⟩
    · exact .inr ⟨_, _, hs, hbreaks⟩
  · rintro (⟨cause, hs⟩ | ⟨r, cause, hs, hbreaks⟩)
    · exact ⟨_, .notOpened hs⟩
    · cases hi : o.readsInput with
      | true => exact ⟨_, .inputNotRead hi hs hbreaks⟩
      | false => exact ⟨_, .notRead hi hs hbreaks⟩

theorem exists_filterError_iff {o : Options} :
    (∃ text, o.FilterError pattern text) ↔ ∃ text cause, o.filter = some text ∧ pattern text = .error cause := by
  constructor
  · rintro ⟨_, hf, hp⟩
    exact ⟨_, _, hf, hp⟩
  · rintro ⟨text, cause, hf, hp⟩
    exact ⟨_, .badFilter hf hp⟩

/-- There is something to object to wherever something is not acceptable. -/
theorem exists_objects_iff {o : Options} {input : Reader} {w : World κ} :
    (∃ text, o.Objects pattern input w text) ↔ o.Unacceptable pattern input w := by
  rw [Unacceptable, ← or_assoc, ← exists_readError_iff, ← exists_filterError_iff, ← exists_bindingError_iff]
  -- an objection excludes those after it, and that is all in which it differs from the right-hand side
  by_cases hread : ∃ text, o.ReadError input w text
  · obtain ⟨text, hr⟩ := hread
    exact iff_of_true ⟨text, .inl hr⟩ (.inl ⟨text, hr⟩)
  · constructor
    · rintro ⟨text, hr | ⟨-, hrun, hf | ⟨-, hb⟩⟩⟩
      · exact absurd ⟨text, hr⟩ hread
      · exact .inr ⟨hrun, .inl ⟨text, hf⟩⟩
      · exact .inr ⟨hrun, .inr ⟨text, hb⟩⟩
    · rintro (hr | ⟨hrun, hoption⟩)
      · exact absurd hr hread
      · by_cases hfilter : ∃ text, o.FilterError pattern text
        · obtain ⟨text, hf⟩ := hfilter
          exact ⟨text, .inr ⟨not_exists.1 hread, hrun, .inl hf⟩⟩
        · obtain ⟨text, hb⟩ := hoption.resolve_left hfilter
          exact ⟨text, .inr ⟨not_exists.1 hread, hrun, .inr ⟨not_exists.1 hfilter, hb⟩⟩⟩

end Options

/-! ### What the program answers -/

open Options

theorem refused_eq (r : Refusal) : Outcome.refused r = ⟨1, "", "error: " ++ r.message ++ "\n"⟩ := by
  simp [Outcome.refused, Outcome.ofLines, String.join]

/-- An objection is told, and nothing is run. -/
theorem perform_of_objects {p : Platform κ} {o : Options} {input : Reader} {w : World κ} {text : String}
    (h : o.Objects p.pattern input w text) : perform p o input w = (⟨1, "", "error: " ++ text ++ "\n"⟩, w) := by
  rcases h with hread | ⟨hread, hrun, hconfig⟩
  · obtain ⟨r, hr, rfl⟩ := readError_iff.1 hread
    rw [perform, hr, ← refused_eq]
  · obtain ⟨r, hr, rfl⟩ := exists_config_eq_error hconfig
    cases hss : o.scenarios input w with
    | error r' => exact absurd (readError_iff.2 ⟨r', hss, rfl⟩) (hread _)
    | ok ss =>
      rw [perform, hss, hr, ← refused_eq]
      simp [hrun]

/-- To show the scenarios nothing is looked at but the specification, and nothing is run. -/
theorem perform_of_parseOnly {o : Options} (h : o.parseOnly = true) (p : Platform κ) (input : Reader) (w : World κ) :
    perform p o input w =
      (match o.scenarios input w with
        | .error r => .refused r
        | .ok ss => .printed true (ss.map Scenario.text), w) := by
  rw [perform]
  cases o.scenarios input w with
  | error r => rfl
  | ok ss => simp [h]

/-- If the specification cannot be opened or read, or if it is to be run and the pattern or a binding cannot be used,
then the program objects: it exits with 1, prints nothing but the error, and leaves the world as it is, whatever the
shell would do.  If the scenarios are only to be shown, then two runs on the same specification end in the same way,
print the same and report the same error, whatever else they are asked for, and leave the world as it is. -/
theorem answer_refused (p : Platform κ) (args : List String) (input : Reader) (w : World κ) (o : Options)
    (hargs : p.arguments args = .ok o) :
    (o.Unacceptable p.pattern input w → ∃ text, o.Objects p.pattern input w text) ∧
    (∀ text, o.Objects p.pattern input w text →
      answer p args input w = (⟨1, "", "error: " ++ text ++ "\n"⟩, w)) ∧
    (o.parseOnly = true → (answer p args input w).2 = w ∧
      ∀ (p' : Platform κ) (args' : List String) (input' : Reader) (w' : World κ) (o' : Options),
        p'.arguments args' = .ok o' → o'.parseOnly = true → o'.path = o.path →
        o'.specification input' w' = o.specification input w →
        let out := (answer p args input w).1
        let out' := (answer p' args' input' w').1
        out'.output = out.output ∧ out'.status = out.status ∧ out'.complaint = out.complaint) := by
  have hanswer : answer p args input w = perform p o input w := by rw [answer, hargs]
  refine ⟨exists_objects_iff.2, fun text htext => ?_, fun hparse => ?_⟩
  · rw [hanswer, perform_of_objects htext]
  · rw [hanswer, perform_of_parseOnly hparse]
    refine ⟨rfl, fun p' args' input' w' o' hargs' hparse' hpath hspec => ?_⟩
    have hanswer' : answer p' args' input' w' = perform p' o' input' w' := by rw [answer, hargs']
    rw [hanswer', perform_of_parseOnly hparse', scenarios_congr hpath hspec]
    exact ⟨rfl, rfl, rfl⟩

private theorem eq_error_of_match {ε α : Type} {x : Except ε α} {e : ε}
    (h : (match x with | .error e => some e | .ok _ => none) = some e) : x = .error e := by
  cases x with
  | error e' => rw [Option.some.inj h]
  | ok a => cases h

/-- Standard input breaks off after a scenario, the pattern is none, and of two bindings neither has an equals sign.
With all of the input it is the pattern that is objected to, without the pattern the first of the bindings, and with
`--parse-only` nothing is. -/
theorem answer_refused_threefold :
    let w : World Unit := ⟨⟨[]⟩, ["d"], "/tmp", 0, ()⟩
    let gone : Fault := .reported .connectionReset "gone"
    let broken : Reader := .ofDeliveries [.data (encode "Given: a\n\tb\nThen: c"), .fault gone]
    let whole : Reader := .ofBytes (encode "Given: a\n\tb\nThen: c")
    let env := ["--env", "A \"KEY\"", "--env", "OTHER"]
    let o : Options := { Options.default with bindings := ["A \"KEY\"", "OTHER"] }
    let table : List (List String × Options) := [("-f" :: "(" :: env, { o with filter := some "(" }), (env, o),
      ("--parse-only" :: "-v" :: "-f" :: "(" :: env, { o with filter := some "(", parseOnly := true, verbose := true }),
      (["--parse-only"], { Options.default with parseOnly := true })]
    let p (shell : Shell Unit) : Platform Unit := {
      arguments := fun args => (table.lookup args).elim (.error ⟨2, "", ""⟩) .ok
      pattern := fun text =>
        if text = "(" then .error "regex parse error:\n    (\n    ^\nerror: unclosed group" else .ok fun _ => true
      temporaries := World.temporaries
      shell }
    ∀ shell : Shell Unit,
      answer (p shell) ("-f" :: "(" :: env) broken w = (⟨1, "", "error: failed to read stdin: gone\n"⟩, w) ∧
      answer (p shell) ("-f" :: "(" :: env) whole w = (⟨1, "",
        "error: invalid --filter pattern: regex parse error:\n    (\n    ^\nerror: unclosed group\n"⟩, w) ∧
      answer (p shell) env whole w =
        (⟨1, "", "error: invalid --env \"A \\\"KEY\\\"\": expected KEY=VALUE\n"⟩, w) ∧
      ∀ shell' : Shell Unit,
        let out := (answer (p shell) ["--parse-only"] whole w).1
        let out' := (answer (p shell') ("--parse-only" :: "-v" :: "-f" :: "(" :: env) whole w).1
        out'.output = out.output ∧ out'.status = out.status ∧ out'.complaint = out.complaint := by
  intro w gone broken whole env o table p shell
  have hreads {o : Options} (h : o.path = standardInput) (input : Reader) : o.specification input w = .ok input :=
    if_pos (readsInput_of_path h)
  have hwhole {o : Options} (h : o.path = standardInput) : ∀ text, ¬ o.ReadError whole w text := by
    intro text htext
    obtain ⟨r, hr, -⟩ := readError_iff.1 htext
    have hsmooth : whole.Smooth := ⟨by show 0 < Reader.defaultCapacity; decide, nofun⟩
    rw [scenarios_eq, hreads h whole] at hr
    simp only [parseReader_of_smooth hsmooth] at hr
    cases hr
  have hread : ({ o with filter := some "(" } : Options).ReadError broken w "failed to read stdin: gone" := by
    have hparse : parseReader broken = .error gone := eq_error_of_match (by decide +kernel)
    exact .inputNotRead (readsInput_of_path rfl) (hreads rfl broken) (parseReader_eq_error_iff.1 hparse)
  have hpattern : (p shell).pattern "(" = .error "regex parse error:\n    (\n    ^\nerror: unclosed group" := rfl
  have hnone : ∀ text, ¬ o.FilterError (p shell).pattern text := by
    rintro _ ⟨hf, -⟩
    cases hf
  have hbinding : o.BindingError "invalid --env \"A \\\"KEY\\\"\": expected KEY=VALUE" := by
    have hquote : quote "A \"KEY\"" = "\"A \\\"KEY\\\"\"" := by decide +kernel
    have hfirst : o.bindings = [] ++ "A \"KEY\"" :: ["OTHER"] := rfl
    have hbad := BindingError.badBinding hfirst nofun (by decide)
    rw [hquote] at hbad
    exact hbad
  refine ⟨?_, ?_, ?_, fun shell' => ?_⟩
  · exact (answer_refused (p shell) _ broken w _ rfl).2.1 _ (.inl hread)
  · exact (answer_refused (p shell) _ whole w _ rfl).2.1 _ (.inr ⟨hwhole rfl, rfl, .inl (.badFilter rfl hpattern)⟩)
  · exact (answer_refused (p shell) env whole w o rfl).2.1 _ (.inr ⟨hwhole rfl, rfl, .inr ⟨hnone, hbinding⟩⟩)
  · have hshown := (answer_refused (p shell) ["--parse-only"] whole w _ rfl).2.2 rfl
    exact hshown.2 (p shell') _ whole w _ rfl rfl rfl ((hreads rfl whole).trans (hreads rfl whole).symm)

end Acceptance.CommandLine
