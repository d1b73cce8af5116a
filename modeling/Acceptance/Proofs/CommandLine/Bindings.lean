import Acceptance.Proofs.CommandLine.Refusals
import Acceptance.Proofs.Run.Environment

/-!
# Bindings on the command line

A binding is divided at its first equals sign.  What the command line asks for is what scenarios are configured with,
and so commands see of each name the value that it was given last (`commands_see_last`).
-/

namespace Acceptance

open Session (Use afterUses exchanges workVariable)

variable {κ : Type}

namespace CommandLine

/-! ### Texts of bindings -/

namespace Options

/-- A text is divided at its first equals sign: the name has none, and the value may have any number. -/
theorem binding?_eq_some_iff {text : String} {b : String × String} :
    binding? text = some b ↔ text = b.1 ++ "=" ++ b.2 ∧ '=' ∉ b.1.toList := by
  obtain ⟨key, value⟩ := b
  constructor
  · intro h
    have hwhole := List.takeWhile_append_dropWhile (p := fun c => c != '=') (l := text.toList)
    rw [binding?] at h
    split at h
    · cases h
    · rename_i c rest hdrop
      have hc : c = '=' := by
        have hhead := List.head_dropWhile_not (· != '=') (by rw [hdrop]; simp : text.toList.dropWhile _ ≠ [])
        simpa [hdrop] using hhead
      cases h
      subst hc
      rw [hdrop] at hwhole
      refine ⟨String.toList_inj.1 ?_, fun hm => ?_⟩
      · show text.toList = (String.ofList _ ++ "=" ++ String.ofList rest).toList
        simp only [String.toList_append, String.toList_ofList, List.append_assoc]
        exact hwhole.symm
      · rw [String.toList_ofList] at hm
        simpa using List.mem_takeWhile_imp hm
  · rintro ⟨rfl, hkey⟩
    have hall : ∀ c ∈ key.toList, (c != '=') = true := fun c hc => by
      simpa using fun he : c = '=' => hkey (he ▸ hc)
    have htext : (key ++ "=" ++ value).toList = key.toList ++ '=' :: value.toList := by simp
    rw [binding?, htext, List.dropWhile_append_of_pos hall, List.takeWhile_append_of_pos hall]
    simp

theorem binding_eq_ok_iff {text : String} {b : String × String} :
    binding text = .ok b ↔ text = b.1 ++ "=" ++ b.2 ∧ '=' ∉ b.1.toList := by
  rw [← binding?_eq_some_iff, binding]
  cases binding? text <;> simp

theorem exists_of_bind_eq_ok {α β ε : Type} {x : Except ε α} {f : α → Except ε β} {b : β} (h : x >>= f = .ok b) :
    ∃ a, x = .ok a ∧ f a = .ok b := by
  cases x with
  | error e => cases h
  | ok a => exact ⟨a, rfl, h⟩

/-- Going through a list succeeds if it does so for each element. -/
theorem mapM_eq_ok_iff {α β ε : Type} {f : α → Except ε β} {xs : List α} {ys : List β} :
    xs.mapM f = .ok ys ↔ List.Forall₂ (fun x y => f x = .ok y) xs ys := by
  constructor
  · intro h
    induction xs generalizing ys with
    | nil =>
      cases h
      exact .nil
    | cons x xs ih =>
      rw [List.mapM_cons] at h
      obtain ⟨y, hx, h⟩ := exists_of_bind_eq_ok h
      obtain ⟨rest, hxs, h⟩ := exists_of_bind_eq_ok h
      cases h
      exact .cons hx (ih hxs)
  · intro h
    induction h with
    | nil => rfl
    | cons hx _ ih =>
      rw [List.mapM_cons, hx, ih]
      rfl

/-- Texts give bindings if each is a name, an equals sign and a value, and no name holds an equals sign. -/
theorem bindings_eq_ok_iff {texts : List String} {bs : List (String × String)} :
    texts.mapM binding = .ok bs ↔
      List.Forall₂ (fun text b => text = b.1 ++ "=" ++ b.2 ∧ '=' ∉ b.1.toList) texts bs := by
  simp only [mapM_eq_ok_iff, binding_eq_ok_iff]

/-- The bindings of a configuration are those of the options, whatever the pattern. -/
theorem bindings_of_config {pattern : Matcher} {o : Options} {c : Config} (h : o.config pattern = .ok c) :
    o.bindings.mapM binding = .ok c.environment := by
  obtain ⟨filter, -, h⟩ := exists_of_bind_eq_ok h
  obtain ⟨environment, hbindings, h⟩ := exists_of_bind_eq_ok h
  cases h
  exact hbindings

end Options

open Options Scenario

/-- However a session is used, its environment holds of each name the last binding that was made, the directory that the
session began with being bound first, and a binding leaves all other names where and as they are.  Every command of a
scenario is run with that environment, and on top of another it hides the names of the scenario and no others.  What is
bound for scenarios is what the options ask for, in order and each divided at its first equals sign. -/
theorem commands_see_last (t : Temporaries κ) (shell : Shell κ) (c : Config) :
    (∀ directory uses w, Bindings.LastOf (afterUses shell uses (c.session directory, w)).1.environment
      ((workVariable, directory) :: (c.environment ++ uses.filterMap Use.binding?))) ∧
    (∀ (s : Session) key value, (s.setVariable key value).environment.value? key = some value ∧
      ∀ b : String × String, b.1 ≠ key →
        (s.setVariable key value).environment.value? b.1 = s.environment.value? b.1 ∧
          ∀ i : Nat, (s.setVariable key value).environment[i]? = some b ↔ s.environment[i]? = some b) ∧
    (∀ index sc w v sandbox, c.skips (sc.name index) = false → prepare t c index w = (.ok sandbox, v) →
      let directory := sandbox.getD c.directory
      let bindings := (workVariable, directory) :: c.environment
      let r := run t shell c index sc w
      ∃ env s u, Bindings.LastOf env bindings ∧ r.1.session = some s ∧
        (r.1.sandbox, r.2) = dismiss t (c.keep || !r.1.passed) sandbox u ∧
        Asked shell v (exchanges (fun command => ⟨c.shell, command, directory, env⟩) s.history) u ∧
        ∀ (inherited : Bindings) key value, (inherited.bindAll env).value? key = some value ↔
          Bindings.Last bindings key value ∨ (∀ b ∈ bindings, b.1 ≠ key) ∧ inherited.value? key = some value) ∧
    (∀ pattern (o : Options), o.config pattern = .ok c → o.bindings.mapM binding = .ok c.environment) ∧
    ∀ texts bs, texts.mapM binding = .ok bs ↔
      List.Forall₂ (fun text (b : String × String) => text = b.1 ++ "=" ++ b.2 ∧ '=' ∉ b.1.toList) texts bs := by
  refine ⟨fun directory uses w => ?_, Session.environment_setVariable, ?_, fun _ _ => bindings_of_config,
    fun _ _ => bindings_eq_ok_iff⟩
  · rw [Session.environment_afterUses, c.session_eq_bindAll]
    have happend : Bindings.bindAll [] (c.bindings directory ++ uses.filterMap Use.binding?) =
        Bindings.bindAll (Bindings.bindAll [] (c.bindings directory)) (uses.filterMap Use.binding?) :=
      List.foldl_append
    exact happend ▸ Bindings.lastOf_bindAll _
  · intro index sc w v sandbox hskip hdir directory bindings r
    obtain ⟨env, s, u, henv, hsession, hsandbox, hasked⟩ := exists_asked_run hskip hdir shell
    exact ⟨env, s, u, henv, hsession, hsandbox, hasked, fun inherited => henv.value?_over inherited⟩

/-- A name is given twice, once with an equals sign in its value, and the directory is bound anew; the session is used
to bind another name and to move elsewhere, and the scenario has a cleanup. -/
theorem commands_see_last_thrice :
    let t : Temporaries (List Request) := World.temporaries
    let shell : Shell (List Request) := fun r w => (.ok ⟨[], [], .exited 0⟩, { w with rest := w.rest ++ [r] })
    let o : Options :=
      { Options.default with directory := some "d", bindings := ["A=1", "GOURD_WORK=here", "A=b=c"] }
    let c : Config :=
      { Config.default with directory := "d", environment := [("A", "1"), ("GOURD_WORK", "here"), ("A", "b=c")] }
    let uses : List Use := [.bind "B" "2", .move "elsewhere"]
    let sc : Scenario := ⟨.block "g" ["x"], [], some (.block "" ["y"])⟩
    let w : World (List Request) := ⟨⟨[]⟩, [], "/tmp", 0, []⟩
    let env : Bindings := [("GOURD_WORK", "here"), ("A", "b=c")]
    ((afterUses shell uses (c.session "d", w)).1.environment = env ++ [("B", "2")] ∧
      Bindings.LastOf (env ++ [("B", "2")]) ((workVariable, "d") :: (c.environment ++ [("B", "2")]))) ∧
    (c.skips (sc.name 1) = false ∧ prepare t c 1 w = (.ok none, w) ∧
      (∃ env s u, Bindings.LastOf env ((workVariable, "d") :: c.environment) ∧
        (run t shell c 1 sc w).1.session = some s ∧
        Asked shell w (exchanges (fun command => ⟨c.shell, command, "d", env⟩) s.history) u) ∧
      (run t shell c 1 sc w).2.rest = ["x", "y"].map fun command => ⟨c.shell, command, "d", env⟩) ∧
    ∀ pattern, o.config pattern = .ok c ∧
      List.Forall₂ (fun text b => text = b.1 ++ "=" ++ b.2 ∧ '=' ∉ b.1.toList) o.bindings c.environment := by
  intro t shell o c uses sc w env
  obtain ⟨huses, -, hrun, hconfig, htexts⟩ := commands_see_last t shell c
  have henv : (afterUses shell uses (c.session "d", w)).1.environment = env ++ [("B", "2")] := by decide +kernel
  have hskip : c.skips (sc.name 1) = false := rfl
  have hdir : prepare t c 1 w = (.ok none, w) := rfl
  have hc (pattern : Matcher) : o.config pattern = .ok c := by
    have hbindings : o.bindings.mapM binding = .ok c.environment := eq_ok_of_toOption (by decide +kernel)
    rw [config, hbindings]
    rfl
  obtain ⟨env', s, u, henv', hsession, -, hasked, -⟩ := hrun 1 sc w w none hskip hdir
  exact ⟨⟨henv, henv ▸ huses "d" uses w⟩, ⟨hskip, hdir, ⟨env', s, u, henv', hsession, hasked⟩, by decide +kernel⟩,
    fun pattern => ⟨hc pattern, (htexts _ _).1 (hconfig pattern o (hc pattern))⟩⟩

end CommandLine

end Acceptance
