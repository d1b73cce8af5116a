import Acceptance.Proofs.Run.Requests
import Acceptance.Proofs.Run.Verdict
import Acceptance.Proofs.World.Temporaries

/-!
# Sandboxes

With sandboxes, whatever they are made with, each scenario that is not skipped has one of its own, which was not there
before.  All of its commands run in it, those of the cleanup too, and it is gone afterwards unless sandboxes are kept
or the scenario failed.  So the sandboxes that a run leaves behind are those named in its cases, and no other is lost
(`runAll_sandboxes`).
-/

namespace Acceptance

variable {κ : Type}

namespace Case

/-- What was asked of the shell for a scenario, in order. -/
def requests (x : Case) : List Request := x.session.elim [] Session.requests

/-- The directory that a scenario was run in, if it was. -/
def directory? (x : Case) : Option String := x.session.map Session.directory

end Case

/-- Commands keep what may be assumed of a world, and neither make nor remove sandboxes. -/
structure Shell.Leaves (valid : World κ → Prop) (stands : World κ → String → Prop) (shell : Shell κ) : Prop where
  world : ∀ r w, valid w → valid (shell r w).2
  sandboxes : ∀ r w, valid w → ∀ q, stands (shell r w).2 q ↔ stands w q

theorem Shell.Leaves.after {valid : World κ → Prop} {stands : World κ → String → Prop} {shell : Shell κ}
    (h : shell.Leaves valid stands) (rs : List Request) {w : World κ} (hw : valid w) :
    valid (w.after shell rs) ∧ ∀ q, stands (w.after shell rs) q ↔ stands w q := by
  induction rs generalizing w with
  | nil => exact ⟨hw, fun _ => Iff.rfl⟩
  | cons r rs ih =>
    obtain ⟨hv, hstands⟩ := ih (h.world r w hw)
    exact ⟨hv, fun q => (hstands q).trans (h.sandboxes r w hw q)⟩

namespace Scenario

variable {t : Temporaries κ} {shell : Shell κ} {c : Config} {index : Nat} {sc : Scenario}

theorem runFrom_cons (t : Temporaries κ) (shell : Shell κ) (c : Config) (index : Nat) (sc : Scenario)
    (ss : List Scenario) (w : World κ) :
    runFrom t shell c index (sc :: ss) w =
      ((run t shell c index sc w).1 :: (runFrom t shell c (index + 1) ss (run t shell c index sc w).2).1,
        (runFrom t shell c (index + 1) ss (run t shell c index sc w).2).2) :=
  rfl

theorem length_runFrom (t : Temporaries κ) (shell : Shell κ) (c : Config) (index : Nat) (ss : List Scenario)
    (w : World κ) : (runFrom t shell c index ss w).1.length = ss.length := by
  induction ss generalizing index w with
  | nil => rfl
  | cons sc ss ih => rw [runFrom_cons, List.length_cons, ih, List.length_cons]

theorem runFrom_append (t : Temporaries κ) (shell : Shell κ) (c : Config) (index : Nat) (ss ss' : List Scenario)
    (w : World κ) :
    runFrom t shell c index (ss ++ ss') w =
      ((runFrom t shell c index ss w).1 ++
          (runFrom t shell c (index + ss.length) ss' (runFrom t shell c index ss w).2).1,
        (runFrom t shell c (index + ss.length) ss' (runFrom t shell c index ss w).2).2) := by
  induction ss generalizing index w with
  | nil => rfl
  | cons sc ss ih =>
    have hindex : index + 1 + ss.length = index + (ss.length + 1) := by omega
    rw [List.cons_append, runFrom_cons, ih, runFrom_cons, List.length_cons, hindex]
    rfl

/-- The case of a scenario is made in the world that those before it leave. -/
theorem getElem?_runFrom (t : Temporaries κ) (shell : Shell κ) (c : Config) (index : Nat)
    (before rest : List Scenario) (sc : Scenario) (w : World κ) :
    (runFrom t shell c index (before ++ sc :: rest) w).1[before.length]? =
      some (run t shell c (index + before.length) sc (runFrom t shell c index before w).2).1 := by
  have hlength := length_runFrom t shell c index before w
  rw [runFrom_append, runFrom_cons, List.getElem?_append_right hlength.le, hlength, Nat.sub_self]
  rfl

theorem runFrom_concat (t : Temporaries κ) (shell : Shell κ) (c : Config) (index : Nat)
    (before : List Scenario) (sc : Scenario) (w : World κ) :
    (runFrom t shell c index (before ++ [sc]) w).2 =
      (run t shell c (index + before.length) sc (runFrom t shell c index before w).2).2 := by
  rw [runFrom_append]
  rfl

/-! ### One scenario -/

/-- A scenario in a sandbox at `path`, run from the world `u` in which the sandbox has been made: its case, and the
world after it. -/
structure Housed (t : Temporaries κ) (stands : World κ → String → Prop) (shell : Shell κ) (c : Config)
    (sc : Scenario) (path : String) (u : World κ) (x : Case) (v : World κ) : Prop where
  unskipped : x.skipped = false
  session : x.directory? = some path
  /-- Every command is run in the sandbox. -/
  inside : ∀ q ∈ x.requests, q.directory = path
  /-- It is there for every command and after the last one. -/
  there : ∀ rs, rs <+: x.requests → stands (u.after shell rs) path
  /-- The scenario is run along a course from where the sandbox was made, and passes if everything on it holds, the
  cleanup too. -/
  course : ∃ vs last y, Course shell sc.stages sc.cleanup (c.session path, u) vs last y ∧ x.session = some (conclude last y.1) ∧
    u.after shell x.requests = y.2 ∧ (x.passed = true ↔ ∀ e ∈ vs ++ last.toList, e.Held)
  /-- The sandbox is kept if that is asked for or the scenario fails, and is removed otherwise. -/
  kept : x.sandbox = if c.keep || !x.passed then some path else none
  after : v = if c.keep || !x.passed then u.after shell x.requests else t.remove path (u.after shell x.requests)

/-- What becomes of a scenario at a position when there are sandboxes, in the world `w` that it finds. -/
inductive Lodged (t : Temporaries κ) (stands : World κ → String → Prop) (shell : Shell κ) (c : Config) (index : Nat)
    (sc : Scenario) (w : World κ) : Case → World κ → Prop
  /-- It is skipped, and nothing happens. -/
  | skipped : c.skips (sc.name index) = true → Lodged t stands shell c index sc w (.ofSkipped (sc.name index)) w
  /-- Its sandbox cannot be made, and nothing is run. -/
  | refused {cause v duration} : c.skips (sc.name index) = false →
      t.makeSandbox c.root index w = (.error cause, v) → Lodged t stands shell c index sc w
        (.ofFailed (sc.name index) ("failed to create workdir: " ++ cause.message) duration) v
  /-- It is run in a sandbox that was not there before. -/
  | housed {path u x v} : c.skips (sc.name index) = false → t.makeSandbox c.root index w = (.ok path, u) →
      Path.LastBegins (World.sandboxStem index) path → Appears stands path w u →
      Housed t stands shell c sc path u x v → Lodged t stands shell c index sc w x v

variable {valid : World κ → Prop} {stands : World κ → String → Prop} {w v : World κ} {x : Case}

/-- A scenario that is run in a sandbox, whether or not it is kept at the end, is housed in it. -/
theorem housed_runIn (hshell : shell.Leaves valid stands) {path : String} {u : World κ} (hu : valid u)
    (hthere : stands u path) (name : String) (duration : Nat) :
    let r := runIn shell sc (c.session path, u)
    let kept := dismiss t (c.keep || r.1.isSome) (some path) r.2.2
    Housed t stands shell c sc path u ⟨name, r.1.isNone, false, r.1, some r.2.1, duration, kept.1⟩ kept.2 := by
  intro r kept
  obtain ⟨vs, last, y, hcourse, hrun⟩ := exists_course shell sc (c.session path, u)
  have hreason : r.1 = (vs ++ last.toList).findSome? Evaluated.blame := congrArg Prod.fst hrun
  have hpassed : r.1.isNone = true ↔ ∀ e ∈ vs ++ last.toList, e.Held := by
    rw [Option.isNone_iff_eq_none, hreason, List.findSome?_eq_none_iff]
    simp only [Evaluated.blame_eq_none_iff]
  obtain ⟨hdirectory, hworld⟩ : r.2.1.directory = path ∧ r.2.2 = u.after shell r.2.1.requests :=
    traced_runIn shell c path sc u
  have hinside : ∀ q ∈ r.2.1.requests, q.directory = path := fun q hq =>
    (Session.directory_of_mem_requests hq).trans hdirectory
  have hkeep : (c.keep || r.1.isSome) = (c.keep || !r.1.isNone) := by cases r.1 <;> rfl
  have hend : r.2 = (conclude last y.1, y.2) := congrArg Prod.snd hrun
  have hsession : some r.2.1 = some (conclude last y.1) := congrArg (fun s => some s.1) hend
  have hfinal : u.after shell r.2.1.requests = y.2 := by rw [← hworld, hend]
  refine ⟨rfl, congrArg some hdirectory, hinside, fun rs _ => ?_,
    ⟨vs, last, y, hcourse, hsession, hfinal, hpassed⟩, ?_, ?_⟩
  · exact ((hshell.after rs hu).2 path).2 hthere
  · simp only [kept, dismiss, hkeep]
    split <;> rfl
  · simp only [kept, dismiss, hkeep]
    split
    · exact hworld
    · exact congrArg (t.remove path) hworld

/-- With sandboxes a scenario is skipped, refused or housed. -/
theorem lodged_run (hsandbox : c.sandbox = true) (ht : t.Lawful c.root valid stands)
    (hshell : shell.Leaves valid stands) (hw : valid w) (index : Nat) (sc : Scenario) :
    Lodged t stands shell c index sc w (run t shell c index sc w).1 (run t shell c index sc w).2 := by
  cases hskip : c.skips (sc.name index) with
  | true =>
    have hrun : run t shell c index sc w = (.ofSkipped (sc.name index), w) := by
      rw [run]
      exact if_pos hskip
    rw [hrun]
    exact .skipped hskip
  | false =>
    cases hm : t.makeSandbox c.root index w with | _ made u
    cases made with
    | error cause =>
      have hprepare : prepare t c index w = (.error cause, u) := by rw [prepare, if_pos hsandbox, hm]
      rw [run, hskip, hprepare]
      exact .refused hskip hm
    | ok path =>
      have hprepare : prepare t c index w = (.ok (some path), u) := by rw [prepare, if_pos hsandbox, hm]
      obtain ⟨hu, hname, hnew⟩ := ht.makeSandbox_ok hw hm
      refine .housed hskip hm hname hnew ?_
      rw [run, hskip, hprepare]
      exact housed_runIn hshell hu ((hnew.2 path).2 (.inr rfl)) _ _

/-- What is left of a scenario: its sandbox was not there before, and is there if and only if the case names it. -/
theorem Lodged.effect (ht : t.Lawful c.root valid stands) (hshell : shell.Leaves valid stands) (hw : valid w)
    (h : Lodged t stands shell c index sc w x v) :
    valid v ∧ (∀ q, stands v q ↔ stands w q ∨ x.sandbox = some q) ∧
      ((x.directory? = none ∧ x.sandbox = none) ∨
        ∃ path, x.directory? = some path ∧ Path.LastBegins (World.sandboxStem index) path ∧ ¬ stands w path ∧
          (x.sandbox = none ∨ x.sandbox = some path)) := by
  cases h with
  | skipped => exact ⟨hw, by simp [Case.ofSkipped], .inl ⟨rfl, rfl⟩⟩
  | refused _ hm =>
    obtain ⟨hv, hkept⟩ := ht.makeSandbox_error hw hm
    exact ⟨hv, by simp [hkept, Case.ofFailed], .inl ⟨rfl, rfl⟩⟩
  | @housed path u _ _ _ hm hname hnew hhoused =>
    obtain ⟨hu, -, -⟩ := ht.makeSandbox_ok hw hm
    obtain ⟨hafter, hstands⟩ := hshell.after x.requests hu
    have hthere (q : String) : stands (u.after shell x.requests) q ↔ stands w q ∨ q = path := by
      rw [hstands, hnew.2]
    have hcase := hhoused.kept
    have hworld := hhoused.after
    cases hkeep : c.keep || !x.passed with
    | true =>
      rw [hkeep, if_pos rfl] at hcase hworld
      rw [hcase, hworld]
      refine ⟨hafter, fun q => ?_, .inr ⟨path, hhoused.session, hname, hnew.1, .inr rfl⟩⟩
      rw [hthere, Option.some_inj, eq_comm]
    | false =>
      rw [hkeep] at hcase hworld
      obtain ⟨hremoved, hgone⟩ := ht.remove _ path hafter ((hthere path).2 (.inr rfl))
      rw [hcase, hworld]
      refine ⟨hremoved, fun q => ?_, .inr ⟨path, hhoused.session, hname, hnew.1, .inl rfl⟩⟩
      have hfirst : stands w q → q ≠ path := by
        rintro hq rfl
        exact hnew.1 hq
      rw [if_neg (by simp), hgone, hthere]
      constructor
      · rintro ⟨hq | hq, hne⟩
        · exact .inl hq
        · exact absurd hq hne
      · rintro (hq | hq)
        · exact ⟨.inl hq, hfirst hq⟩
        · cases hq

/-! ### All scenarios -/

/-- What is left of a run whose first scenario has the given position: the sandboxes that were made are named for
later and later positions and were not there before, and those that are still there are the ones of the cases. -/
structure Left (stands : World κ → String → Prop) (first : Nat) (w : World κ) (xs : List Case) (v : World κ) :
    Prop where
  named : ∀ q ∈ xs.filterMap Case.directory?, ∃ index, first ≤ index ∧
    Path.LastBegins (World.sandboxStem index) q
  distinct : (xs.filterMap Case.directory?).Nodup
  fresh : ∀ q ∈ xs.filterMap Case.directory?, ¬ stands w q
  kept : (xs.filterMap Case.sandbox).Sublist (xs.filterMap Case.directory?)
  there : ∀ q, stands v q ↔ stands w q ∨ q ∈ xs.filterMap Case.sandbox

theorem Left.cons (ht : t.Lawful c.root valid stands) (hshell : shell.Leaves valid stands) (hw : valid w)
    (h : Lodged t stands shell c index sc w x v) {xs : List Case} {z : World κ}
    (hxs : Left stands (index + 1) v xs z) : Left stands index w (x :: xs) z := by
  obtain ⟨hv, hthere, hcase⟩ := h.effect ht hshell hw
  have hsandbox (q : String) : q ∈ (x :: xs).filterMap Case.sandbox ↔
      x.sandbox = some q ∨ q ∈ xs.filterMap Case.sandbox := by
    simp only [List.mem_filterMap, List.mem_cons, exists_eq_or_imp]
  have hend (q : String) : stands z q ↔ stands w q ∨ q ∈ (x :: xs).filterMap Case.sandbox := by
    rw [hxs.there, hthere, hsandbox, or_assoc]
  have hlater (q : String) (hq : q ∈ xs.filterMap Case.directory?) : ¬ stands w q := fun hstands =>
    hxs.fresh q hq ((hthere q).2 (.inl hstands))
  obtain ⟨hnone, hnone'⟩ | ⟨path, hsome, hname, hnew, hkept⟩ := hcase
  · have hmade : (x :: xs).filterMap Case.directory? = xs.filterMap Case.directory? := by simp [hnone]
    have hlost : (x :: xs).filterMap Case.sandbox = xs.filterMap Case.sandbox := by simp [hnone']
    refine ⟨?_, ?_, ?_, ?_, hend⟩ <;> rw [hmade]
    · intro q hq
      obtain ⟨i, hi, hqi⟩ := hxs.named q hq
      exact ⟨i, by omega, hqi⟩
    · exact hxs.distinct
    · exact hlater
    · rw [hlost]
      exact hxs.kept
  · have hmade : (x :: xs).filterMap Case.directory? = path :: xs.filterMap Case.directory? := by simp [hsome]
    have hother : path ∉ xs.filterMap Case.directory? := by
      intro hpath
      obtain ⟨i, hi, hpathi⟩ := hxs.named path hpath
      have hindex := hname.index_eq hpathi
      omega
    refine ⟨?_, ?_, ?_, ?_, hend⟩ <;> rw [hmade]
    · intro q hq
      rcases List.mem_cons.1 hq with rfl | hq
      · exact ⟨index, by omega, hname⟩
      · obtain ⟨i, hi, hqi⟩ := hxs.named q hq
        exact ⟨i, by omega, hqi⟩
    · exact List.nodup_cons.2 ⟨hother, hxs.distinct⟩
    · exact List.forall_mem_cons.2 ⟨hnew, hlater⟩
    · rcases hkept with hkept | hkept
      · have hlost : (x :: xs).filterMap Case.sandbox = xs.filterMap Case.sandbox := by simp [hkept]
        rw [hlost]
        exact hxs.kept.cons path
      · have hfound : (x :: xs).filterMap Case.sandbox = path :: xs.filterMap Case.sandbox := by simp [hkept]
        rw [hfound]
        exact hxs.kept.cons_cons path

/-- By induction over the scenarios, each finding what the ones before it left. -/
theorem left_runFrom (hsandbox : c.sandbox = true) (ht : t.Lawful c.root valid stands)
    (hshell : shell.Leaves valid stands) (hw : valid w) (index : Nat) (ss : List Scenario) :
    valid (runFrom t shell c index ss w).2 ∧
      Left stands index w (runFrom t shell c index ss w).1 (runFrom t shell c index ss w).2 := by
  induction ss generalizing index w with
  | nil => exact ⟨hw, ⟨nofun, List.nodup_nil, nofun, .slnil, by simp [runFrom]⟩⟩
  | cons sc ss ih =>
    have hlodged := lodged_run hsandbox ht hshell hw index sc
    obtain ⟨hv, -⟩ := hlodged.effect ht hshell hw
    obtain ⟨hz, hleft⟩ := ih hv (index + 1)
    rw [runFrom_cons]
    exact ⟨hz, hleft.cons ht hshell hw hlodged⟩

/-- Without sandboxes a scenario does to the world what its commands do, from the configured directory. -/
theorem run_of_no_sandbox (hsandbox : c.sandbox = false) (t : Temporaries κ) (shell : Shell κ) (index : Nat)
    (sc : Scenario) (w : World κ) :
    let r := run t shell c index sc w
    r.2 = w.after shell r.1.requests ∧ r.1.sandbox = none ∧ ∀ q ∈ r.1.requests, q.directory = c.directory := by
  intro r
  cases hskip : c.skips (sc.name index) with
  | true =>
    have hrun : r = (.ofSkipped (sc.name index), w) := by
      simp only [r, run]
      exact if_pos hskip
    rw [hrun]
    refine ⟨rfl, rfl, ?_⟩
    rintro q ⟨⟩
  | false =>
    have hprepare : prepare t c index w = (.ok none, w) := by simp [prepare, hsandbox]
    obtain ⟨hdirectory, hworld⟩ := traced_runIn shell c c.directory sc w
    simp only [r]
    rw [run, hskip, hprepare]
    refine ⟨hworld, rfl, fun q hq => ?_⟩
    exact (Session.directory_of_mem_requests hq).trans hdirectory

theorem runFrom_of_no_sandbox (hsandbox : c.sandbox = false) (t : Temporaries κ) (shell : Shell κ) (index : Nat)
    (ss : List Scenario) (w : World κ) :
    let r := runFrom t shell c index ss w
    r.2 = w.after shell (r.1.flatMap Case.requests) ∧
      ∀ x ∈ r.1, x.sandbox = none ∧ ∀ q ∈ x.requests, q.directory = c.directory := by
  induction ss generalizing index w with
  | nil => exact ⟨rfl, nofun⟩
  | cons sc ss ih =>
    obtain ⟨hworld, hnone, hinside⟩ := run_of_no_sandbox hsandbox t shell index sc w
    obtain ⟨hend, hcases⟩ := ih (index + 1) (run t shell c index sc w).2
    rw [runFrom_cons]
    refine ⟨?_, List.forall_mem_cons.2 ⟨⟨hnone, hinside⟩, hcases⟩⟩
    rw [List.flatMap_cons, World.after_append, ← hworld]
    exact hend

/-- Sandboxes are neither leaked nor lost.  With sandboxes each scenario is skipped, refused because its sandbox cannot
be made, or housed in a sandbox of its own; no two scenarios run in the same one, none was there before the run, and
after it the sandboxes are those that were there and those in the cases.  Without sandboxes a run does to the world what
its commands do, all of them from the configured directory. -/
theorem runAll_sandboxes (t : Temporaries κ) (shell : Shell κ) (c : Config) (ss : List Scenario) (w : World κ) :
    let r := runAll t shell c ss w
    let found (before : List Scenario) := (runAll t shell c before w).2
    (c.sandbox = true → ∀ valid stands, t.Lawful c.root valid stands → shell.Leaves valid stands → valid w →
        (∀ before sc rest, ss = before ++ sc :: rest → ∃ x, r.1.cases[before.length]? = some x ∧
          Lodged t stands shell c (before.length + 1) sc (found before) x (found (before ++ [sc]))) ∧
        (r.1.cases.filterMap Case.directory?).Nodup ∧
        (∀ q ∈ r.1.cases.filterMap Case.directory?, ¬ stands w q) ∧
        (r.1.cases.filterMap Case.sandbox).Nodup ∧
        ∀ q, stands r.2 q ↔ stands w q ∨ q ∈ r.1.cases.filterMap Case.sandbox) ∧
      (c.sandbox = false → r.2 = w.after shell (r.1.cases.flatMap Case.requests) ∧
        ∀ x ∈ r.1.cases, x.sandbox = none ∧ ∀ q ∈ x.requests, q.directory = c.directory) := by
  intro r found
  have hcases (scs : List Scenario) : (runAll t shell c scs w).1.cases = (runFrom t shell c 1 scs w).1 := rfl
  have hworld (scs : List Scenario) : (runAll t shell c scs w).2 = (runFrom t shell c 1 scs w).2 := rfl
  refine ⟨fun hsandbox valid stands ht hshell hw => ?_, fun hsandbox => ?_⟩
  · obtain ⟨-, hleft⟩ := left_runFrom hsandbox ht hshell hw 1 ss
    refine ⟨?_, hleft.distinct, hleft.fresh, hleft.kept.nodup hleft.distinct, hleft.there⟩
    rintro before sc rest rfl
    obtain ⟨hbefore, -⟩ := left_runFrom hsandbox ht hshell hw 1 before
    have hlodged := lodged_run hsandbox ht hshell hbefore (1 + before.length) sc
    rw [← runFrom_concat, Nat.add_comm 1] at hlodged
    refine ⟨_, ?_, hlodged⟩
    rw [hcases, getElem?_runFrom, Nat.add_comm 1]
  · exact runFrom_of_no_sandbox hsandbox t shell 1 ss w

/-- Two scenarios that pass but for the cleanup of the second, in sandboxes below a directory that is not there yet,
and without sandboxes. -/
theorem runAll_sandboxes_cleanup :
    let s : Site := ⟨["home"], "/tmp", some "boxes"⟩
    let shell : Shell Nat := fun r w =>
      (.ok ⟨[], [], .exited (if r.command = "true" then 0 else 1)⟩, { w with rest := w.rest + 1 })
    let c : Config := { Config.default with sandbox := true, root := some "boxes" }
    let ss : List Scenario :=
      [⟨.block "a" ["true"], [], none⟩, ⟨.block "b" ["true"], [], some (.block "" ["false"])⟩]
    let w : World Nat := ⟨⟨[(["home"], .directory)]⟩, ["home"], "/tmp", 0, 0⟩
    let r := runAll World.temporaries shell c ss w
    let r' := runAll World.temporaries shell .default ss w
    (World.temporaries : Temporaries Nat).Lawful c.root s.Holds s.Stands ∧ shell.Leaves s.Holds s.Stands ∧ s.Holds w ∧
      r.1.cases.map Case.sandbox = [none, some "/home/boxes/gourd-2-100000"] ∧
      (∀ q, s.Stands r.2 q ↔ s.Stands w q ∨ q ∈ r.1.cases.filterMap Case.sandbox) ∧
      r'.2 = w.after shell (r'.1.cases.flatMap Case.requests) ∧ r'.2.rest = 3 := by
  intro s shell c ss w r r'
  have hplain : s.Plain := ⟨by decide +kernel, by decide +kernel⟩
  have hlawful : (World.temporaries : Temporaries Nat).Lawful c.root s.Holds s.Stands := Site.lawful_temporaries hplain
  have hshell : shell.Leaves s.Holds s.Stands :=
    ⟨fun _ _ h => ⟨h.directory, h.temporary, h.closed, h.base⟩, fun _ _ _ _ => Iff.rfl⟩
  have hw : s.Holds w := ⟨rfl, rfl, by decide +kernel, by decide +kernel⟩
  obtain ⟨hon, -⟩ := runAll_sandboxes World.temporaries shell c ss w
  obtain ⟨-, hoff⟩ := runAll_sandboxes World.temporaries shell .default ss w
  obtain ⟨-, -, -, -, hthere⟩ := hon rfl s.Holds s.Stands hlawful hshell hw
  exact ⟨hlawful, hshell, hw, by decide +kernel, hthere, (hoff rfl).1, by decide +kernel⟩

end Scenario

end Acceptance
