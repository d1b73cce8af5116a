import Acceptance.Proofs.Run.Trial

/-!
# Order, stopping and blame

An evaluation attempts commands in the order in which the expression has them and each at most once: in a block up to
the first that does not succeed, and in a chain none behind the child that decides.  A command that cannot
be started, or not be waited for, is the last of all, and the error that names it and its block is what every chain
around it ends in, whatever its kind (`Expression.eval_orderly`).
-/

namespace Acceptance

variable {κ : Type} {shell : Shell κ} {ask : String → Request}

namespace Trial

/-! ### Parts of trials -/

theorem at?_append (p q : List Nat) (t : Trial) : t.at? (p ++ q) = (t.at? p).bind (at? q) := by
  induction p generalizing t with
  | nil => rfl
  | cons i p ih =>
    rw [List.cons_append, at?, at?]
    cases t.children[i]? with
    | none => rfl
    | some u => exact ih u

theorem at?_concat {p : List Nat} {i : Nat} {t v : Trial} :
    t.at? (p ++ [i]) = some v ↔ ∃ u, t.at? p = some u ∧ u.children[i]? = some v := by
  simp [at?_append, at?, Option.bind_eq_some_iff]

theorem FollowsEach.exists_getElem? {b : Bool} {ts : List Trial} {es : List Expression}
    (h : FollowsEach shell ask b ts es) {i : Nat} {t : Trial} (ht : ts[i]? = some t) :
    ∃ e, es[i]? = some e ∧ t.Follows shell ask e := by
  induction ts generalizing es i with
  | nil => cases ht
  | cons u ts ih =>
    cases h with
    | @next _ _ _ e es hu _ hts =>
      cases i with
      | zero => exact ⟨e, rfl, Option.some_inj.1 ht ▸ hu⟩
      | succ i => exact ih hts ht
    | @stop _ _ e es hu _ =>
      cases i with
      | zero => exact ⟨e, rfl, Option.some_inj.1 ht ▸ hu⟩
      | succ i => cases ht

/-- Behind the child that decides no other is tried. -/
theorem FollowsEach.getElem?_eq_none {b : Bool} {ts : List Trial} {es : List Expression}
    (h : FollowsEach shell ask b ts es) {i j : Nat} {t : Trial} (ht : ts[i]? = some t) (hb : t.result ≠ .ok b)
    (hij : i < j) : ts[j]? = none := by
  induction ts generalizing es i j with
  | nil => cases ht
  | cons u ts ih =>
    obtain ⟨j, rfl⟩ := Nat.exists_eq_succ_of_ne_zero (by omega : j ≠ 0)
    cases h with
    | next _ hu hts =>
      cases i with
      | zero => exact absurd hu (Option.some_inj.1 ht ▸ hb)
      | succ i => exact ih hts ht (by omega)
    | stop => rfl

theorem Follows.exists_child {t u : Trial} {e : Expression} (h : t.Follows shell ask e) {i : Nat}
    (hu : t.children[i]? = some u) : ∃ e', e.children[i]? = some e' ∧ u.Follows shell ask e' := by
  cases h with
  | block => cases hu
  | all _ hts => exact hts.exists_getElem? hu
  | any _ hts => exact hts.exists_getElem? hu

/-- A trial stands where the part of the expression does that it goes along with. -/
theorem Follows.exists_at? {t u : Trial} {e : Expression} (h : t.Follows shell ask e) {p : List Nat}
    (hu : t.at? p = some u) : ∃ e', e.at? p = some e' ∧ u.Follows shell ask e' := by
  induction p generalizing t e with
  | nil => exact ⟨e, rfl, Option.some_inj.1 hu ▸ h⟩
  | cons i p ih =>
    obtain ⟨t', ht', hu⟩ := Option.bind_eq_some_iff.1 hu
    obtain ⟨e', he', hfollows⟩ := h.exists_child ht'
    obtain ⟨e'', he'', hfollows⟩ := ih hfollows hu
    refine ⟨e'', ?_, hfollows⟩
    rw [Expression.at?, he']
    exact he''

theorem Follows.tells {t : Trial} {e : Expression} (h : t.Follows shell ask e) :
    ∃ w v, t.Tells shell ask e w v := by
  cases h with
  | block htells => exact ⟨_, _, htells⟩
  | all htells => exact ⟨_, _, htells⟩
  | any htells => exact ⟨_, _, htells⟩

/-! ### Attempts in their places -/

theorem mem_attemptsFrom {i : Nat} {ts : List Trial} {a : Attempt} :
    a ∈ attemptsFrom i ts ↔ ∃ (j : Nat) (t : Trial), ts[j]? = some t ∧ ∃ b ∈ t.attempts, b.under [i + j] = a := by
  induction ts generalizing i with
  | nil => simp [attemptsFrom]
  | cons t ts ih =>
    rw [attemptsFrom, List.mem_append, List.mem_map, ih]
    constructor
    · rintro (⟨b, hb, rfl⟩ | ⟨j, u, hu, b, hb, rfl⟩)
      · exact ⟨0, t, rfl, b, hb, rfl⟩
      · exact ⟨j + 1, u, hu, b, hb, by rw [show i + 1 + j = i + (j + 1) by omega]⟩
    · rintro ⟨_ | j, u, hu, b, hb, rfl⟩
      · obtain rfl : t = u := Option.some_inj.1 hu
        exact .inl ⟨b, hb, rfl⟩
      · exact .inr ⟨j, u, hu, b, hb, by rw [show i + 1 + j = i + (j + 1) by omega]⟩

theorem under_mem_attempts {t u : Trial} {i : Nat} (hu : t.children[i]? = some u) {a : Attempt}
    (ha : a ∈ u.attempts) : a.under [i] ∈ t.attempts := by
  have hfrom : a.under [i] ∈ attemptsFrom 0 t.children :=
    mem_attemptsFrom.2 ⟨i, u, hu, a, ha, by rw [Nat.zero_add]⟩
  cases t with
  | block => cases hu
  | all ts => exact hfrom
  | any ts => exact hfrom

/-- An attempt is one in a block, or one in a child. -/
theorem attempt_cases {t : Trial} {a : Attempt} (ha : a ∈ t.attempts) :
    (∃ as, t = .block a.occurrence.description as ∧ a.path = [] ∧ as[a.occurrence.position]? = some a.answer) ∨
      ∃ (i : Nat) (u : Trial), t.children[i]? = some u ∧ ∃ b ∈ u.attempts, b.under [i] = a := by
  cases t with
  | block d as =>
    obtain ⟨i, hi, rfl⟩ := List.mem_mapIdx.1 ha
    exact .inl ⟨as, rfl, rfl, List.getElem?_eq_getElem hi⟩
  | all ts | any ts =>
    obtain ⟨i, u, hu, b, hb, rfl⟩ := mem_attemptsFrom.1 ha
    exact .inr ⟨i, u, hu, b, hb, by rw [Nat.zero_add]⟩

theorem under_mem_of_at? {t u : Trial} {p : List Nat} (hu : t.at? p = some u) {a : Attempt} (ha : a ∈ u.attempts) :
    a.under p ∈ t.attempts := by
  induction p generalizing t with
  | nil =>
    obtain rfl : t = u := Option.some_inj.1 hu
    exact ha
  | cons i p ih =>
    obtain ⟨t', ht', hu⟩ := Option.bind_eq_some_iff.1 hu
    exact under_mem_attempts ht' (ih hu)

/-- Along the path of an attempt everything was tried, and the attempt is one of each part. -/
theorem exists_at?_of_mem {t : Trial} {a : Attempt} (ha : a ∈ t.attempts) {p : List Nat} (hp : p <+: a.path) :
    ∃ u : Trial, t.at? p = some u ∧ ∃ b ∈ u.attempts, b.under p = a := by
  induction p generalizing t a with
  | nil => exact ⟨t, rfl, a, ha, rfl⟩
  | cons i p ih =>
    rcases attempt_cases ha with ⟨as, -, hpath, -⟩ | ⟨j, u, hu, b, hb, rfl⟩
    · rw [hpath] at hp
      exact absurd hp (by simp)
    · have hpath : (b.under [j]).path = j :: b.path := rfl
      rw [hpath, List.cons_prefix_cons] at hp
      obtain ⟨rfl, hp⟩ := hp
      obtain ⟨v, hv, c, hc, rfl⟩ := ih hb hp
      exact ⟨v, Option.bind_eq_some_iff.2 ⟨u, hu, hv⟩, c, hc, rfl⟩

theorem exists_block_of_mem {t : Trial} {a : Attempt} (ha : a ∈ t.attempts) :
    ∃ as, t.at? a.path = some (.block a.occurrence.description as) ∧
      as[a.occurrence.position]? = some a.answer := by
  obtain ⟨u, hu, b, hb, hab⟩ := exists_at?_of_mem ha List.prefix_rfl
  have hpath : a.path ++ b.path = a.path := congrArg Attempt.path hab
  have hb' : b.path = [] := by simpa using hpath
  rcases attempt_cases hb with ⟨as, rfl, -, has⟩ | ⟨i, v, -, c, -, rfl⟩
  · have hdescription : b.occurrence.description = a.occurrence.description := by rw [← hab]; rfl
    have hposition : b.occurrence.position = a.occurrence.position := by rw [← hab]; rfl
    have hanswer : b.answer = a.answer := by rw [← hab]; rfl
    exact ⟨as, hdescription ▸ hu, by rw [← hposition, has, hanswer]⟩
  · cases hb'

/-! ### Order -/

theorem map_occurrence_under (p : List Nat) (as : List Attempt) :
    (as.map (Attempt.under p)).map Attempt.occurrence = (as.map Attempt.occurrence).map (Occurrence.under p) := by
  rw [List.map_map, List.map_map]
  rfl

theorem UpToFirst.sublist {d : String} {as : List (String × Outcome)} {cs : List String} (h : UpToFirst as cs) :
    ((block d as).attempts.map Attempt.occurrence).Sublist (Expression.block d cs).occurrences := by
  obtain ⟨rest, rfl⟩ := h.inOrder
  have hfirst : (block d as).attempts.map Attempt.occurrence = (Expression.block d (as.map Prod.fst)).occurrences := by
    apply List.ext_getElem
    · simp [attempts, Expression.occurrences]
    · intro i _ _
      simp [attempts, Expression.occurrences]
  rw [hfirst, Expression.occurrences, Expression.occurrences, List.mapIdx_append]
  exact List.sublist_append_left ..

mutual

/-- The commands that are attempted are some of those of the expression, in order. -/
theorem Follows.sublist {t : Trial} {e : Expression} :
    t.Follows shell ask e → (t.attempts.map Attempt.occurrence).Sublist e.occurrences
  | .block _ has => has.sublist
  | .all _ hts => hts.sublist 0
  | .any _ hts => hts.sublist 0

theorem FollowsEach.sublist {b : Bool} {ts : List Trial} {es : List Expression} (i : Nat) :
    FollowsEach shell ask b ts es →
      ((attemptsFrom i ts).map Attempt.occurrence).Sublist (Expression.occurrencesFrom i es)
  | .done => .slnil
  | .next ht _ hts => by
    rw [attemptsFrom, Expression.occurrencesFrom, List.map_append, map_occurrence_under]
    exact (ht.sublist.map _).append (hts.sublist (i + 1))
  | .stop ht _ => by
    rw [attemptsFrom, attemptsFrom, List.append_nil, Expression.occurrencesFrom, map_occurrence_under]
    exact (ht.sublist.map _).trans (List.sublist_append_left ..)

end

/-! ### Blame -/

/-- An error is that of the last attempt, and no other command was refused. -/
def Accounts (as : List Attempt) : Except RunError Bool → Prop
  | .ok _ => ∀ a ∈ as, ∀ cause, a.outcome ≠ .error cause
  | .error x => ∃ before a cause, as = before ++ [a] ∧ (∀ b ∈ before, ∀ cause, b.outcome ≠ .error cause) ∧
      a.outcome = .error cause ∧ x = a.blame cause

theorem Accounts.under {as : List Attempt} {x : Except RunError Bool} (h : Accounts as x) (p : List Nat) :
    Accounts (as.map (Attempt.under p)) x := by
  cases x with
  | ok v => exact List.forall_mem_map.2 h
  | error x =>
    obtain ⟨before, a, cause, rfl, hbefore, ha, hx⟩ := h
    exact ⟨before.map (Attempt.under p), a.under p, cause, List.map_append, List.forall_mem_map.2 hbefore, ha, hx⟩

theorem Accounts.append {as bs : List Attempt} {v : Bool} {x : Except RunError Bool} (ha : Accounts as (.ok v))
    (hb : Accounts bs x) : Accounts (as ++ bs) x := by
  cases x with
  | ok u => exact List.forall_mem_append.2 ⟨ha, hb⟩
  | error x =>
    obtain ⟨before, b, cause, rfl, hbefore, hcause, hx⟩ := hb
    refine ⟨as ++ before, b, cause, (List.append_assoc ..).symm, ?_, hcause, hx⟩
    exact List.forall_mem_append.2 ⟨ha, hbefore⟩

theorem Accounts.of_refused {as : List Attempt} {x : Except RunError Bool} (h : Accounts as x) {a : Attempt}
    (ha : a ∈ as) {cause : Obstacle} (hcause : a.outcome = .error cause) :
    as.getLast? = some a ∧ x = .error (a.blame cause) := by
  cases x with
  | ok v => exact absurd hcause (h a ha cause)
  | error x =>
    obtain ⟨before, b, cause', rfl, hbefore, hcause', rfl⟩ := h
    rcases List.mem_append.1 ha with ha | ha
    · exact absurd hcause (hbefore a ha cause)
    · obtain rfl := List.mem_singleton.1 ha
      obtain rfl : cause' = cause := Except.error.inj (hcause'.symm.trans hcause)
      exact ⟨List.getLast?_concat, rfl⟩

theorem firstOther_singleton (b : Bool) (x : Except RunError Bool) : firstOther b [x] = x := by
  rw [firstOther, firstOther]
  split
  · exact Eq.symm ‹_›
  · rfl

/-- In a block all commands but the last succeed, so only the last can be refused.  The places of the commands are left
to `f`, since those of the later ones are not counted from zero. -/
theorem accounts_mapIdx {d : String} {as : List (String × Outcome)} (f : Nat → String × Outcome → Attempt)
    (hf : ∀ i a, (f i a).outcome = a.2 ∧ ∀ cause, (f i a).blame cause = cause.error d a.1)
    (h : ∀ a ∈ as.dropLast, Outcome.Succeeded a.2) :
    Accounts (as.mapIdx f) (firstOther true (as.map (commandResult d))) := by
  induction as generalizing f with
  | nil => nofun
  | cons a as ih =>
    obtain ⟨houtcome, hblame⟩ := hf 0 a
    have hone : Accounts [f 0 a] (commandResult d a) := by
      obtain ⟨c, cause | o⟩ := a
      · exact ⟨[], f 0 (c, .error cause), cause, rfl, nofun, houtcome, (hblame cause).symm⟩
      · exact List.forall_mem_singleton.2 fun cause hcause => nomatch houtcome.symm.trans hcause
    cases as with
    | nil =>
      rw [List.map_singleton, firstOther_singleton]
      exact hone
    | cons b bs =>
      obtain ⟨hsucceeded, hrest⟩ := List.forall_mem_cons.1 h
      obtain ⟨c, x⟩ := a
      obtain ⟨o, rfl, ho⟩ := hsucceeded
      -- one that succeeds is not the one that decides
      have htrue : commandResult d (c, .ok o) = .ok true := by simp [commandResult, ho]
      rw [htrue] at hone
      rw [List.mapIdx_cons, List.map_cons, firstOther, if_pos htrue]
      exact hone.append (ih (fun i => f (i + 1)) (fun i => hf (i + 1)) hrest)

mutual

/-- What an expression was found to be accounts for what was attempted. -/
theorem Follows.accounts {t : Trial} {e : Expression} : t.Follows shell ask e → Accounts t.attempts t.result
  | .block _ has => accounts_mapIdx _ (fun _ _ => ⟨rfl, fun _ => rfl⟩) has.onlyLast
  | .all _ hts => hts.accounts 0
  | .any _ hts => hts.accounts 0

theorem FollowsEach.accounts {b : Bool} {ts : List Trial} {es : List Expression} (i : Nat) :
    FollowsEach shell ask b ts es → Accounts (attemptsFrom i ts) (firstOther b (results ts))
  | .done => nofun
  | .next ht hb hts => by
    have hfirst := ht.accounts.under [i]
    rw [hb] at hfirst
    rw [attemptsFrom, results, firstOther, if_pos hb]
    exact hfirst.append (hts.accounts (i + 1))
  | .stop ht hne => by
    rw [attemptsFrom, attemptsFrom, List.append_nil, results, firstOther, if_neg hne]
    exact ht.accounts.under [i]

end

/-! ### Orderly trials -/

/-- What is certain of the commands that an evaluation attempts, and of its result. -/
structure Orderly (t : Trial) (e : Expression) : Prop where
  /-- Commands are attempted in the order in which the expression has them. -/
  inOrder : (t.attempts.map Attempt.occurrence).Sublist e.occurrences
  /-- No command is attempted twice. -/
  once : (t.attempts.map Attempt.occurrence).Nodup
  /-- Each attempt is one of the block at its path, -/
  inBlock : ∀ a ∈ t.attempts, ∃ as, t.at? a.path = some (.block a.occurrence.description as) ∧
    as[a.occurrence.position]? = some a.answer
  /-- and in a block they go up to the first that does not succeed. -/
  upToFirst : ∀ p d as, t.at? p = some (.block d as) → ∃ cs, e.at? p = some (.block d cs) ∧ UpToFirst as cs
  /-- Of expressions that must all hold none is touched behind one that is false or fails. -/
  all : ∀ p es i j x, e.at? p = some (.all es) → t.found? (p ++ [i]) = some x → x ≠ .ok true → i < j →
    ∀ a ∈ t.attempts, ¬ p ++ [j] <+: a.path
  /-- Of expressions of which one must hold none is touched behind one that is true or fails. -/
  any : ∀ p es i j x, e.at? p = some (.any es) → t.found? (p ++ [i]) = some x → x ≠ .ok false → i < j →
    ∀ a ∈ t.attempts, ¬ p ++ [j] <+: a.path
  /-- Nothing is attempted after a command that is refused, -/
  last : ∀ a ∈ t.attempts, ∀ cause, a.outcome = .error cause → t.attempts.getLast? = some a
  /-- and the error that names it is what its block and all that is around it fail with. -/
  blame : ∀ a ∈ t.attempts, ∀ cause, a.outcome = .error cause →
    ∀ p, p <+: a.path → t.found? p = some (.error (a.blame cause))
  /-- Nothing fails with any other error. -/
  cause : ∀ p x, t.found? p = some (.error x) →
    ∃ a ∈ t.attempts, p <+: a.path ∧ ∃ cause, a.outcome = .error cause ∧ x = a.blame cause

/-- Where no child was tried nothing was attempted. -/
theorem not_prefix_path {t : Trial} {p : List Nat} {j : Nat} (h : ∀ u, t.at? p = some u → u.children[j]? = none)
    {a : Attempt} (ha : a ∈ t.attempts) : ¬ p ++ [j] <+: a.path := by
  intro hpath
  obtain ⟨v, hv, -⟩ := exists_at?_of_mem ha hpath
  obtain ⟨u, hu, hchild⟩ := at?_concat.1 hv
  rw [h u hu] at hchild
  cases hchild

theorem Follows.orderly {t : Trial} {e : Expression} (h : t.Follows shell ask e) : t.Orderly e where
  inOrder := h.sublist
  once := h.sublist.nodup e.nodup_occurrences
  inBlock _ ha := exists_block_of_mem ha
  upToFirst p d as hp := by
    obtain ⟨e', he', hfollows⟩ := h.exists_at? hp
    cases hfollows with
    | @block _ _ cs _ _ _ has => exact ⟨cs, he', has⟩
  all p es i j x hp hfound hx hij a ha := by
    obtain ⟨c, hc, rfl⟩ := Option.map_eq_some_iff.1 hfound
    obtain ⟨u, hu, hchild⟩ := at?_concat.1 hc
    obtain ⟨e', he', hfollows⟩ := h.exists_at? hu
    obtain rfl : .all es = e' := Option.some_inj.1 (hp.symm.trans he')
    cases hfollows with
    | all _ hts =>
      -- nothing was tried at the later position, so no path of an attempt leads there
      have hnone := hts.getElem?_eq_none hchild hx hij
      exact not_prefix_path (fun v hv => Option.some_inj.1 (hu.symm.trans hv) ▸ hnone) ha
  any p es i j x hp hfound hx hij a ha := by
    obtain ⟨c, hc, rfl⟩ := Option.map_eq_some_iff.1 hfound
    obtain ⟨u, hu, hchild⟩ := at?_concat.1 hc
    obtain ⟨e', he', hfollows⟩ := h.exists_at? hu
    obtain rfl : .any es = e' := Option.some_inj.1 (hp.symm.trans he')
    cases hfollows with
    | any _ hts =>
      have hnone := hts.getElem?_eq_none hchild hx hij
      exact not_prefix_path (fun v hv => Option.some_inj.1 (hu.symm.trans hv) ▸ hnone) ha
  last a ha cause hcause := (h.accounts.of_refused ha hcause).1
  blame a ha cause hcause p hp := by
    obtain ⟨u, hu, b, hb, rfl⟩ := exists_at?_of_mem ha hp
    obtain ⟨e', -, hfollows⟩ := h.exists_at? hu
    rw [found?, hu]
    exact congrArg some (hfollows.accounts.of_refused hb hcause).2
  cause p x hfound := by
    obtain ⟨u, hu, hx⟩ := Option.map_eq_some_iff.1 hfound
    obtain ⟨e', -, hfollows⟩ := h.exists_at? hu
    have haccounts := hfollows.accounts
    rw [hx] at haccounts
    obtain ⟨before, a, cause, hattempts, -, hcause, rfl⟩ := haccounts
    have ha : a ∈ u.attempts := by simp [hattempts]
    exact ⟨a.under p, under_mem_of_at? hu ha, List.prefix_append .., cause, hcause, rfl⟩

/-! ### What an orderly trial ends in -/

/-- The error that a trial ends in is that of one of its attempts. -/
theorem Orderly.exists_refused {t : Trial} {e : Expression} (h : t.Orderly e) {x : RunError}
    (hx : t.result = .error x) : ∃ a ∈ t.attempts, ∃ o, a.outcome = .error o ∧ x = a.blame o := by
  obtain ⟨a, ha, -, hrefused⟩ := h.cause [] x (congrArg some hx)
  exact ⟨a, ha, hrefused⟩

theorem Orderly.result_of_refused {t : Trial} {e : Expression} (h : t.Orderly e) {a : Attempt} (ha : a ∈ t.attempts)
    {o : Obstacle} (ho : a.outcome = .error o) : t.result = .error (a.blame o) :=
  Option.some_inj.1 (h.blame a ha o ho [] List.nil_prefix)

theorem Orderly.exists_error_iff {t : Trial} {e : Expression} (h : t.Orderly e) (kind : RunErrorKind) :
    (∃ x, t.result = .error x ∧ x.kind = kind) ↔ ∃ a ∈ t.attempts, ∃ cause, a.outcome = .error ⟨kind, cause⟩ := by
  constructor
  · rintro ⟨x, hx, rfl⟩
    obtain ⟨a, ha, o, ho, rfl⟩ := h.exists_refused hx
    exact ⟨a, ha, o.cause, ho⟩
  · rintro ⟨a, ha, cause, ho⟩
    exact ⟨_, h.result_of_refused ha ho, rfl⟩

/-- The error names the last attempt. -/
theorem Orderly.exists_last {t : Trial} {e : Expression} (h : t.Orderly e) {x : RunError} (hx : t.result = .error x) :
    ∃ a, t.attempts.getLast? = some a ∧ x.command = some a.occurrence.command ∧
      x.description = some a.occurrence.description := by
  obtain ⟨a, ha, o, ho, rfl⟩ := h.exists_refused hx
  exact ⟨a, h.last a ha o ho, rfl, rfl⟩

/-- A part of a trial is an evaluation of the part of the expression that stands in the same place. -/
theorem Follows.exists_eval {s : Session} {t u : Trial} {e : Expression} {p : List Nat}
    (h : t.Follows shell s.request e) (hu : t.at? p = some u) :
    ∃ e' v hs, e.at? p = some e' ∧ (e'.eval (Session.context shell) (s, v)).1 = u.result ∧
      (e'.eval (Session.context shell) (s, v)).2.1.history = s.history ++ hs ∧
      hs.filterMap Happening.answer? = u.attempts.map Attempt.answer := by
  obtain ⟨e', he', hpart⟩ := h.exists_at? hu
  obtain ⟨v, v', hs, hhappens, hanswers⟩ := hpart.tells
  have heval := hhappens.eval_eq rfl
  exact ⟨e', v, hs, he', congrArg (fun r => r.1) heval, congrArg (fun r => r.2.1.history) heval, hanswers⟩

end Trial

namespace Expression

/-- An evaluation attempts what an orderly trial says, and the shell is asked for that and answers it.  Each part of the
trial is an evaluation of the part of the expression that stands there.  The whole fails with an error of a kind if and
only if a command that was attempted met with an obstacle of that kind, which for a shell whose commands can always be
waited for is that it could not be started.  This command was the last, and the error names it and its block. -/
theorem eval_orderly (shell : Shell κ) (e : Expression) (s : Session) (w : World κ) :
    let r := e.eval (Session.context shell) (s, w)
    ∃ (t : Trial) (hs : List Happening),
      r.1 = t.result ∧ r.2.1.history = s.history ++ hs ∧
      hs.filterMap Happening.answer? = t.attempts.map Attempt.answer ∧
      Happens shell s.request e w hs r.1 r.2.2 ∧
      (∀ p u, t.at? p = some u → ∃ e' v hs', e.at? p = some e' ∧
        (e'.eval (Session.context shell) (s, v)).1 = u.result ∧
        (e'.eval (Session.context shell) (s, v)).2.1.history = s.history ++ hs' ∧
        hs'.filterMap Happening.answer? = u.attempts.map Attempt.answer) ∧
      t.Orderly e ∧
      (∀ kind, (∃ x, r.1 = .error x ∧ x.kind = kind) ↔ ∃ a ∈ t.attempts, ∃ cause, a.outcome = .error ⟨kind, cause⟩) ∧
      ((∀ q u o, (shell q u).1 = .error o → o.kind = .spawn) →
        ((∃ x, r.1 = .error x) ↔ ∃ a ∈ t.attempts, ∃ cause, a.outcome = .error ⟨.spawn, cause⟩)) ∧
      ∀ x, r.1 = .error x → ∃ a, t.attempts.getLast? = some a ∧ x.command = some a.occurrence.command ∧
        x.description = some a.occurrence.description := by
  intro r
  obtain ⟨hs, hhappens, hsession⟩ := logs_eval shell e s w
  obtain ⟨t, hfollows, hresult, hanswers⟩ := hhappens.exists_trial
  have hhistory : r.2.1.history = s.history ++ hs := congrArg Session.history hsession
  have horderly : t.Orderly e := hfollows.orderly
  have hr : r.1 = t.result := hresult.symm
  refine ⟨t, hs, hr, hhistory, hanswers, hhappens, fun p u hu => hfollows.exists_eval hu, horderly,
    fun kind => hr ▸ horderly.exists_error_iff kind, fun hspawn => ?_, fun x hx => horderly.exists_last (hr ▸ hx)⟩
  rw [← horderly.exists_error_iff, ← hr]
  refine ⟨fun ⟨x, hx⟩ => ⟨x, hx, ?_⟩, fun ⟨x, hx, _⟩ => ⟨x, hx⟩⟩
  obtain ⟨a, ha, o, ho, rfl⟩ := horderly.exists_refused (hresult.trans hx)
  have hmem : a.answer ∈ hs.filterMap Happening.answer? := by
    rw [hanswers]
    exact List.mem_map_of_mem ha
  -- the obstacle is one that the shell gave in some world
  obtain ⟨v, hv⟩ := hhappens.exists_answer hmem
  exact hspawn _ v o (hv.trans ho)

/-- A chain of chains in which a command fails, one is killed, and one behind them gives no output: it cannot be started,
or not be waited for. -/
theorem eval_orderly_waited :
    let shell (o : Obstacle) : Shell Unit := fun r w =>
      (match r.command with
        | "x" => .ok ⟨[], [], .exited 0⟩
        | "f" => .ok ⟨[], [], .exited 1⟩
        | "k" => .ok ⟨[], [], .signalled⟩
        | _ => .error o, w)
    let e : Expression := .any [.all [.block "a" ["x", "f", "x"], .block "b" ["x"]], .any [],
      .all [.block "" ["x"], .any [.block "c" ["k", "x"], .block "d" ["x", "w", "x"]], .block "b" ["x"]],
      .block "z" ["x"]]
    let s := Session.inDirectory "d"
    let w : World Unit := ⟨⟨[]⟩, ["d"], "t", 0, ()⟩
    let r (o : Obstacle) := e.eval (Session.context (shell o)) (s, w)
    let gone : Fault := .reported .other "gone"
    (∀ kind, ∃ t : Trial, (r ⟨kind, gone⟩).1 = t.result ∧ t.Orderly e ∧
      t.attempts.map (·.occurrence.command) = ["x", "f", "x", "k", "x", "w"]) ∧
    (r ⟨.wait, gone⟩).1 = .error ⟨.wait, "gone", some "d", some "w"⟩ ∧
    (r ⟨.spawn, gone⟩).1 = .error ⟨.spawn, "failed to start shell: gone", some "d", some "w"⟩ := by
  intro shell e s w r gone
  refine ⟨fun kind => ?_, rfl, rfl⟩
  obtain ⟨t, hs, hresult, hhistory, hanswers, -, -, horderly, -⟩ := eval_orderly (shell ⟨kind, gone⟩) e s w
  refine ⟨t, hresult, horderly, ?_⟩
  have hcommands : (hs.filterMap Happening.answer?).map Prod.fst = ["x", "f", "x", "k", "x", "w"] := by
    rw [← List.nil_append hs, ← show s.history = [] from rfl, ← hhistory]
    cases kind <;> decide +kernel
  rw [← hcommands, hanswers, List.map_map]
  rfl

end Expression

end Acceptance
