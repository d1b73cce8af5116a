import Acceptance.Proofs.Source.Steps

/-!
# Sources that answer alike

Two sources answer alike from related states if every pull gives the same answer and leaves related states
(`Source.Simulates`), and they answer alike past rejected items if every search for an item that is not rejected does
(`Source.SimulatesPast`).  Steps made of looks past rejected items cannot tell such sources apart: they have the same
result and leave related states (`Rewind.Parallel`).  What a source with one step back remembers matters only while it
is to be given again, so the two may well remember different items.
-/

namespace Acceptance

variable {σ τ α ε β γ : Type}

/-- From related states the sources give the same answers. -/
def Source.Simulates [Source σ α ε] [Source τ α ε] (R : σ → τ → Prop) : Prop :=
  ∀ s t, R s t → (pull s).1 = (pull t).1 ∧ R (pull s).2 (pull t).2

/-- From related states the sources give the same answers however often they are pulled. -/
theorem Source.Simulates.answers_eq [Source σ α ε] [Source τ α ε] {R : σ → τ → Prop} (hR : Source.Simulates R) {s : σ}
    {t : τ} (h : R s t) (n : Nat) : answers n s = answers n t := by
  induction n generalizing s t with
  | zero => rfl
  | succ n ih =>
    obtain ⟨hanswer, hnext⟩ := hR s t h
    rw [answers, answers, hanswer, ih hnext]

/-- Pulls keep the states related. -/
theorem Source.Simulates.after [Source σ α ε] [Source τ α ε] {R : σ → τ → Prop} (hR : Source.Simulates R) {s : σ}
    {t : τ} (h : R s t) (n : Nat) : R (after n s) (after n t) := by
  induction n generalizing s t with
  | zero => exact h
  | succ n ih => exact ih (hR s t h).2

/-- From related states the sources give the same answers past the items that `p` rejects. -/
def Source.SimulatesPast [Source σ α ε] [Source τ α ε] (p : α → Bool) (R : σ → τ → Prop) : Prop :=
  ∀ s t, R s t → (seek p s).1 = (seek p t).1 ∧ R (seek p s).2 (seek p t).2

/-- Sources that answer alike do so past rejected items. -/
theorem Source.Simulates.past [Source σ α ε] [Source τ α ε] {R : σ → τ → Prop} (hR : Source.Simulates R)
    (p : α → Bool) : Source.SimulatesPast p R := by
  intro s t h
  -- induction on the items left: a rejected item is passed over by both
  induction hn : Source.size s using Nat.strongRecOn generalizing s t with
  | ind n ih =>
    subst hn
    obtain ⟨hanswer, hnext⟩ := hR s t h
    cases hs : Source.pull s with
    | mk x s' =>
      cases ht : Source.pull t with
      | mk y t' =>
        rw [hs, ht] at hanswer hnext
        obtain rfl : x = y := hanswer
        cases x with
        | item a =>
          rw [Source.seek_of_item p hs, Source.seek_of_item p ht]
          split
          · exact ⟨rfl, hnext⟩
          · exact ih _ (Source.size_lt_of_pull hs) s' t' hnext rfl
        | stop =>
          rw [Source.seek_of_stop p hs, Source.seek_of_stop p ht]
          exact ⟨rfl, hnext⟩
        | failed e =>
          rw [Source.seek_of_failed p hs, Source.seek_of_failed p ht]
          exact ⟨rfl, hnext⟩

/-- From related states the judges have the same verdict on every item, and they remain related. -/
def Judge.Agree {κ μ : Type} (S : κ → μ → Prop) (j : Judge κ α) (l : Judge μ α) : Prop :=
  ∀ a k m, S k m → (j a k).1 = (l a m).1 ∧ S (j a k).2 (l a m).2

/-- Sources that answer alike still do when they are filtered by judges that agree. -/
theorem Filtered.simulates {κ μ : Type} [Source σ α ε] [Source τ α ε] {R : σ → τ → Prop} {S : κ → μ → Prop}
    {j : Judge κ α} {l : Judge μ α} (hR : Source.Simulates R) (hS : Judge.Agree S j l) :
    Source.Simulates fun (f : Filtered σ κ α) (g : Filtered τ μ α) =>
      ∃ s t k m, R s t ∧ S k m ∧ f = ⟨s, j, k⟩ ∧ g = ⟨t, l, m⟩ := by
  rintro _ _ ⟨s, t, k, m, h, hkm, rfl, rfl⟩
  -- induction on the items left: a rejected item is passed over by both
  induction hn : Source.size s using Nat.strongRecOn generalizing s t k m with
  | ind n ih =>
    subst hn
    obtain ⟨hanswer, hnext⟩ := hR s t h
    cases hs : Source.pull s with
    | mk x s' =>
      cases ht : Source.pull t with
      | mk y t' =>
        rw [hs, ht] at hanswer hnext
        obtain rfl : x = y := hanswer
        cases x with
        | item a =>
          obtain ⟨hverdict, hstate⟩ := hS a k m hkm
          rw [pull_of_item j k hs, pull_of_item l m ht, hverdict]
          split
          · exact ⟨rfl, s', t', _, _, hnext, hstate, rfl, rfl⟩
          · exact ih _ (Source.size_lt_of_pull hs) s' t' _ _ hnext hstate rfl
        | stop =>
          rw [pull_of_stop j k hs, pull_of_stop l m ht]
          exact ⟨rfl, s', t', k, m, hnext, hkm, rfl, rfl⟩
        | failed e =>
          rw [pull_of_failed j k hs, pull_of_failed l m ht]
          exact ⟨rfl, s', t', k, m, hnext, hkm, rfl, rfl⟩

namespace Rewind

variable {R : σ → τ → Prop} {s : Rewind σ α} {t : Rewind τ α}

/-- The sources are related, and if an item is to be given again, then it is the same. -/
def Alike (R : σ → τ → Prop) (s : Rewind σ α) (t : Rewind τ α) : Prop :=
  R s.source t.source ∧ (s.memory = t.memory ∨ s.memory.waiting = 0 ∧ t.memory.waiting = 0)

/-- Two steps have the same result and leave states that are alike. -/
def Parallel (R : σ → τ → Prop) (f : Step σ α ε β) (g : Step τ α ε β) (s : Rewind σ α) (t : Rewind τ α) : Prop :=
  (f s).1 = (g t).1 ∧ Alike R (f s).2 (g t).2

/-! ### Looks at the next item -/

section Looks

variable [Source σ α ε] [Source τ α ε]

theorem Alike.ofSource {a : σ} {b : τ} (h : R a b) : Alike R (ofSource a : Rewind σ α) (ofSource b) :=
  ⟨h, .inl rfl⟩

/-- A state with nothing to be given again is as good as a new one. -/
theorem Alike.of_idle {a : σ} {b : τ} {m : Memory α} (h : R a b) (hm : m.waiting = 0) :
    Alike R ⟨a, m⟩ (Rewind.ofSource b) :=
  ⟨h, .inr ⟨hm, rfl⟩⟩

/-- With nothing to be given again, the source underneath is searched, and an item that is found is remembered. -/
theorem seek_of_idle (p : α → Bool) (a : σ) {m : Memory α} (hm : m.waiting = 0) :
    ∃ k : Memory α, Source.seek p (⟨a, m⟩ : Rewind σ α) = ((Source.seek p a).1, ⟨(Source.seek p a).2, k⟩) ∧
      k.waiting = 0 ∧ ∀ c, (Source.seek p a).1 = .item c → k = .holding c := by
  induction hn : Source.size a using Nat.strongRecOn generalizing a m with
  | ind n ih =>
    subst hn
    cases ha : Source.pull a with
    | mk x b =>
      have hpull := pull_of_idle hm ha
      cases x with
      | item c =>
        rw [Source.seek_of_item p ha, Source.seek_of_item p hpull]
        by_cases hc : p c = true
        · rw [if_pos hc, if_pos hc]
          refine ⟨.holding c, rfl, rfl, ?_⟩
          rintro _ ⟨⟩
          rfl
        · -- a rejected item is remembered until another one is found
          rw [if_neg hc, if_neg hc]
          exact ih _ (Source.size_lt_of_pull ha) b rfl rfl
      | stop =>
        rw [Source.seek_of_stop p ha, Source.seek_of_stop p hpull]
        exact ⟨.empty, rfl, rfl, nofun⟩
      | failed e =>
        rw [Source.seek_of_failed p ha, Source.seek_of_failed p hpull]
        exact ⟨m, rfl, hm, nofun⟩

variable {p : α → Bool}

/-- What two searches find alike: the same answer, in states that are alike, and an item is what both remember. -/
private def FindsAlike (ε : Type) [Source σ α ε] [Source τ α ε] (p : α → Bool) (R : σ → τ → Prop)
    (s : Rewind σ α) (t : Rewind τ α) : Prop :=
  ∃ (x : Answer α ε) (s' : Rewind σ α) (t' : Rewind τ α), Source.seek p s = (x, s') ∧ Source.seek p t = (x, t') ∧
    Alike R s' t' ∧ ∀ a, x = .item a → s'.memory = .holding a ∧ t'.memory = .holding a

private theorem findsAlike_of_idle (hR : Source.SimulatesPast p R) {a : σ} {b : τ} (hab : R a b) {m m' : Memory α}
    (hm : m.waiting = 0) (hm' : m'.waiting = 0) : FindsAlike ε p R ⟨a, m⟩ ⟨b, m'⟩ := by
  obtain ⟨hanswer, hnext⟩ := hR a b hab
  obtain ⟨k, hs, hk, hitem⟩ := seek_of_idle p a hm
  obtain ⟨k', ht, hk', hitem'⟩ := seek_of_idle p b hm'
  rw [← hanswer] at ht hitem'
  exact ⟨_, _, _, hs, ht, ⟨hnext, .inr ⟨hk, hk'⟩⟩, fun c hc => ⟨hitem c hc, hitem' c hc⟩⟩

/-- Searches from states that are alike find the same. -/
private theorem Alike.findsAlike (hR : Source.SimulatesPast p R) (h : Alike R s t) : FindsAlike ε p R s t := by
  obtain ⟨s, m⟩ := s
  obtain ⟨t, m'⟩ := t
  obtain ⟨hst, hm⟩ := h
  rcases hm with hm | ⟨hm, hm'⟩
  · obtain rfl : m = m' := hm
    cases m with
    | replaying a =>
      have hs : Source.pull (⟨s, .replaying a⟩ : Rewind σ α) = (.item a, ⟨s, .holding a⟩) := rfl
      have ht : Source.pull (⟨t, .replaying a⟩ : Rewind τ α) = (.item a, ⟨t, .holding a⟩) := rfl
      have hseek := Source.seek_of_item p hs
      have hseek' := Source.seek_of_item p ht
      by_cases ha : p a = true
      · rw [if_pos ha] at hseek hseek'
        refine ⟨.item a, _, _, hseek, hseek', ⟨hst, .inl rfl⟩, ?_⟩
        rintro _ ⟨⟩
        exact ⟨rfl, rfl⟩
      · rw [if_neg ha] at hseek hseek'
        rw [FindsAlike, hseek, hseek']
        exact findsAlike_of_idle hR hst rfl rfl
    | empty => exact findsAlike_of_idle hR hst rfl rfl
    | holding a => exact findsAlike_of_idle hR hst rfl rfl
  · exact findsAlike_of_idle hR hst hm hm'

theorem parallel_takeIf (hR : Source.SimulatesPast p R) (wanted : α → Bool) (h : Alike R s t) :
    Parallel (ε := ε) R (takeIf p wanted) (takeIf p wanted) s t := by
  obtain ⟨x, s', t', hs, ht, hnext, hmem⟩ : FindsAlike ε p R s t := h.findsAlike hR
  unfold Parallel takeIf
  rw [hs, ht]
  cases x with
  | item a =>
    obtain ⟨hs', ht'⟩ := hmem a rfl
    by_cases ha : wanted a = true
    · simp only [ha, ↓reduceIte]
      exact ⟨trivial, hnext⟩
    · simp only [ha, Bool.false_eq_true, ↓reduceIte]
      exact ⟨trivial, hnext.1, .inl (by simp [rewind, hs', ht'])⟩
  | stop => exact ⟨rfl, hnext⟩
  | failed e => exact ⟨rfl, hnext⟩

end Looks

/-! ### Steps made of steps -/

theorem Parallel.andThen {f : Step σ α ε β} {f' : Step τ α ε β} {g : β → Step σ α ε γ} {g' : β → Step τ α ε γ}
    (hf : Parallel R f f' s t)
    (hg : ∀ b s' t', f s = (.ok b, s') → Alike R s' t' → Parallel R (g b) (g' b) s' t') :
    Parallel R (andThen f g) (andThen f' g') s t := by
  obtain ⟨hres, hnext⟩ := hf
  cases hs : f s with
  | mk x s' =>
    cases ht : f' t with
    | mk y t' =>
      rw [hs, ht] at hres hnext
      obtain rfl : x = y := hres
      unfold Parallel
      cases x with
      | ok b =>
        rw [andThen_of_ok hs, andThen_of_ok ht]
        exact hg b s' t' hs hnext
      | error e =>
        rw [andThen_of_error hs, andThen_of_error ht]
        exact ⟨rfl, hnext⟩

theorem Parallel.andMake {f : Step σ α ε β} {f' : Step τ α ε β} (hf : Parallel R f f' s t) (g : β → γ) :
    Parallel R (andMake f g) (andMake f' g) s t := by
  obtain ⟨hres, hnext⟩ := hf
  cases hs : f s with
  | mk x s' =>
    cases ht : f' t with
    | mk y t' =>
      rw [hs, ht] at hres hnext
      obtain rfl : x = y := hres
      unfold Parallel
      cases x with
      | ok b =>
        rw [andMake_of_ok hs, andMake_of_ok ht]
        exact ⟨rfl, hnext⟩
      | error e =>
        rw [andMake_of_error hs, andMake_of_error ht]
        exact ⟨rfl, hnext⟩

theorem Parallel.ifSome {f : Step σ α ε (Option β)} {f' : Step τ α ε (Option β)} {yes : β → Step σ α ε γ}
    {yes' : β → Step τ α ε γ} (hf : Parallel R f f' s t)
    (hyes : ∀ b s' t', f s = (.ok (some b), s') → Alike R s' t' → Parallel R (yes b) (yes' b) s' t') (no : γ) :
    Parallel R (ifSome f yes no) (ifSome f' yes' no) s t := by
  obtain ⟨hres, hnext⟩ := hf
  cases hs : f s with
  | mk x s' =>
    cases ht : f' t with
    | mk y t' =>
      rw [hs, ht] at hres hnext
      obtain rfl : x = y := hres
      unfold Parallel
      rcases x with e | _ | b
      · rw [ifSome_of_error hs, ifSome_of_error ht]
        exact ⟨rfl, hnext⟩
      · rw [ifSome_of_none hs, ifSome_of_none ht]
        exact ⟨rfl, hnext⟩
      · rw [ifSome_of_some hs, ifSome_of_some ht]
        exact hyes b s' t' hs hnext

end Rewind

end Acceptance
