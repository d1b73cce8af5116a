import Acceptance.Proofs.Source.Yields
import Acceptance.Source.Rewind

/-!
# Steps over a source with one step back

`Ahead` says what is still to come, the item to be given again included, and `Faces` what of that is not passed over.
A step is described by `Reads`: from what it faces it makes one result and leaves one rest, however the source
finishes, and it fails only if the source does and nothing is left.  Steps are made of looks at the next item and of
other steps, and `Reads` follows how they are made (`Reads.andThen`, `Reads.ifSome_some`).
-/

namespace Acceptance

namespace Rewind

variable {σ α ε β γ : Type}

/-- A step over a source with one step back. -/
abbrev Step (σ α ε β : Type) := Rewind σ α → Except ε β × Rewind σ α

/-! ### Steps made of steps -/

/-- One step after another.  A failure of the first ends both. -/
def andThen (f : Step σ α ε β) (g : β → Step σ α ε γ) : Step σ α ε γ := fun s =>
  match f s with
  | (.ok b, s) => g b s
  | (.error e, s) => (.error e, s)

/-- A step with another result. -/
def andMake (f : Step σ α ε β) (g : β → γ) : Step σ α ε γ := fun s =>
  match f s with
  | (.ok b, s) => (.ok (g b), s)
  | (.error e, s) => (.error e, s)

/-- A step that may have no result, and what comes after it if it has one. -/
def ifSome (f : Step σ α ε (Option β)) (yes : β → Step σ α ε γ) (no : γ) : Step σ α ε γ := fun s =>
  match f s with
  | (.ok (some b), s) => yes b s
  | (.ok none, s) => (.ok no, s)
  | (.error e, s) => (.error e, s)

theorem andThen_of_ok {f : Step σ α ε β} {g : β → Step σ α ε γ} {s t : Rewind σ α} {b : β} (h : f s = (.ok b, t)) :
    andThen f g s = g b t := by
  rw [andThen, h]

theorem andThen_of_error {f : Step σ α ε β} {g : β → Step σ α ε γ} {s t : Rewind σ α} {e : ε}
    (h : f s = (.error e, t)) : andThen f g s = (.error e, t) := by
  rw [andThen, h]

theorem andMake_of_ok {f : Step σ α ε β} {g : β → γ} {s t : Rewind σ α} {b : β} (h : f s = (.ok b, t)) :
    andMake f g s = (.ok (g b), t) := by
  rw [andMake, h]

theorem andMake_of_error {f : Step σ α ε β} {g : β → γ} {s t : Rewind σ α} {e : ε} (h : f s = (.error e, t)) :
    andMake f g s = (.error e, t) := by
  rw [andMake, h]

theorem ifSome_of_some {f : Step σ α ε (Option β)} {yes : β → Step σ α ε γ} {no : γ} {s t : Rewind σ α} {b : β}
    (h : f s = (.ok (some b), t)) : ifSome f yes no s = yes b t := by
  rw [ifSome, h]

theorem ifSome_of_none {f : Step σ α ε (Option β)} {yes : β → Step σ α ε γ} {no : γ} {s t : Rewind σ α}
    (h : f s = (.ok none, t)) : ifSome f yes no s = (.ok no, t) := by
  rw [ifSome, h]

theorem ifSome_of_error {f : Step σ α ε (Option β)} {yes : β → Step σ α ε γ} {no : γ} {s t : Rewind σ α} {e : ε}
    (h : f s = (.error e, t)) : ifSome f yes no s = (.error e, t) := by
  rw [ifSome, h]

/-! ### What a step reads -/

variable [Source σ α ε]

/-- What is still to come: the item to be given again, if there is one, and what the source yields. -/
def Ahead (s : Rewind σ α) (as : List α) (x : Finish σ ε) : Prop :=
  match s.memory with
  | .replaying a => ∃ bs, as = a :: bs ∧ Source.Yields s.source bs x
  | _ => Source.Yields s.source as x

/-- Of what is still to come, `p` accepts the items `as`. -/
def Faces (p : α → Bool) (s : Rewind σ α) (as : List α) (x : Finish σ ε) : Prop :=
  ∃ bs, s.Ahead bs x ∧ bs.filter p = as

/-- The outcome of a step that makes `b` and leaves `rest` in front of the finish `x`.  A step that leaves nothing has
met the finish, so it fails if the source does. -/
inductive Gives (p : α → Bool) (b : β) (rest : List α) (x : Finish σ ε) : Except ε β × Rewind σ α → Prop
  | ok {s : Rewind σ α} : s.Faces p rest x → (rest = [] → x = .stops) → Gives p b rest x (.ok b, s)
  | error {e : ε} {t : σ} {m : Memory α} : rest = [] → x = .fails e t → m.waiting = 0 →
      Gives p b rest x (.error e, ⟨t, m⟩)

variable {p : α → Bool}

/-- Facing the items `as`, the step `f` makes `b` and leaves `rest`, whatever follows the items. -/
def Reads (p : α → Bool) (f : Step σ α ε β) (as : List α) (b : β) (rest : List α) : Prop :=
  ∀ s x, s.Faces p as x → Gives p b rest x (f s)

/-! ### Looking at the next item -/

private theorem ahead_of_idle {s : σ} {m : Memory α} {as : List α} {x : Finish σ ε} (hm : m.waiting = 0) :
    Ahead ⟨s, m⟩ as x ↔ Source.Yields s as x := by
  cases m <;> simp_all [Ahead, Memory.waiting]

theorem faces_ofSource (p : α → Bool) {s : σ} {as : List α} {x : Finish σ ε} (h : Source.Yields s as x) :
    (ofSource s : Rewind σ α).Faces p (as.filter p) x :=
  ⟨as, (ahead_of_idle rfl).2 h, rfl⟩

/-- The next item ahead is given by the next pull, and a step back puts it in front again. -/
private theorem pull_of_ahead {s : Rewind σ α} {a : α} {as : List α} {x : Finish σ ε} (h : s.Ahead (a :: as) x) :
    ∃ t : Rewind σ α, Source.pull s = (.item a, t) ∧ t.Ahead as x ∧ t.rewind.Ahead (a :: as) x := by
  obtain ⟨s, m⟩ := s
  cases m with
  | replaying b =>
    obtain ⟨bs, hb, hy⟩ := h
    cases hb
    exact ⟨⟨s, .holding a⟩, rfl, hy, as, rfl, hy⟩
  | empty =>
    obtain ⟨t, ht, hy⟩ := h
    exact ⟨⟨t, .holding a⟩, by simp [Source.pull, pull, ht, Memory.after], hy, as, rfl, hy⟩
  | holding b =>
    obtain ⟨t, ht, hy⟩ := h
    exact ⟨⟨t, .holding a⟩, by simp [Source.pull, pull, ht, Memory.after], hy, as, rfl, hy⟩

theorem pull_of_idle {s t : σ} {m : Memory α} {y : Answer α ε} (hm : m.waiting = 0)
    (h : Source.pull s = (y, t)) : Source.pull (⟨s, m⟩ : Rewind σ α) = (y, ⟨t, m.after y⟩) := by
  cases m <;> simp_all [Source.pull, pull, Memory.waiting]

private theorem waiting_of_ahead_nil {s : σ} {m : Memory α} {x : Finish σ ε} (h : Ahead ⟨s, m⟩ [] x) :
    m.waiting = 0 := by
  cases m <;> simp_all [Ahead, Memory.waiting]

/-- The first item that is faced is found past those that are not, and a step back puts it in front again. -/
private theorem seek_of_faces_cons {s : Rewind σ α} {a : α} {as : List α} {x : Finish σ ε}
    (h : s.Faces p (a :: as) x) :
    ∃ t : Rewind σ α, Source.seek p s = (.item a, t) ∧ t.Faces p as x ∧ t.rewind.Faces p (a :: as) x := by
  obtain ⟨bs, hs, hbs⟩ := h
  induction bs generalizing s with
  | nil => cases hbs
  | cons b bs ih =>
    obtain ⟨t, ht, hta, hback⟩ := pull_of_ahead hs
    have hseek := Source.seek_of_item p ht
    by_cases hb : p b = true
    · rw [if_pos hb] at hseek
      have hcons : b :: bs.filter p = a :: as := by rwa [List.filter_cons_of_pos hb] at hbs
      obtain ⟨rfl, rfl⟩ := List.cons.inj hcons
      exact ⟨t, hseek, ⟨bs, hta, rfl⟩, b :: bs, hback, hbs⟩
    · rw [if_neg hb] at hseek
      rw [List.filter_cons_of_neg hb] at hbs
      rw [hseek]
      exact ih hta hbs

/-- With no item faced, the next look meets the finish. -/
private theorem seek_of_faces_nil {s : Rewind σ α} {x : Finish σ ε} (h : s.Faces p [] x) :
    (x = .stops ∧ ∃ t : Rewind σ α, Source.seek p s = (.stop, t) ∧ t.Faces p [] (.stops : Finish σ ε)) ∨
      ∃ e t m, x = .fails e t ∧ m.waiting = 0 ∧ Source.seek p s = (.failed e, ⟨t, m⟩) := by
  obtain ⟨bs, hs, hbs⟩ := h
  induction bs generalizing s with
  | nil =>
    obtain ⟨s, m⟩ := s
    have hm := waiting_of_ahead_nil hs
    have hy : Source.Ends s x := (ahead_of_idle hm).1 hs
    cases x with
    | stops =>
      obtain ⟨t, ht, hst⟩ := Source.Stopped.pull hy
      exact .inl ⟨rfl, _, Source.seek_of_stop p (pull_of_idle hm ht), [], (ahead_of_idle rfl).2 hst, rfl⟩
    | fails e t => exact .inr ⟨e, t, m, rfl, hm, Source.seek_of_failed p (pull_of_idle hm hy)⟩
  | cons b bs ih =>
    obtain ⟨t, ht, hta, -⟩ := pull_of_ahead hs
    have hb : ¬ p b = true := fun hb => by simp [hb] at hbs
    rw [Source.seek_of_item p ht, if_neg hb]
    rw [List.filter_cons_of_neg hb] at hbs
    exact ih hta hbs

/-- The next look finds the first item that is faced. -/
theorem answer_of_faces_cons {s : Rewind σ α} {a : α} {as : List α} {x : Finish σ ε} (h : s.Faces p (a :: as) x) :
    (Source.seek p s).1 = .item a := by
  obtain ⟨t, ht, -⟩ := seek_of_faces_cons h
  rw [ht]

/-- The next look meets the end. -/
theorem answer_of_faces_nil {s : Rewind σ α} (h : s.Faces p [] (.stops : Finish σ ε)) :
    (Source.seek p s).1 = .stop := by
  obtain ⟨-, t, ht, -⟩ | ⟨e, t, m, hx, -⟩ := seek_of_faces_nil h
  · rw [ht]
  · cases hx

/-- With no item faced, a look at the next one meets the finish. -/
private theorem gives_takeIf_nil {wanted : α → Bool} {s : Rewind σ α} {x : Finish σ ε} (h : s.Faces p [] x) :
    Gives p none [] x (s.takeIf p wanted) := by
  obtain ⟨rfl, t, ht, hta⟩ | ⟨e, t, m, rfl, hm, ht⟩ := seek_of_faces_nil h
  · rw [takeIf, ht]
    exact .ok hta fun _ => rfl
  · rw [takeIf, ht]
    exact .error rfl rfl hm

/-- A look at an item that is not wanted takes nothing. -/
theorem reads_takeIf_none {wanted : α → Bool} {as : List α} (h : ∀ a ∈ as.head?, wanted a = false) :
    Reads (σ := σ) (ε := ε) p (takeIf p wanted) as none as := by
  intro s x hs
  cases as with
  | nil => exact gives_takeIf_nil hs
  | cons a as =>
    obtain ⟨t, ht, -, hback⟩ := seek_of_faces_cons hs
    have ha : wanted a = false := h a rfl
    rw [takeIf, ht]
    simp only [ha, Bool.false_eq_true, ↓reduceIte]
    exact .ok hback (fun h => absurd h (by simp))

/-- A look at an item that is wanted takes it. -/
theorem takeIf_of_wanted (wanted : α → Bool) {s : Rewind σ α} {a : α} {as : List α} {x : Finish σ ε}
    (ha : wanted a = true) (hs : s.Faces p (a :: as) x) :
    ∃ t : Rewind σ α, s.takeIf p wanted = (.ok (some a), t) ∧ t.Faces p as x := by
  obtain ⟨t, ht, hta, -⟩ := seek_of_faces_cons hs
  refine ⟨t, ?_, hta⟩
  rw [takeIf, ht]
  simp [ha]

/-- What a step can do: it succeeds, or it fails where any other step that leaves nothing would fail too. -/
theorem Reads.outcome {f : Step σ α ε β} {as rest : List α} {b : β} {s : Rewind σ α}
    {x : Finish σ ε} (hf : Reads p f as b rest) (hs : s.Faces p as x) :
    (∃ t, f s = (.ok b, t) ∧ t.Faces p rest x ∧ (rest = [] → x = .stops)) ∨
      ∃ e t, f s = (.error e, t) ∧ rest = [] ∧ ∀ {γ : Type} (c : γ), Gives p c [] x (.error e, t) := by
  have h := hf s x hs
  cases hr : f s with
  | mk r t =>
    rw [hr] at h
    cases h with
    | ok ht hx => exact .inl ⟨t, rfl, ht, hx⟩
    | error hrest hx hm => exact .inr ⟨_, _, rfl, hrest, fun _ => .error rfl hx hm⟩

/-! ### Reading with steps made of steps -/

theorem Reads.andThen {f : Step σ α ε β} {g : β → Step σ α ε γ} {as mid rest : List α} {b : β} {c : γ}
    (hf : Reads p f as b mid) (hg : Reads p (g b) mid c rest) (hnil : mid = [] → rest = []) :
    Reads p (andThen f g) as c rest := by
  intro s x hs
  rcases hf.outcome hs with ⟨t, ht, hta, -⟩ | ⟨e, t, ht, hmid, he⟩
  · rw [andThen_of_ok ht]
    exact hg t x hta
  · -- the first step has met the finish, and the second would have met it too
    rw [andThen_of_error ht, hnil hmid]
    exact he c

theorem Reads.andMake {f : Step σ α ε β} {as rest : List α} {b : β} (hf : Reads p f as b rest) (g : β → γ) :
    Reads p (andMake f g) as (g b) rest := by
  intro s x hs
  rcases hf.outcome hs with ⟨t, ht, hta, hx⟩ | ⟨e, t, ht, rfl, he⟩
  · rw [andMake_of_ok ht]
    exact .ok hta hx
  · rw [andMake_of_error ht]
    exact he (g b)

/-- A step without a result ends there. -/
theorem Reads.ifSome_none {f : Step σ α ε (Option β)} {yes : β → Step σ α ε γ} {as rest : List α}
    (hf : Reads p f as none rest) (no : γ) : Reads p (ifSome f yes no) as no rest := by
  intro s x hs
  rcases hf.outcome hs with ⟨t, ht, hta, hx⟩ | ⟨e, t, ht, rfl, he⟩
  · rw [ifSome_of_none ht]
    exact .ok hta hx
  · rw [ifSome_of_error ht]
    exact he no

/-- A step with a result goes on. -/
theorem Reads.ifSome_some {f : Step σ α ε (Option β)} {yes : β → Step σ α ε γ} {as mid rest : List α} {b : β} {c : γ}
    (no : γ) (hf : Reads p f as (some b) mid) (hg : Reads p (yes b) mid c rest) (hnil : mid = [] → rest = []) :
    Reads p (ifSome f yes no) as c rest := by
  intro s x hs
  rcases hf.outcome hs with ⟨t, ht, hta, -⟩ | ⟨e, t, ht, hmid, he⟩
  · rw [ifSome_of_some ht]
    exact hg t x hta
  · rw [ifSome_of_error ht, hnil hmid]
    exact he c

/-- A look that takes the next item goes on after it. -/
theorem Reads.ifSome_takeIf {wanted : α → Bool} {yes : α → Step σ α ε γ} {as rest : List α} {a : α} {c : γ} (no : γ)
    (ha : wanted a = true) (hg : Reads p (yes a) as c rest) :
    Reads p (ifSome (takeIf p wanted) yes no) (a :: as) c rest := by
  intro s x hs
  obtain ⟨t, ht, hta⟩ := takeIf_of_wanted wanted ha hs
  rw [ifSome_of_some ht]
  exact hg t x hta

/-- A step does not fail if the source stops. -/
theorem Reads.of_stops {f : Step σ α ε β} {as rest : List α} {b : β} {s : Rewind σ α}
    (hf : Reads p f as b rest) (hs : s.Faces p as .stops) : ∃ t, f s = (.ok b, t) ∧ t.Faces p rest .stops := by
  rcases hf.outcome hs with ⟨t, ht, hta, -⟩ | ⟨e, t, -, -, he⟩
  · exact ⟨t, ht, hta⟩
  · cases he b with
    | error _ hx _ => cases hx

end Rewind

end Acceptance
