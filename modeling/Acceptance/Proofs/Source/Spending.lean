import Acceptance.Proofs.Source.Simulation
import Acceptance.Source.Tally

/-!
# How often a step pulls

A script that is counted is told by how often it was pulled (`Tally.pulled`), and what can be given again is the item
of the last pull.  Until a script is used up each pull uses one of its answers, so steps are charged only for the pulls
after that: a step that is made where nothing is left pulls a number of times that is known for it, and any other uses
answers up or comes to such a place with a known number of pulls to spare (`Rewind.Spends`).  Both numbers follow how
steps are made of steps.
-/

namespace Acceptance

variable {α ε β γ : Type}

/-! ### Scripts by their pulls -/

namespace Tally

/-- A script that has been pulled `k` times. -/
def pulled (script : Script α ε) (k : Nat) : Tally (Script α ε) α :=
  ⟨script.drop k, k, (script.take k).filterMap Answer.item?⟩

/-- The answers of a script are given in order and once each, and then stops. -/
theorem pull_pulled (script : Script α ε) (k : Nat) :
    Source.pull (pulled script k) = (script[k]?.getD .stop, pulled script (k + 1)) := by
  by_cases h : k < script.length
  · have hdrop : script.drop k = script[k] :: script.drop (k + 1) := List.drop_eq_getElem_cons h
    have hpull : Source.pull (script.drop k) = (script[k], script.drop (k + 1)) := by rw [hdrop]; rfl
    have hgiven : record ((script.take k).filterMap Answer.item?) script[k] =
        (script.take (k + 1)).filterMap Answer.item? := by
      rw [← List.take_append_getElem h, List.filterMap_append]
      cases script[k] <;> simp [record, Answer.item?]
    show pull _ = _
    rw [pull, pulled, hpull, hgiven, List.getElem?_eq_getElem h]
    rfl
  · have hle : script.length ≤ k := Nat.le_of_not_lt h
    show pull _ = _
    rw [pull, pulled, pulled, List.drop_of_length_le hle, List.take_of_length_le hle,
      List.drop_of_length_le (Nat.le_succ_of_le hle), List.take_of_length_le (Nat.le_succ_of_le hle),
      List.getElem?_eq_none hle]
    rfl

/-- An answer that is no item to be passed over is found. -/
private theorem seek_pulled {p : α → Bool} {script : Script α ε} {k : Nat}
    (h : ∀ a, script[k]? = some (.item a) → p a = true) :
    Source.seek p (pulled script k) = (script[k]?.getD .stop, pulled script (k + 1)) := by
  have hpull := pull_pulled script k
  rcases hk : script[k]? with _ | a | _ | e
  · exact Source.seek_of_stop p (by rw [hpull, hk]; rfl)
  · exact (Source.seek_of_item p (by rw [hpull, hk]; rfl)).trans (if_pos (h a hk))
  · exact Source.seek_of_stop p (by rw [hpull, hk]; rfl)
  · exact Source.seek_of_failed p (by rw [hpull, hk]; rfl)

/-- A search in a script finds one of its answers, an item only if it is accepted, and after the last one the end. -/
theorem exists_seek_pulled (p : α → Bool) (script : Script α ε) (k : Nat) :
    ∃ j, k ≤ j ∧ j ≤ max k script.length ∧ (∀ a, script[j]? = some (.item a) → p a = true) ∧
      Source.seek p (pulled script k) = (script[j]?.getD .stop, pulled script (j + 1)) := by
  -- induction on the answers left: an item that is rejected is passed over
  induction hn : script.length - k using Nat.strongRecOn generalizing k with
  | ind n ih =>
    subst hn
    by_cases h : ∀ a, script[k]? = some (.item a) → p a = true
    · exact ⟨k, Nat.le_refl k, Nat.le_max_left .., h, seek_pulled h⟩
    · simp only [Classical.not_forall] at h
      obtain ⟨a, hk, ha⟩ := h
      have hlt : k < script.length := (List.getElem?_eq_some_iff.1 hk).1
      obtain ⟨j, hj, hle, hp, hrest⟩ := ih (script.length - (k + 1)) (by omega) (k + 1) rfl
      have hpull : Source.pull (pulled script k) = (.item a, pulled script (k + 1)) := by rw [pull_pulled, hk]; rfl
      have hpass : Source.seek p (pulled script k) = Source.seek p (pulled script (k + 1)) :=
        (Source.seek_of_item p hpull).trans (if_neg ha)
      exact ⟨j, by omega, by omega, hp, hpass.trans hrest⟩

end Tally

namespace Rewind

/-- A script, its pulls counted, with one step back. -/
abbrev Metered (α ε : Type) := Rewind (Tally (Script α ε) α) α

/-- A step over such a script. -/
abbrev MeteredStep (α ε β : Type) := Step (Tally (Script α ε) α) α ε β

/-- How often the script was pulled. -/
def pulls (s : Metered α ε) : Nat := s.source.pulls

/-- The state after a number of pulls. -/
def place (script : Script α ε) (k : Nat) (m : Memory α) : Metered α ε := ⟨.pulled script k, m⟩

variable {script : Script α ε} {p wanted : α → Bool} {s t : Metered α ε}

/-- The state is that after a number of pulls, and what is to be given again is the item of the last of them. -/
structure Placed (script : Script α ε) (p : α → Bool) (s : Metered α ε) : Prop where
  eq : s = place script s.pulls s.memory
  replaying : ∀ a, s.memory = .replaying a → p a = true ∧ ∃ k, s.pulls = k + 1 ∧ script[k]? = some (.item a)

/-- Nothing is left: every answer has been given, and nothing is to be given again. -/
def Spent (script : Script α ε) (s : Metered α ε) : Prop := script.length ≤ s.pulls ∧ s.memory.waiting = 0

theorem pulls_place (k : Nat) (m : Memory α) : (place script k m).pulls = k := rfl

theorem placed_place {k : Nat} {m : Memory α} (hm : m.waiting = 0) : Placed script p (place script k m) where
  eq := rfl
  replaying a ha := by
    have hreplaying : m = .replaying a := ha
    rw [hreplaying] at hm
    cases hm

/-- What a search can come to. -/
inductive Found (script : Script α ε) (p : α → Bool) (s : Metered α ε) : Answer α ε × Metered α ε → Prop
  | item {a : α} {k : Nat} : p a = true → script[k]? = some (.item a) → (s.memory.waiting = 0 → s.pulls ≤ k) →
      Found script p s (.item a, place script (k + 1) (.holding a))
  | stop {k : Nat} {m : Memory α} : s.pulls ≤ k → k ≤ max s.pulls script.length → m.waiting = 0 →
      Found script p s (.stop, place script (k + 1) m)
  | failed {e : ε} {k : Nat} {m : Memory α} : s.pulls ≤ k → k < script.length → m.waiting = 0 →
      Found script p s (.failed e, place script (k + 1) m)

/-- With nothing to be given again, the script is searched. -/
private theorem found_of_idle {k : Nat} {m : Memory α} (hm : m.waiting = 0) :
    Found script p (place script k m) (Source.seek p (place script k m)) := by
  obtain ⟨j, hj, hle, hp, hseek⟩ := Tally.exists_seek_pulled p script k
  obtain ⟨m', hidle, hm', hitem⟩ := seek_of_idle p (Tally.pulled script k) hm
  rw [hseek] at hidle hitem
  rw [place, hidle]
  rcases hk : script[j]? with _ | a | _ | e
  · exact .stop hj hle hm'
  · rw [hk] at hitem
    rw [hitem a rfl]
    exact .item (hp a hk) hk fun _ => hj
  · exact .stop hj hle hm'
  · exact .failed hj (List.getElem?_eq_some_iff.1 hk).1 hm'

theorem Placed.found (h : Placed script p s) : Found script p s (Source.seek p s) := by
  obtain ⟨heq, hreplaying⟩ := h
  cases hm : s.memory with
  | empty =>
    rw [heq, hm]
    exact found_of_idle rfl
  | holding a =>
    rw [heq, hm]
    exact found_of_idle rfl
  | replaying a =>
    obtain ⟨ha, k, hk, hget⟩ := hreplaying a hm
    rw [heq, hm, hk]
    have hpull : Source.pull (place script (k + 1) (.replaying a)) = (.item a, place script (k + 1) (.holding a)) :=
      rfl
    rw [Source.seek_of_item p hpull, if_pos ha]
    exact .item ha hget nofun

/-! ### What a step spends -/

/-- After `k` pulls the script has been used up no further than it goes, or nothing is left and there were at most
`most` pulls to spare. -/
def Within (script : Script α ε) (k most : Nat) (t : Metered α ε) : Prop :=
  t.pulls ≤ max k script.length ∨ Spent script t ∧ t.pulls ≤ max k script.length + most

/-- From a state in which nothing is left, a step makes `idle` with at most `again` pulls, and nothing is left after
it.  From any other there are at most `most` pulls to spare. -/
structure Spends (script : Script α ε) (p : α → Bool) (idle : β) (again most : Nat)
    (f : MeteredStep α ε β) (s : Metered α ε) : Prop where
  placed : Placed script p (f s).2
  idles : Spent script s → (f s).1 = .ok idle ∧ Spent script (f s).2 ∧ (f s).2.pulls ≤ s.pulls + again
  within : Within script s.pulls most (f s).2

section Steps

variable {f : MeteredStep α ε β} {b : β} {c : γ} {k k' again again' most most' : Nat}

theorem Within.mono (h : Within script k most t) (hk : k ≤ max k' script.length) (hm : most ≤ most') :
    Within script k' most' t :=
  h.imp (fun h => by omega) fun ⟨hspent, h⟩ => ⟨hspent, by omega⟩

/-- A step after another one. -/
theorem Within.trans (h : Within script k most t) (hf : Spends script p b again most' f t) :
    Within script k (max (most + again) most') (f t).2 := by
  rcases h with hle | ⟨hspent, hle⟩
  · exact hf.within.mono hle (Nat.le_max_right ..)
  · obtain ⟨-, hspent', hle'⟩ := hf.idles hspent
    exact .inr ⟨hspent', by omega⟩

theorem Spends.of_eq {x : Except ε β} (hx : f s = (x, t)) (hplaced : Placed script p t)
    (hidles : Spent script s → x = .ok b ∧ Spent script t ∧ t.pulls ≤ s.pulls + again)
    (hwithin : Within script s.pulls most t) : Spends script p b again most f s :=
  ⟨by rwa [hx], by rwa [hx], by rwa [hx]⟩

/-- A look at the next item, and what comes after it if it is wanted. -/
theorem spends_ifSome_takeIf (h : Placed script p s) {yes : α → MeteredStep α ε γ}
    (no : γ) (hyes : ∀ a t, takeIf p wanted s = (.ok (some a), t) → Placed script p t →
      ∃ c again, Spends script p c again most (yes a) t) (hmost : 1 ≤ most) :
    Spends script p no 1 most (ifSome (takeIf p wanted) yes no) s := by
  have hfound := h.found
  cases hx : Source.seek p s with
  | mk x t =>
    rw [hx] at hfound
    cases hfound with
    | @item a k ha hk hle =>
      have hlt : k < script.length := (List.getElem?_eq_some_iff.1 hk).1
      have hleft : ¬ Spent script s := fun hs => Nat.not_le_of_lt hlt (Nat.le_trans hs.1 (hle hs.2))
      by_cases hw : wanted a = true
      · have htake : takeIf p wanted s = (.ok (some a), place script (k + 1) (.holding a)) := by simp [takeIf, hx, hw]
        obtain ⟨_, _, hnext⟩ := hyes a _ htake (placed_place rfl)
        refine .of_eq (ifSome_of_some htake) hnext.placed (fun hs => absurd hs hleft) ?_
        exact hnext.within.mono (by rw [pulls_place]; omega) (Nat.le_refl most)
      · have htake : takeIf p wanted s = (.ok none, place script (k + 1) (.replaying a)) := by
          simp [takeIf, hx, hw]
          rfl
        refine .of_eq (ifSome_of_none htake) ⟨rfl, ?_⟩ (fun hs => absurd hs hleft) (.inl ?_)
        · rintro b ⟨⟩
          exact ⟨ha, k, rfl, hk⟩
        · rw [pulls_place]
          omega
    | @stop k m hle hk hm =>
      have htake : takeIf p wanted s = (.ok none, place script (k + 1) m) := by simp [takeIf, hx]
      have hspent : script.length ≤ k → Spent script (place script (k + 1) m) :=
        fun h => ⟨Nat.le_succ_of_le h, hm⟩
      refine .of_eq (ifSome_of_none htake) (placed_place hm) (fun hs => ?_) ?_
      · have hend : script.length ≤ s.pulls := hs.1
        exact ⟨rfl, hspent (by omega), by rw [pulls_place]; omega⟩
      · by_cases h : script.length ≤ k
        · exact .inr ⟨hspent h, by rw [pulls_place]; omega⟩
        · exact .inl (by rw [pulls_place]; omega)
    | @failed e k m hle hk hm =>
      have htake : takeIf p wanted s = (.error e, place script (k + 1) m) := by simp [takeIf, hx]
      have hleft : ¬ Spent script s := fun hs => Nat.not_le_of_lt hk (Nat.le_trans hs.1 hle)
      refine .of_eq (ifSome_of_error htake) (placed_place hm) (fun hs => absurd hs hleft) (.inl ?_)
      rw [pulls_place]
      omega

theorem Spends.andThen {g : β → MeteredStep α ε γ} {c : β → γ}
    (hf : Spends script p b again most f s)
    (hg : ∀ b' t, f s = (.ok b', t) → Placed script p t → Spends script p (c b') again' most' (g b') t) :
    Spends script p (c b) (again + again') (max (most + again') most') (andThen f g) s := by
  obtain ⟨hplaced, hidles, hwithin⟩ := hf
  cases hx : f s with
  | mk x t =>
    rw [hx] at hplaced hidles hwithin
    cases x with
    | error e =>
      refine .of_eq (andThen_of_error hx) hplaced (fun hs => ?_) (hwithin.mono (Nat.le_max_left ..) (by omega))
      cases (hidles hs).1
    | ok b' =>
      have hnext := hg b' t hx hplaced
      refine .of_eq (andThen_of_ok hx) hnext.placed (fun hs => ?_) (hwithin.trans hnext)
      obtain ⟨hb, hspent, hle⟩ := hidles hs
      obtain ⟨hresult, hspent', hle'⟩ := hnext.idles hspent
      cases hb
      have hle : t.pulls ≤ s.pulls + again := hle
      exact ⟨hresult, hspent', by omega⟩

theorem Spends.andMake (hf : Spends script p b again most f s) (g : β → γ) :
    Spends script p (g b) again most (andMake f g) s := by
  obtain ⟨hplaced, hidles, hwithin⟩ := hf
  cases hx : f s with
  | mk x t =>
    rw [hx] at hplaced hidles hwithin
    cases x with
    | error e =>
      refine .of_eq (andMake_of_error hx) hplaced (fun hs => ?_) hwithin
      cases (hidles hs).1
    | ok b' =>
      refine .of_eq (andMake_of_ok hx) hplaced (fun hs => ?_) hwithin
      obtain ⟨hb, hrest⟩ := hidles hs
      cases hb
      exact ⟨rfl, hrest⟩

theorem Spends.ifSome {f : MeteredStep α ε (Option β)}
    {yes : β → MeteredStep α ε γ} (hf : Spends script p none again most f s)
    (hyes : ∀ b t, f s = (.ok (some b), t) → Placed script p t → ∃ c, Spends script p c again' most' (yes b) t)
    (no : γ) : Spends script p no again (max (most + again') most') (ifSome f yes no) s := by
  obtain ⟨hplaced, hidles, hwithin⟩ := hf
  cases hx : f s with
  | mk x t =>
    rw [hx] at hplaced hidles hwithin
    have hmono : Within script s.pulls (max (most + again') most') t := hwithin.mono (Nat.le_max_left ..) (by omega)
    rcases x with e | _ | b'
    · refine .of_eq (ifSome_of_error hx) hplaced (fun hs => ?_) hmono
      cases (hidles hs).1
    · exact .of_eq (ifSome_of_none hx) hplaced (fun hs => ⟨rfl, (hidles hs).2⟩) hmono
    · obtain ⟨_, hnext⟩ := hyes b' t hx hplaced
      refine .of_eq (ifSome_of_some hx) hnext.placed (fun hs => ?_) (hwithin.trans hnext)
      cases (hidles hs).1

end Steps

/-! ### Items that are not wanted -/

section Unwanted

variable {σ : Type} [Source σ α ε] {p wanted : α → Bool} {s t : Rewind σ α} {a : α}

theorem memory_of_pull {x : Answer α ε} (h : Source.pull s = (x, t)) : t.memory = s.memory.after x := by
  obtain ⟨s, m⟩ := s
  cases m <;> cases h <;> rfl

/-- An item that a search finds is remembered, and after a stop nothing is. -/
theorem memory_of_seek (p : α → Bool) (s : Rewind σ α) :
    match Source.seek p s with
    | (.item a, t) => t.memory = .holding a
    | (.stop, t) => t.memory = .empty
    | (.failed _, _) => True := by
  fun_induction Source.seek p s with
  | case1 s a rest h ha => exact memory_of_pull h
  | case2 s a rest h ha ih => exact ih
  | case3 s rest h => exact memory_of_pull h
  | case4 s e rest h => trivial

/-- An item that stays in front after a look is not wanted. -/
theorem eq_false_of_replaying (h : takeIf p wanted s = (.ok none, t)) (ha : t.memory = .replaying a) :
    wanted a = false := by
  have hmemory := memory_of_seek p s
  rw [takeIf] at h
  split at h <;> rename_i hx <;> rw [hx] at hmemory
  · rename_i b u
    split at h
    · cases h
    · rename_i hb
      cases h
      have hu : u.memory = .holding b := hmemory
      rw [rewind, hu] at ha
      cases ha
      simpa using hb
  · cases h
    have ht : t.memory = .empty := hmemory
    rw [ht] at ha
    cases ha
  · cases h

/-- A look at an item that was put back and is not wanted leaves everything as it is. -/
theorem takeIf_of_replaying (hm : s.memory = .replaying a) (ha : p a = true) (hw : wanted a = false) :
    takeIf p wanted s = (.ok none, s) := by
  obtain ⟨s, m⟩ := s
  cases hm
  have hx : Source.pull (⟨s, .replaying a⟩ : Rewind σ α) = (.item a, ⟨s, .holding a⟩) := rfl
  have hseek := Source.seek_of_item p hx
  rw [if_pos ha] at hseek
  simp [takeIf, hseek, hw, rewind, Memory.rewind]

end Unwanted

end Rewind

end Acceptance
