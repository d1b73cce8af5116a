import Acceptance.Run.Session
import Mathlib.Data.List.Nodup

/-!
# Bindings

Bindings that are made one after the other come to an environment in which each name stands once, with the value of
its last binding (`Bindings.lastOf_bindAll`).  A new binding of a name leaves the entries of all others in their
places, and an environment on top of another hides the names that it binds and no others (`LastOf.value?_over`).
-/

namespace Acceptance

namespace Bindings

def bindAll (env : Bindings) (bs : List (String × String)) : Bindings := bs.foldl (fun env b => env.bind b.1 b.2) env

/-- Among bindings in order, the last of the name has the value. -/
def Last (bs : List (String × String)) (key value : String) : Prop :=
  ∃ before after, bs = before ++ (key, value) :: after ∧ ∀ b ∈ after, b.1 ≠ key

/-- The environment holds the last of the bindings of each name, and nothing else. -/
structure LastOf (env : Bindings) (bs : List (String × String)) : Prop where
  /-- No name stands twice. -/
  once : (env.map Prod.fst).Nodup
  value?_iff : ∀ key value, env.value? key = some value ↔ Last bs key value
  mem_iff : ∀ key value, (key, value) ∈ env ↔ Last bs key value

/-! ### One binding -/

theorem value?_cons (b : String × String) (env : Bindings) (key : String) :
    value? (b :: env) key = if key = b.1 then some b.2 else env.value? key := by
  rw [value?, List.lookup_cons]
  by_cases h : key = b.1
  · simp [h]
  · simp [h, beq_eq_false_iff_ne.2 h, value?]

theorem value?_bind (env : Bindings) (key value key' : String) :
    (env.bind key value).value? key' = if key' = key then some value else env.value? key' := by
  induction env with
  | nil => exact value?_cons (key, value) [] key'
  | cons b env ih =>
    rw [bind]
    split
    · rename_i h
      rw [value?_cons, value?_cons, h]
      split <;> rfl
    · rename_i h
      rw [value?_cons, value?_cons, ih]
      by_cases hb : key' = b.1
      · have hne : key' ≠ key := fun he => h (hb ▸ he)
        simp [hb, h]
      · simp [hb]

theorem keys_bind (env : Bindings) (key value : String) :
    (env.bind key value).map Prod.fst =
      if key ∈ env.map Prod.fst then env.map Prod.fst else env.map Prod.fst ++ [key] := by
  induction env with
  | nil => rfl
  | cons b env ih =>
    rw [bind]
    split
    · rename_i h
      simp [h]
    · rename_i h
      have hne : key ≠ b.1 := fun he => h he.symm
      rw [List.map_cons, ih]
      simp only [List.map_cons, List.mem_cons, hne, false_or]
      split <;> rfl

theorem nodup_bind {env : Bindings} (h : (env.map Prod.fst).Nodup) (key value : String) :
    ((env.bind key value).map Prod.fst).Nodup := by
  rw [keys_bind]
  split
  · exact h
  · rename_i hkey
    rw [List.nodup_append]
    refine ⟨h, List.nodup_singleton key, ?_⟩
    rintro k hk _ hk' rfl
    exact hkey (List.mem_singleton.1 hk' ▸ hk)

/-- A binding of one name leaves the entries of all others where they are. -/
theorem getElem?_bind_of_ne {b : String × String} {key : String} (hb : b.1 ≠ key) (env : Bindings) (value : String)
    (i : Nat) : (env.bind key value)[i]? = some b ↔ env[i]? = some b := by
  have hne : (key, value) ≠ b := fun h => hb (congrArg Prod.fst h).symm
  induction env generalizing i with
  | nil => cases i <;> simp [bind, hne]
  | cons c env ih =>
    rw [bind]
    split
    · rename_i h
      have hc : c ≠ b := fun he => hb (he ▸ h)
      cases i <;> simp [hne, hc]
    · cases i with
      | zero => rfl
      | succ i => exact ih i

/-! ### Bindings in order -/

theorem not_last_nil (key value : String) : ¬ Last [] key value := by
  rintro ⟨before, after, h, -⟩
  cases before <;> cases h

theorem last_cons_iff {b : String × String} {bs : List (String × String)} {key value : String} :
    Last (b :: bs) key value ↔ Last bs key value ∨ (∀ c ∈ bs, c.1 ≠ key) ∧ b = (key, value) := by
  constructor
  · rintro ⟨before, after, h, hafter⟩
    cases before with
    | nil =>
      cases h
      exact .inr ⟨hafter, rfl⟩
    | cons c before =>
      cases h
      exact .inl ⟨before, after, rfl, hafter⟩
  · rintro (⟨before, after, rfl, hafter⟩ | ⟨hbs, rfl⟩)
    · exact ⟨b :: before, after, rfl, hafter⟩
    · exact ⟨[], bs, rfl, hbs⟩

/-- A name has a last binding if it has one at all. -/
theorem exists_last_iff {bs : List (String × String)} {key : String} :
    (∃ value, Last bs key value) ↔ ∃ b ∈ bs, b.1 = key := by
  induction bs with
  | nil => simp [not_last_nil]
  | cons b bs ih =>
    simp only [last_cons_iff, exists_or, ih, List.exists_mem_cons_iff]
    by_cases hbs : ∃ c ∈ bs, c.1 = key
    · exact iff_of_true (.inl hbs) (.inr hbs)
    · have hne : ∀ c ∈ bs, c.1 ≠ key := fun c hc he => hbs ⟨c, hc, he⟩
      simp only [hbs, false_or, or_false]
      exact ⟨fun ⟨_, _, hb⟩ => by rw [hb], fun hb => ⟨b.2, hne, by rw [← hb]⟩⟩

/-- If no name stands twice, then every entry is the last of its name. -/
theorem last_iff_mem {env : Bindings} (h : (env.map Prod.fst).Nodup) {key value : String} :
    Last env key value ↔ (key, value) ∈ env := by
  constructor
  · rintro ⟨before, after, rfl, -⟩
    simp
  · intro hm
    obtain ⟨before, after, rfl⟩ := List.append_of_mem hm
    refine ⟨before, after, rfl, fun b hb he => ?_⟩
    rw [List.map_append, List.map_cons] at h
    have hnot : key ∉ after.map Prod.fst := (List.nodup_cons.1 (List.nodup_append.1 h).2.1).1
    exact hnot (he ▸ List.mem_map_of_mem hb)

/-- The value of a name is that of the last of the new bindings of it, and if there is none, the one that it had. -/
theorem value?_bindAll (env : Bindings) (bs : List (String × String)) (key value : String) :
    (env.bindAll bs).value? key = some value ↔
      Last bs key value ∨ (∀ b ∈ bs, b.1 ≠ key) ∧ env.value? key = some value := by
  induction bs generalizing env with
  | nil => simp [bindAll, not_last_nil]
  | cons b bs ih =>
    have hstep : env.bindAll (b :: bs) = bindAll (env.bind b.1 b.2) bs := rfl
    rw [hstep, ih, value?_bind, last_cons_iff, List.forall_mem_cons, or_assoc]
    refine or_congr_right ?_
    by_cases hkey : key = b.1
    · subst hkey
      simp [Prod.ext_iff]
    · have hkey' : b.1 ≠ key := fun he => hkey he.symm
      have hb : b ≠ (key, value) := fun he => hkey' (congrArg Prod.fst he)
      simp [hkey, hkey', hb]

theorem nodup_bindAll {env : Bindings} (h : (env.map Prod.fst).Nodup) (bs : List (String × String)) :
    ((env.bindAll bs).map Prod.fst).Nodup := by
  induction bs generalizing env with
  | nil => exact h
  | cons b bs ih => exact ih (nodup_bind h b.1 b.2)

/-- If no name stands twice, then the entries are the values of the names. -/
theorem mem_iff_value?_eq {env : Bindings} (h : (env.map Prod.fst).Nodup) {key value : String} :
    (key, value) ∈ env ↔ env.value? key = some value := by
  induction env with
  | nil => simp [value?]
  | cons b env ih =>
    obtain ⟨hb, henv⟩ := List.nodup_cons.1 h
    rw [value?_cons, List.mem_cons]
    split
    · rename_i hkey
      subst hkey
      have hnot : (b.1, value) ∉ env := fun hm => hb (List.mem_map.2 ⟨_, hm, rfl⟩)
      simp [hnot, Prod.ext_iff, eq_comm]
    · rename_i hkey
      rw [← ih henv]
      simp [Prod.ext_iff, hkey]

/-- What bindings in order come to. -/
theorem lastOf_bindAll (bs : List (String × String)) : LastOf (bindAll [] bs) bs := by
  have hnil : (List.map Prod.fst ([] : Bindings)).Nodup := List.nodup_nil
  have honce : ((bindAll [] bs).map Prod.fst).Nodup := nodup_bindAll hnil bs
  have hvalue (key value : String) : (bindAll [] bs).value? key = some value ↔ Last bs key value := by
    rw [value?_bindAll]
    simp [value?]
  exact ⟨honce, hvalue, fun key value => (mem_iff_value?_eq honce).trans (hvalue key value)⟩

/-- On top of others, an environment hides those of the same names and no others. -/
theorem LastOf.value?_over {env : Bindings} {bs : List (String × String)} (h : env.LastOf bs) (under : Bindings)
    (key value : String) :
    (under.bindAll env).value? key = some value ↔
      Last bs key value ∨ (∀ b ∈ bs, b.1 ≠ key) ∧ under.value? key = some value := by
  have hlast : Last env key value ↔ Last bs key value := (last_iff_mem h.once).trans (h.mem_iff key value)
  have hsome : (∃ b ∈ env, b.1 = key) ↔ ∃ b ∈ bs, b.1 = key := by
    refine Iff.trans ?_ exists_last_iff
    simp only [← h.mem_iff]
    exact ⟨fun ⟨b, hb, hkey⟩ => ⟨b.2, hkey ▸ hb⟩, fun ⟨value, hm⟩ => ⟨_, hm, rfl⟩⟩
  have hnone : (∀ b ∈ env, b.1 ≠ key) ↔ ∀ b ∈ bs, b.1 ≠ key := by
    have h := not_congr hsome
    push Not at h
    exact h
  rw [value?_bindAll, hlast, hnone]

end Bindings

end Acceptance
