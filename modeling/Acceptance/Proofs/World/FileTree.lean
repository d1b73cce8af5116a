import Acceptance.Proofs.Text.OneLine
import Acceptance.World.FileTree
import Mathlib.Data.List.Induction
import Mathlib.Data.List.Nodup
import Mathlib.Data.List.Perm.Subperm

/-!
# File trees and the paths into them

What stands at a path after an entry was put or removed, which directories are there after the missing ones were made,
and where a path given as text leads in a tree that has every entry in a directory (`locate_of_isDirectory`).  A fresh
name is not taken: there are more candidates for it than entries (`find?_freshName`).
-/

namespace Acceptance

namespace Path

/-! ### Paths given as text -/

/-- Names that lead from a directory into the one of that name. -/
def Plain (p : Path) : Prop :=
  ∀ c ∈ p, c ≠ "" ∧ c ≠ "." ∧ c ≠ ".." ∧ '/' ∉ c.toList ∧ c.utf8ByteSize ≤ FileTree.longestName

instance (p : Path) : Decidable p.Plain := inferInstanceAs (Decidable (∀ c ∈ p, _))

theorem components_append_slash (a b : String) :
    components (a ++ "/" ++ b) = components a ++ components b := by
  have hsplit : (a ++ "/" ++ b).toList = a.toList ++ '/' :: b.toList := by simp
  unfold components
  rw [hsplit, List.splitOn_append_cons_self, List.map_append, List.filter_append]

theorem components_of_no_slash {name : String} (hne : name ≠ "") (h : '/' ∉ name.toList) :
    components name = [name] := by
  unfold components
  rw [List.splitOn_eq_singleton h]
  simp [hne]

theorem components_intercalate {p : Path} (h : p.Plain) : components ("/".intercalate p) = p := by
  have hslash : ∀ l ∈ p.map String.toList, '/' ∉ l := by
    intro l hl
    obtain ⟨c, hc, rfl⟩ := List.mem_map.1 hl
    exact (h c hc).2.2.2.1
  have hempty : ∀ c ∈ p, (c != "") = true := fun c hc => bne_iff_ne.2 (h c hc).1
  by_cases hp : p = []
  · subst hp
    decide
  · have hmap : p.map String.toList ≠ [] := by simpa using hp
    have hlist : ("/".intercalate p).toList = ['/'].intercalate (p.map String.toList) := by simp
    unfold components
    rw [hlist, List.splitOn_intercalate '/' hslash hmap, List.map_map]
    simpa [Function.comp_def] using hempty

theorem components_text {p : Path} (h : p.Plain) : components p.text = p := by
  have hfront : p.text = "" ++ "/" ++ "/".intercalate p := by simp [text]
  rw [hfront, components_append_slash, components_intercalate h]
  simp [components]

theorem isAbsolute_text (p : Path) : isAbsolute p.text = true := by
  simp [isAbsolute, text]

/-- What stands below a directory has its path behind a slash. -/
theorem exists_join (a : String) (ha : a ≠ "") :
    ∃ front, components front = components a ∧
      ∀ b, isAbsolute b = false → join a b = front ++ "/" ++ b := by
  by_cases hlast : a.toList.getLast?.all (· == '/') = true
  · obtain ⟨l, hl⟩ : ∃ l, a.toList = l ++ ['/'] := by
      cases hc : a.toList.getLast? with
      | none => exact absurd (List.getLast?_eq_none_iff.1 hc) (by simpa using ha)
      | some c =>
        rw [hc] at hlast
        obtain rfl : c = '/' := by simpa using hlast
        exact List.getLast?_eq_some_iff.1 hc
    have hfront : a = String.ofList l ++ "/" := by
      apply String.toList_inj.1
      simp [hl]
    refine ⟨String.ofList l, ?_, fun b hb => ?_⟩
    · have hparts := components_append_slash (String.ofList l) ""
      rw [String.append_empty, ← hfront] at hparts
      simpa [components] using hparts.symm
    · unfold join
      rw [hb, if_pos hlast]
      simp [← hfront]
  · refine ⟨a, rfl, fun b hb => ?_⟩
    unfold join
    rw [hb, if_neg hlast]
    simp

theorem components_join {a b : String} (ha : a ≠ "") (hb : isAbsolute b = false) :
    components (join a b) = components a ++ components b := by
  obtain ⟨front, hfront, hjoin⟩ := exists_join a ha
  rw [hjoin b hb, components_append_slash, hfront]

theorem isAbsolute_append {a b : String} (h : isAbsolute a = true) : isAbsolute (a ++ b) = true := by
  unfold isAbsolute at *
  rw [String.toList_append, List.head?_append, beq_iff_eq.1 h]
  rfl

theorem ne_empty_of_isAbsolute {a : String} (h : isAbsolute a = true) : a ≠ "" := by
  rintro rfl
  simp [isAbsolute] at h

theorem isAbsolute_join {a : String} (h : isAbsolute a = true) (b : String) : isAbsolute (join a b) = true := by
  unfold join
  split
  · assumption
  · split
    · exact isAbsolute_append h
    · exact isAbsolute_append (isAbsolute_append h)

end Path

namespace FileTree

variable {t u : FileTree} {p q r : Path} {e : Entry}

/-! ### Putting and removing entries -/

theorem find?_of_ne_nil (hr : r ≠ []) (t : FileTree) : t.find? r = t.entries.lookup r := if_neg hr

theorem lookup_filter_key {α β : Type} [BEq α] [LawfulBEq α] (f : α → Bool) (l : List (α × β)) (k : α) :
    (l.filter fun x => f x.1).lookup k = if f k then l.lookup k else none := by
  induction l with
  | nil => simp
  | cons x l ih =>
    obtain ⟨key, value⟩ := x
    by_cases hf : f key = true
    · by_cases hk : k = key
      · subst hk
        simp [hf]
      · have hne : (k == key) = false := beq_eq_false_iff_ne.2 hk
        simp [hf, List.lookup_cons, hne, ih]
    · by_cases hk : k = key
      · subst hk
        simp [hf, ih]
      · have hne : (k == key) = false := beq_eq_false_iff_ne.2 hk
        simp [hf, List.lookup_cons, hne, ih]

theorem lookup_replace (l : List (Path × Entry)) (h : l.any (·.1 == p) = true) :
    (l.map fun x => if x.1 = p then (p, e) else x).lookup r = if r = p then some e else l.lookup r := by
  by_cases hr : r = p
  · subst hr
    induction l with
    | nil => simp at h
    | cons x l ih =>
      obtain ⟨key, entry⟩ := x
      by_cases hkey : key = r
      · simp [hkey]
      · have hne : (r == key) = false := beq_eq_false_iff_ne.2 (Ne.symm hkey)
        have hrest : l.any (·.1 == r) = true := by simpa [hkey] using h
        simpa [hkey, List.lookup_cons, hne] using ih hrest
  · clear h
    rw [if_neg hr]
    induction l with
    | nil => rfl
    | cons x l ih =>
      obtain ⟨key, entry⟩ := x
      by_cases hkey : key = p
      · have hne : (r == p) = false := beq_eq_false_iff_ne.2 hr
        simp [hkey, List.lookup_cons, hne, ih]
      · simp [hkey, List.lookup_cons, ih]

theorem find?_put (hp : p ≠ []) (t : FileTree) (e : Entry) (r : Path) :
    (t.put p e).find? r = if r = p then some e else t.find? r := by
  by_cases hr : r = []
  · subst hr
    simp [find?, Ne.symm hp]
  · rw [find?_of_ne_nil hr, find?_of_ne_nil hr]
    unfold put
    split
    · rename_i hany
      exact lookup_replace _ hany
    · rename_i hany
      have hnone : t.entries.lookup p = none := by
        rw [List.lookup_eq_none_iff]
        intro x hx
        have hne : x.1 ≠ p := by
          rintro rfl
          exact hany (List.any_eq_true.2 ⟨x, hx, by simp⟩)
        exact bne_iff_ne.2 (Ne.symm hne)
      by_cases hrp : r = p
      · subst hrp
        simp [List.lookup_append, hnone]
      · have hne : (r == p) = false := beq_eq_false_iff_ne.2 hrp
        simp [List.lookup_append, List.lookup_cons, hne, hrp]

theorem find?_removeBelow (hp : p ≠ []) (t : FileTree) (r : Path) :
    (t.removeBelow p).find? r = if p <+: r then none else t.find? r := by
  by_cases hr : r = []
  · subst hr
    simp [find?, hp]
  · rw [find?_of_ne_nil hr, find?_of_ne_nil hr, removeBelow, lookup_filter_key fun q => !p.isPrefixOf q]
    by_cases h : p <+: r
    · rw [if_pos h, List.isPrefixOf_iff_prefix.2 h]
      rfl
    · rw [if_neg h, Bool.eq_false_iff.2 (mt List.isPrefixOf_iff_prefix.1 h)]
      rfl

theorem isDirectory_iff : t.isDirectory p = true ↔ t.find? p = some .directory := beq_iff_eq

/-! ### Trees -/

/-- Every entry is in a directory. -/
def Closed (t : FileTree) : Prop := ∀ x ∈ t.entries, t.isDirectory x.1.dropLast = true

instance (t : FileTree) : Decidable t.Closed := inferInstanceAs (Decidable (∀ x ∈ t.entries, _))

theorem Closed.isDirectory_dropLast (h : t.Closed) (hp : t.find? p = some e) : t.isDirectory p.dropLast = true := by
  by_cases hnil : p = []
  · subst hnil
    simp [isDirectory, find?]
  · rw [find?_of_ne_nil hnil] at hp
    obtain ⟨l, l', hl, -⟩ := List.lookup_eq_some_iff.1 hp
    exact h (p, e) (by simp [hl])

/-- All directories on the way to an entry are there. -/
theorem Closed.isDirectory_of_append (h : t.Closed) {rest : Path} (hrest : rest ≠ [])
    (hp : t.find? (p ++ rest) = some e) : t.isDirectory p = true := by
  induction rest using List.reverseRecOn generalizing e with
  | nil => exact absurd rfl hrest
  | append_singleton rest c ih =>
    have hparent := h.isDirectory_dropLast hp
    rw [← List.append_assoc, List.dropLast_concat] at hparent
    by_cases hnil : rest = []
    · subst hnil
      simpa using hparent
    · exact ih hnil (isDirectory_iff.1 hparent)

theorem isDirectory_put (hp : t.find? p = none) (hq : t.isDirectory q = true) (e : Entry) :
    (t.put p e).isDirectory q = true := by
  have hnil : p ≠ [] := by
    rintro rfl
    simp [find?] at hp
  have hne : q ≠ p := by
    rintro rfl
    rw [isDirectory_iff, hp] at hq
    cases hq
  rw [isDirectory_iff, find?_put hnil, if_neg hne]
  exact isDirectory_iff.1 hq

theorem Closed.put (h : t.Closed) (hp : t.find? p = none) (hparent : t.isDirectory p.dropLast = true) (e : Entry) :
    (t.put p e).Closed := by
  intro x hx
  have hkey : x.1 = p ∨ ∃ y ∈ t.entries, y.1 = x.1 := by
    unfold FileTree.put at hx
    split at hx
    · obtain ⟨y, hy, rfl⟩ := List.mem_map.1 hx
      split
      · exact .inl rfl
      · exact .inr ⟨y, hy, rfl⟩
    · rcases List.mem_append.1 hx with hx | hx
      · exact .inr ⟨x, hx, rfl⟩
      · exact .inl (by simp_all)
  rcases hkey with rfl | ⟨y, hy, hyx⟩
  · exact isDirectory_put hp hparent e
  · rw [← hyx]
    exact isDirectory_put hp (h y hy) e

theorem Closed.removeBelow (h : t.Closed) (hp : p ≠ []) : (t.removeBelow p).Closed := by
  intro x hx
  obtain ⟨hmem, hbelow⟩ := List.mem_filter.1 hx
  have hnot : ¬ p <+: x.1 := by simpa [← List.isPrefixOf_iff_prefix] using hbelow
  have hparent : ¬ p <+: x.1.dropLast := fun h => hnot (h.trans (List.dropLast_prefix _))
  rw [isDirectory_iff, find?_removeBelow hp, if_neg hparent]
  exact isDirectory_iff.1 (h x hmem)

/-! ### Making directories -/

/-- The directories along components are there in the second tree, those that were missing in the first having been
put there, and the last path is where the components lead. -/
inductive Makes : FileTree → Path → List String → FileTree → Path → Prop
  | nil {t : FileTree} {p : Path} : Makes t p [] t p
  | stay {t u p q cs} : Makes t p cs u q → Makes t p ("." :: cs) u q
  | up {t u p q cs} : Makes t p.dropLast cs u q → Makes t p (".." :: cs) u q
  | enter {t u p q c cs} : c ≠ "." → c ≠ ".." → c.utf8ByteSize ≤ longestName →
      t.find? (p ++ [c]) = some .directory → Makes t (p ++ [c]) cs u q → Makes t p (c :: cs) u q
  | make {t u p q c cs} : c ≠ "." → c ≠ ".." → c.utf8ByteSize ≤ longestName →
      t.find? (p ++ [c]) = none → Makes (t.put (p ++ [c]) .directory) (p ++ [c]) cs u q → Makes t p (c :: cs) u q

variable {cs : List String}

theorem makes_of_makeDirectories (h : t.makeDirectories p cs = .ok (u, q)) : Makes t p cs u q := by
  induction cs generalizing t p with
  | nil =>
    cases h
    exact .nil
  | cons c cs ih =>
    rw [makeDirectories] at h
    by_cases hdot : c = "."
    · subst hdot
      exact .stay (ih h)
    · rw [if_neg hdot] at h
      by_cases hup : c = ".."
      · subst hup
        exact .up (ih h)
      · rw [if_neg hup] at h
        split at h
        · cases h
        · rename_i hsize
          split at h
          case h_1 hfound => exact .enter hdot hup (by omega) hfound (ih h)
          case h_2 => cases h
          case h_3 hfound => exact .make hdot hup (by omega) hfound (ih h)

theorem Makes.find?_eq_some (h : Makes t p cs u q) (hr : t.find? r = some e) : u.find? r = some e := by
  induction h with
  | nil => exact hr
  | stay _ ih => exact ih hr
  | up _ ih => exact ih hr
  | enter _ _ _ _ _ ih => exact ih hr
  | @make t u p q c cs _ _ _ hnone _ ih =>
    apply ih
    have hne : r ≠ p ++ [c] := by
      rintro rfl
      rw [hnone] at hr
      cases hr
    rw [find?_put (by simp), if_neg hne, hr]

theorem Makes.closed (h : Makes t p cs u q) (ht : t.Closed) (hp : t.isDirectory p = true) :
    u.Closed ∧ u.isDirectory q = true := by
  induction h with
  | nil => exact ⟨ht, hp⟩
  | stay _ ih => exact ih ht hp
  | up _ ih => exact ih ht (ht.isDirectory_dropLast (isDirectory_iff.1 hp))
  | enter _ _ _ hfound _ ih => exact ih ht (isDirectory_iff.2 hfound)
  | @make t u p q c cs _ _ _ hnone _ ih =>
    have hparent : t.isDirectory (p ++ [c]).dropLast = true := by simpa using hp
    apply ih (ht.put hnone hparent .directory)
    rw [isDirectory_iff, find?_put (by simp), if_pos rfl]

/-- Plain names lead where they say, and nothing is put deeper than that. -/
theorem Makes.of_plain (h : Makes t p cs u q) (hcs : Path.Plain cs) :
    q = p ++ cs ∧ ∀ r : Path, q.length < r.length → u.find? r = t.find? r := by
  induction h with
  | nil => simp
  | stay _ _ => exact absurd rfl (hcs "." List.mem_cons_self).2.1
  | up _ _ => exact absurd rfl (hcs ".." List.mem_cons_self).2.2.1
  | enter _ _ _ _ _ ih =>
    have hrest := ih fun c hc => hcs c (List.mem_cons_of_mem _ hc)
    simpa using hrest
  | @make t u p q c cs _ _ _ _ _ ih =>
    obtain ⟨hq, hkept⟩ := ih fun c hc => hcs c (List.mem_cons_of_mem _ hc)
    refine ⟨by simpa using hq, fun r hr => ?_⟩
    have hne : r ≠ p ++ [c] := by
      rintro rfl
      simp [hq] at hr
    rw [hkept r hr, find?_put (by simp), if_neg hne]

/-! ### Where a path leads -/

theorem walk_of_plain (ht : t.Closed) (hcs : Path.Plain cs) (h : t.find? (p ++ cs) = some e) :
    t.walk p cs = .ok (p ++ cs) := by
  induction cs generalizing p with
  | nil => simp [walk]
  | cons c cs ih =>
    obtain ⟨-, hdot, hup, -, hsize⟩ := hcs c List.mem_cons_self
    have hp : t.find? p = some .directory := isDirectory_iff.1 (ht.isDirectory_of_append (by simp) h)
    have hrest : t.find? ((p ++ [c]) ++ cs) = some e := by simpa using h
    have hwalk := ih (fun c hc => hcs c (List.mem_cons_of_mem _ hc)) hrest
    simp only [walk, hp, hdot, hup, if_false, Nat.not_lt.2 hsize, hwalk]
    simp

/-- Along plain names a walk leads where they say. -/
theorem eq_append_of_walk (hcs : Path.Plain cs) (h : t.walk p cs = .ok q) : q = p ++ cs := by
  induction cs generalizing p with
  | nil =>
    cases h
    simp
  | cons c cs ih =>
    obtain ⟨-, hdot, hup, -, hsize⟩ := hcs c List.mem_cons_self
    rw [walk] at h
    split at h
    · cases h
    · rw [if_neg hdot, if_neg hup, if_neg (Nat.not_lt.2 hsize)] at h
      have hrest := ih (fun c hc => hcs c (List.mem_cons_of_mem _ hc)) h
      simpa using hrest
    · cases h

/-- What is found by a path from the root, given as text by plain names, is what stands there. -/
theorem eq_components_of_locate {text : String} (habsolute : Path.isAbsolute text = true)
    (hplain : Path.Plain (Path.components text)) {directory : Path} (h : t.locate directory text = .ok (p, e)) :
    p = Path.components text ∧ t.find? p = some e := by
  unfold locate at h
  cases hresolve : t.resolve directory text with
  | error cause =>
    rw [hresolve] at h
    cases h
  | ok q =>
    have hq : q = Path.components text := by
      rw [resolve, if_neg (Path.ne_empty_of_isAbsolute habsolute), habsolute, if_pos rfl] at hresolve
      cases hwalk : t.walk [] (Path.components text) with
      | error cause =>
        rw [hwalk] at hresolve
        cases hresolve
      | ok r =>
        have hr : r = q := by
          rw [hwalk] at hresolve
          simp only [bind, Except.bind] at hresolve
          split at hresolve <;> cases hresolve
          rfl
        rw [← hr]
        exact eq_append_of_walk hplain hwalk
    rw [hresolve] at h
    simp only [bind, Except.bind] at h
    split at h <;> cases h
    rename_i hfound
    exact ⟨hq, hfound⟩

/-- The path of a directory, given as text from the root by plain names, leads to it. -/
theorem locate_of_isDirectory (ht : t.Closed) {text : String} (habsolute : Path.isAbsolute text = true)
    (hplain : Path.Plain (Path.components text)) (h : t.isDirectory (Path.components text) = true)
    (directory : Path) : t.locate directory text = .ok (Path.components text, .directory) := by
  have hfound := isDirectory_iff.1 h
  have hwalk : t.walk [] (Path.components text) = .ok (Path.components text) :=
    walk_of_plain ht hplain (by simpa using hfound)
  have hresolve : t.resolve directory text = .ok (Path.components text) := by
    unfold resolve
    rw [if_neg (Path.ne_empty_of_isAbsolute habsolute), habsolute, if_pos rfl, hwalk]
    simp [bind, Except.bind, hfound]
  unfold locate
  rw [hresolve]
  simp [bind, Except.bind, hfound]

/-! ### Fresh names -/

/-- The digits of a number give the number. -/
theorem repr_injective : Function.Injective Nat.repr := by
  intro m n h
  have hdigits : Nat.toDigits 10 m = Nat.toDigits 10 n := by rw [← Nat.toList_repr, ← Nat.toList_repr, h]
  rw [← Nat.ofDigitChars_ten_toDigits (n := m), hdigits, Nat.ofDigitChars_ten_toDigits]

theorem suffix_injective : Function.Injective suffix := by
  intro m n h
  have hsum : 100000 + m = 100000 + n := repr_injective h
  omega

/-- A fresh name is not taken. -/
theorem find?_freshName (t : FileTree) (directory : Path) (beginning : String) :
    ∃ n, t.freshName directory beginning = beginning ++ suffix n ∧
      t.find? (directory ++ [t.freshName directory beginning]) = none := by
  unfold freshName
  dsimp only
  cases hfind : List.find? _ _ with
  | some name =>
    obtain ⟨n, -, rfl⟩ := List.mem_map.1 (List.mem_of_find?_eq_some hfind)
    exact ⟨n, rfl, by simpa using List.find?_some hfind⟩
  | none =>
    -- All candidates are taken, so there are as many entries as candidates.
    exfalso
    rw [List.find?_eq_none] at hfind
    let path (n : Nat) : Path := directory ++ [beginning ++ suffix n]
    have hinjective : Function.Injective path := by
      intro m n h
      have hname : beginning ++ suffix m = beginning ++ suffix n := by simpa [path] using h
      exact suffix_injective ((String.append_right_inj beginning).1 hname)
    have hnodup : ((List.range (t.entries.length + 1)).map path).Nodup := List.nodup_range.map hinjective
    have htaken : (List.range (t.entries.length + 1)).map path ⊆ t.entries.map Prod.fst := by
      intro r hr
      obtain ⟨n, hn, rfl⟩ := List.mem_map.1 hr
      have hfound := hfind (beginning ++ suffix n) (List.mem_map.2 ⟨n, hn, rfl⟩)
      obtain ⟨e, he⟩ : ∃ e, t.find? (path n) = some e := by
        exact Option.ne_none_iff_exists'.1 (by simpa using hfound)
      rw [find?_of_ne_nil (by simp [path])] at he
      obtain ⟨l, l', hl, -⟩ := List.lookup_eq_some_iff.1 he
      exact List.mem_map.2 ⟨(path n, e), by simp [hl], rfl⟩
    have hlength := (hnodup.subperm htaken).length_le
    simp only [List.length_map, List.length_range] at hlength
    omega

end FileTree

end Acceptance
