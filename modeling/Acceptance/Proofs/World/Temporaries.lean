import Acceptance.Proofs.World.FileTree
import Acceptance.Proofs.World.Sandbox

/-!
# Temporary directories

What sandboxes are made with is a parameter.  It is lawful for a notion of which sandboxes there are if the one
that it makes was not there before and has the name that was asked for, and if no other comes or goes when one is made
or removed (`Temporaries.Lawful`).  The file tree of a world is lawful in this sense, for sandboxes below a directory
whose path is made of plain names (`Site.lawful_temporaries`).
-/

namespace Acceptance

variable {κ : Type}

/-- The last name of a path given as text begins as asked for. -/
def Path.LastBegins (beginning path : String) : Prop :=
  ∃ front rest, path = front ++ "/" ++ (beginning ++ rest) ∧ '/' ∉ rest.toList

namespace World

theorem toList_sandboxStem (index : Nat) :
    (sandboxStem index).toList = "gourd-".toList ++ (index.repr.toList ++ ['-']) := by
  simp [sandboxStem, toString]

theorem slash_not_mem_sandboxStem (index : Nat) : '/' ∉ (sandboxStem index).toList := by
  have hindex : '/' ∉ index.repr.toList := not_mem_repr (by decide) index
  rw [toList_sandboxStem]
  simpa [-Nat.toList_repr] using hindex

/-- The beginning of a name tells the position of its scenario. -/
theorem sandboxStem_append_inj {i j : Nat} {rest rest' : String} (h : sandboxStem i ++ rest = sandboxStem j ++ rest') :
    i = j := by
  have hlist : "gourd-".toList ++ (i.repr.toList ++ '-' :: rest.toList) =
      "gourd-".toList ++ (j.repr.toList ++ '-' :: rest'.toList) := by
    have hboth := congrArg String.toList h
    simpa only [String.toList_append, toList_sandboxStem, List.append_assoc, List.singleton_append] using hboth
  have hparts := congrArg (List.splitOn '-') (List.append_cancel_left hlist)
  have hdash (n : Nat) : '-' ∉ n.repr.toList := not_mem_repr (by decide) n
  rw [List.splitOn_append_cons_self_of_not_mem (hdash i), List.splitOn_append_cons_self_of_not_mem (hdash j)] at hparts
  exact FileTree.repr_injective (String.toList_inj.1 (List.cons.inj hparts).1)

end World

theorem Path.LastBegins.index_eq {i j : Nat} {q : String} (hi : LastBegins (World.sandboxStem i) q)
    (hj : LastBegins (World.sandboxStem j) q) : i = j := by
  obtain ⟨front, rest, hq, hrest⟩ := hi
  obtain ⟨front', rest', hq', hrest'⟩ := hj
  have hparts (n : Nat) (front rest : String) (h : '/' ∉ rest.toList) :
      components (front ++ "/" ++ (World.sandboxStem n ++ rest)) =
        components front ++ [World.sandboxStem n ++ rest] := by
    have hne : World.sandboxStem n ++ rest ≠ "" := by simp [World.sandboxStem]
    have hslash : '/' ∉ (World.sandboxStem n ++ rest).toList := by
      simp [World.slash_not_mem_sandboxStem, h]
    rw [components_append_slash, components_of_no_slash hne hslash]
  have hlast : components front ++ [World.sandboxStem i ++ rest] =
      components front' ++ [World.sandboxStem j ++ rest'] := by
    rw [← hparts i front rest hrest, ← hparts j front' rest' hrest', ← hq, ← hq']
  have hname : World.sandboxStem i ++ rest = World.sandboxStem j ++ rest' := by
    simpa using congrArg List.getLast? hlast
  exact World.sandboxStem_append_inj hname

/-- From one world to another the sandbox at a path has come, and no other has come or gone. -/
def Appears (stands : World κ → String → Prop) (path : String) (w v : World κ) : Prop :=
  ¬ stands w path ∧ ∀ q, stands v q ↔ stands w q ∨ q = path

namespace Temporaries

/-- Sandboxes below a root come and go one at a time.  That the sandbox with some path is there is what `stands` says,
and `valid` is what may be assumed of a world. -/
structure Lawful (t : Temporaries κ) (root : Option String) (valid : World κ → Prop)
    (stands : World κ → String → Prop) : Prop where
  make_ok : ∀ index w path v, valid w → t.make (World.sandboxStem index) root w = (.ok path, v) →
    valid v ∧ Path.LastBegins (World.sandboxStem index) path ∧ Appears stands path w v
  make_error : ∀ index w cause v, valid w → t.make (World.sandboxStem index) root w = (.error cause, v) →
    valid v ∧ ∀ q, stands v q ↔ stands w q
  remove : ∀ w path, valid w → stands w path →
    valid (t.remove path w) ∧ ∀ q, stands (t.remove path w) q ↔ stands w q ∧ q ≠ path
  /-- The directories that lead to the root are no sandboxes. -/
  makeRoot : ∀ w text v p, valid w → root = some text → w.makeRoot text = .ok (v, p) →
    valid v ∧ ∀ q, stands v q ↔ stands w q

variable {t : Temporaries κ} {root : Option String} {valid : World κ → Prop} {stands : World κ → String → Prop}
  {index : Nat} {w v : World κ}

/-- A sandbox is made in the world that was found, or in the one with the root made. -/
theorem Lawful.makeSandbox_cases (h : t.Lawful root valid stands) (hw : valid w) (index : Nat) :
    (∃ cause, t.makeSandbox root index w = (.error cause, w)) ∨
      ∃ u, valid u ∧ (∀ q, stands u q ↔ stands w q) ∧
        t.makeSandbox root index w = t.make (World.sandboxStem index) root u := by
  cases root with
  | none => exact .inr ⟨w, hw, fun _ => Iff.rfl, rfl⟩
  | some text =>
    cases hr : w.makeRoot text with
    | error cause =>
      left
      exact ⟨cause, by simp [makeSandbox, hr]⟩
    | ok x =>
      obtain ⟨u, p⟩ := x
      obtain ⟨hu, hstands⟩ := h.makeRoot w text u p hw rfl hr
      right
      exact ⟨u, hu, hstands, by simp [makeSandbox, hr]⟩

theorem Lawful.makeSandbox_ok (h : t.Lawful root valid stands) (hw : valid w) {path : String}
    (hm : t.makeSandbox root index w = (.ok path, v)) :
    valid v ∧ Path.LastBegins (World.sandboxStem index) path ∧ Appears stands path w v := by
  obtain ⟨cause, he⟩ | ⟨u, hu, hstands, he⟩ := h.makeSandbox_cases hw index
  · rw [he] at hm
    cases hm
  · rw [he] at hm
    obtain ⟨hv, hname, hnew, happears⟩ := h.make_ok index u path v hu hm
    refine ⟨hv, hname, ?_, fun q => ?_⟩
    · rwa [← hstands]
    · rw [happears, hstands]

theorem Lawful.makeSandbox_error (h : t.Lawful root valid stands) (hw : valid w) {cause : Fault}
    (hm : t.makeSandbox root index w = (.error cause, v)) : valid v ∧ ∀ q, stands v q ↔ stands w q := by
  obtain ⟨cause', he⟩ | ⟨u, hu, hstands, he⟩ := h.makeSandbox_cases hw index
  · rw [he] at hm
    cases hm
    exact ⟨hw, fun _ => Iff.rfl⟩
  · rw [he] at hm
    obtain ⟨hv, hkept⟩ := h.make_error index u cause v hu hm
    exact ⟨hv, fun q => (hkept q).trans (hstands q)⟩

end Temporaries

/-! ### Temporary directories in the file tree of a world -/

/-- Where sandboxes are made: the directory a program was started in, the one for temporary files, and the root that
is asked for. -/
structure Site where
  directory : Path
  temporary : String
  root : Option String

namespace Site

/-- The directory that sandboxes are made in, as it is given. -/
def text (s : Site) : String := s.root.getD s.temporary

/-- Where the path of that directory begins. -/
def base (s : Site) : Path := if Path.isAbsolute s.text then [] else s.directory

/-- The path of that directory. -/
def path (s : Site) : Path := s.base ++ Path.components s.text

/-- The path of a sandbox as text. -/
def sandbox (s : Site) (name : String) : String := Path.join (Path.join s.directory.text s.text) name

/-- The paths of the site are made of plain names. -/
structure Plain (s : Site) : Prop where
  directory : Path.Plain s.directory
  text : Path.Plain (Path.components s.text)

/-- A world with a file tree that belongs to the site. -/
structure Holds (s : Site) (w : World κ) : Prop where
  directory : w.directory = s.directory
  temporary : w.temporary = s.temporary
  closed : w.files.Closed
  base : w.files.isDirectory s.base = true

/-- There is a directory with a plain name at a path in the site. -/
def Stands (s : Site) (w : World κ) (q : String) : Prop :=
  ∃ name, Path.Plain [name] ∧ q = s.sandbox name ∧ w.files.isDirectory (s.path ++ [name]) = true

variable {s : Site} {w v : World κ} {p : Path} {name name' : String}

theorem isAbsolute_full (s : Site) : Path.isAbsolute (Path.join s.directory.text s.text) = true :=
  Path.isAbsolute_join (Path.isAbsolute_text _) _

theorem components_full (hs : s.Plain) : Path.components (Path.join s.directory.text s.text) = s.path := by
  unfold path base
  cases habsolute : Path.isAbsolute s.text with
  | true => simp [Path.join, habsolute]
  | false =>
    have hne := Path.ne_empty_of_isAbsolute (Path.isAbsolute_text s.directory)
    rw [Path.components_join hne habsolute, Path.components_text hs.directory]
    simp

theorem plain_path (hs : s.Plain) : s.path.Plain := by
  intro c hc
  unfold path base at hc
  rcases List.mem_append.1 hc with hc | hc
  · split at hc
    · cases hc
    · exact hs.directory c hc
  · exact hs.text c hc

theorem isAbsolute_of_plain (h : Path.Plain [name]) : Path.isAbsolute name = false := by
  obtain ⟨-, -, -, hslash, -⟩ := h name List.mem_cons_self
  unfold Path.isAbsolute
  rw [beq_eq_false_iff_ne]
  intro hhead
  exact hslash (List.mem_of_head? hhead)

theorem components_sandbox (hs : s.Plain) (h : Path.Plain [name]) :
    Path.components (s.sandbox name) = s.path ++ [name] := by
  obtain ⟨hne, -, -, hslash, -⟩ := h name List.mem_cons_self
  unfold sandbox
  rw [Path.components_join (Path.ne_empty_of_isAbsolute s.isAbsolute_full) (isAbsolute_of_plain h), components_full hs,
    Path.components_of_no_slash hne hslash]

theorem sandbox_inj (hs : s.Plain) (h : Path.Plain [name]) (h' : Path.Plain [name']) :
    s.sandbox name = s.sandbox name' ↔ name = name' := by
  constructor
  · intro heq
    have hpaths : s.path ++ [name] = s.path ++ [name'] := by
      rw [← components_sandbox hs h, heq, components_sandbox hs h']
    simpa using hpaths
  · rintro rfl
    rfl

theorem stands_sandbox (hs : s.Plain) (h : Path.Plain [name]) :
    s.Stands w (s.sandbox name) ↔ w.files.isDirectory (s.path ++ [name]) = true := by
  constructor
  · rintro ⟨name', h', heq, hdirectory⟩
    rwa [(sandbox_inj hs h h').1 heq]
  · intro hdirectory
    exact ⟨name, h, rfl, hdirectory⟩

/-- A sandbox can be removed by its path. -/
theorem removeTemporary_eq (hs : s.Plain) (hw : s.Holds w) (h : Path.Plain [name])
    (hdirectory : w.files.isDirectory (s.path ++ [name]) = true) :
    w.removeTemporary (s.sandbox name) = { w with files := w.files.removeBelow (s.path ++ [name]) } := by
  have hparts := components_sandbox hs h
  have hplain : Path.Plain (s.path ++ [name]) := by
    intro c hc
    rcases List.mem_append.1 hc with hc | hc
    · exact plain_path hs c hc
    · exact h c hc
  have habsolute : Path.isAbsolute (s.sandbox name) = true := Path.isAbsolute_join s.isAbsolute_full name
  rw [← hparts] at hplain hdirectory
  have hlocate := FileTree.locate_of_isDirectory hw.closed habsolute hplain hdirectory w.directory
  unfold World.removeTemporary
  rw [hlocate, hparts]

/-- Making the directory of a site makes no sandbox. -/
theorem makeRoot_site (hs : s.Plain) (hw : s.Holds w) (hr : w.makeRoot s.text = .ok (v, p)) :
    s.Holds v ∧ p = s.path ∧ v.files.isDirectory s.path = true ∧
      ∀ name, v.files.find? (s.path ++ [name]) = w.files.find? (s.path ++ [name]) := by
  have hrest := World.makeRoot_eq_ok hr
  have hmakes : FileTree.Makes w.files s.base (Path.components s.text) v.files p := by
    unfold World.makeRoot at hr
    split at hr
    · cases hr
    · split at hr
      · rename_i hmade
        cases hr
        apply FileTree.makes_of_makeDirectories
        rwa [base, ← hw.directory]
      · cases hr
  obtain ⟨hclosed, hp⟩ := hmakes.closed hw.closed hw.base
  obtain ⟨rfl, hdeeper⟩ := hmakes.of_plain hs.text
  have hbase : v.files.isDirectory s.base = true :=
    FileTree.isDirectory_iff.2 (hmakes.find?_eq_some (FileTree.isDirectory_iff.1 hw.base))
  refine ⟨⟨?_, ?_, hclosed, hbase⟩, rfl, hp, fun name => hdeeper _ ?_⟩
  · rw [hrest]
    exact hw.directory
  · rw [hrest]
    exact hw.temporary
  · simp [path]

theorem stands_congr (h : ∀ name, v.files.find? (s.path ++ [name]) = w.files.find? (s.path ++ [name])) (q : String) :
    s.Stands v q ↔ s.Stands w q := by
  unfold Stands FileTree.isDirectory
  simp only [h]

/-- A directory put where there was nothing is a sandbox that was not there. -/
theorem appears_put (hs : s.Plain) (hw : s.Holds w) (hpath : w.files.isDirectory s.path = true)
    (hplain : Path.Plain [name]) (hnone : w.files.find? (s.path ++ [name]) = none) :
    s.Holds { w with files := w.files.put (s.path ++ [name]) .directory } ∧
      Appears s.Stands (s.sandbox name) w { w with files := w.files.put (s.path ++ [name]) .directory } := by
  have hparent : w.files.isDirectory (s.path ++ [name]).dropLast = true := by simpa using hpath
  refine ⟨⟨hw.directory, hw.temporary, ?_, ?_⟩, ?_, fun q => ⟨?_, ?_⟩⟩
  · exact hw.closed.put hnone hparent .directory
  · exact FileTree.isDirectory_put hnone hw.base .directory
  · intro hthere
    rw [stands_sandbox hs hplain, FileTree.isDirectory_iff, hnone] at hthere
    cases hthere
  · rintro ⟨name', hplain', rfl, hthere⟩
    by_cases hname : name' = name
    · right
      rw [hname]
    · left
      have hne : s.path ++ [name'] ≠ s.path ++ [name] := by simpa using hname
      rw [FileTree.isDirectory_iff, FileTree.find?_put (by simp), if_neg hne] at hthere
      exact ⟨name', hplain', rfl, FileTree.isDirectory_iff.2 hthere⟩
  · rintro (⟨name', hplain', rfl, hthere⟩ | rfl)
    · exact ⟨name', hplain', rfl, FileTree.isDirectory_put hnone hthere .directory⟩
    · refine ⟨name, hplain, rfl, ?_⟩
      rw [FileTree.isDirectory_iff, FileTree.find?_put (by simp), if_pos rfl]

/-- To remove a sandbox is to make it go, and no other. -/
theorem stands_removeTemporary (hs : s.Plain) (hw : s.Holds w) (hplain : Path.Plain [name])
    (hthere : w.files.isDirectory (s.path ++ [name]) = true) :
    s.Holds (w.removeTemporary (s.sandbox name)) ∧
      ∀ q, s.Stands (w.removeTemporary (s.sandbox name)) q ↔ s.Stands w q ∧ q ≠ s.sandbox name := by
  have hnil : s.path ++ [name] ≠ [] := by simp
  have hsibling (name' : String) : (w.files.removeBelow (s.path ++ [name])).isDirectory (s.path ++ [name']) = true ↔
      w.files.isDirectory (s.path ++ [name']) = true ∧ name' ≠ name := by
    have hbelow : s.path ++ [name] <+: s.path ++ [name'] ↔ name = name' := by
      simp [List.prefix_append_right_inj]
    rw [FileTree.isDirectory_iff, FileTree.isDirectory_iff, FileTree.find?_removeBelow hnil]
    by_cases hname : name = name'
    · rw [if_pos (hbelow.2 hname)]
      simp [hname]
    · rw [if_neg (mt hbelow.1 hname)]
      simp [Ne.symm hname]
  -- the base is not below the sandbox, since it is shorter
  have hbase : ¬ s.path ++ [name] <+: s.base := by
    intro hbelow
    have hlonger : s.base.length < (s.path ++ [name]).length := by
      simp only [path, List.length_append, List.length_singleton]
      omega
    exact absurd hbelow.length_le (Nat.not_le.2 hlonger)
  rw [removeTemporary_eq hs hw hplain hthere]
  refine ⟨⟨hw.directory, hw.temporary, hw.closed.removeBelow hnil, ?_⟩, fun q => ⟨?_, ?_⟩⟩
  · rw [FileTree.isDirectory_iff, FileTree.find?_removeBelow hnil, if_neg hbase]
    exact FileTree.isDirectory_iff.1 hw.base
  · rintro ⟨name', hplain', rfl, hkept⟩
    obtain ⟨hkept, hne⟩ := (hsibling name').1 hkept
    refine ⟨⟨name', hplain', rfl, hkept⟩, ?_⟩
    rwa [Ne, sandbox_inj hs hplain' hplain]
  · rintro ⟨⟨name', hplain', rfl, hkept⟩, hne⟩
    rw [Ne, sandbox_inj hs hplain' hplain] at hne
    exact ⟨name', hplain', rfl, (hsibling name').2 ⟨hkept, hne⟩⟩

/-- The name of a sandbox is plain, unless it is too long. -/
theorem plain_sandboxName (index n : Nat)
    (hsize : (World.sandboxStem index ++ FileTree.suffix n).utf8ByteSize ≤ FileTree.longestName) :
    Path.Plain [World.sandboxStem index ++ FileTree.suffix n] := by
  have hhead : (World.sandboxStem index ++ FileTree.suffix n).toList.head? = some 'g' := by
    rw [String.toList_append, World.toList_sandboxStem]
    rfl
  have hslash : '/' ∉ (World.sandboxStem index ++ FileTree.suffix n).toList := by
    have hsuffix : '/' ∉ (FileTree.suffix n).toList := not_mem_repr (by decide) _
    simp [World.slash_not_mem_sandboxStem, hsuffix]
  intro c hc
  obtain rfl := List.mem_singleton.1 hc
  refine ⟨?_, ?_, ?_, hslash, hsize⟩
  all_goals
    intro heq
    rw [heq] at hhead
    cases hhead

theorem lastBegins_sandbox (s : Site) {index n : Nat}
    (h : Path.Plain [World.sandboxStem index ++ FileTree.suffix n]) :
    Path.LastBegins (World.sandboxStem index) (s.sandbox (World.sandboxStem index ++ FileTree.suffix n)) := by
  obtain ⟨front, -, hjoin⟩ := Path.exists_join _ (Path.ne_empty_of_isAbsolute s.isAbsolute_full)
  refine ⟨front, FileTree.suffix n, hjoin _ (isAbsolute_of_plain h), ?_⟩
  exact not_mem_repr (by decide) _

/-- Where there is a directory for sandboxes, it is that of the site. -/
theorem path_of_locate (hs : s.Plain)
    (h : w.files.locate w.directory (Path.join s.directory.text s.text) = .ok (p, .directory)) :
    p = s.path ∧ w.files.isDirectory s.path = true := by
  have hparts := components_full hs
  have hplain : Path.Plain (Path.components (Path.join s.directory.text s.text)) := by
    rw [hparts]
    exact plain_path hs
  obtain ⟨hp, hfound⟩ := FileTree.eq_components_of_locate s.isAbsolute_full hplain h
  rw [hparts] at hp
  refine ⟨hp, ?_⟩
  rwa [FileTree.isDirectory_iff, ← hp]

/-- A sandbox that is made in the file tree is a new one below the directory of the site, and where none can be made
nothing changes. -/
theorem appears_makeTemporary (hs : s.Plain) (hw : s.Holds w) (index : Nat) :
    (∃ cause, w.makeTemporary (World.sandboxStem index) s.root = (.error cause, w)) ∨
      ∃ path v, w.makeTemporary (World.sandboxStem index) s.root = (.ok path, v) ∧ s.Holds v ∧
        Path.LastBegins (World.sandboxStem index) path ∧ Appears s.Stands path w v := by
  have hfull : w.rootText s.root = Path.join s.directory.text s.text := by
    rw [World.rootText, hw.directory, hw.temporary, text]
  obtain ⟨path, cause, he⟩ | ⟨p, hlocate, hsize, he⟩ := w.makeTemporary_cases (World.sandboxStem index) s.root
  · exact .inl ⟨_, he⟩
  · rw [hfull] at hlocate he
    obtain ⟨rfl, hpath⟩ := path_of_locate hs hlocate
    obtain ⟨n, hname, hnone⟩ := w.files.find?_freshName s.path (World.sandboxStem index)
    rw [hname] at hnone hsize he
    have hplain := plain_sandboxName index n hsize
    obtain ⟨hv, hnew⟩ := appears_put hs hw hpath hplain hnone
    exact .inr ⟨_, _, he, hv, lastBegins_sandbox s hplain, hnew⟩

/-- Sandboxes in the file tree of a world come and go one at a time. -/
theorem lawful_temporaries (hs : s.Plain) :
    (World.temporaries : Temporaries κ).Lawful s.root s.Holds s.Stands where
  make_ok index w path v hw hm := by
    have hm' : w.makeTemporary (World.sandboxStem index) s.root = (.ok path, v) := hm
    obtain ⟨cause, he⟩ | ⟨path', u, he, hrest⟩ := appears_makeTemporary hs hw index
    · rw [he] at hm'
      cases hm'
    · rw [he] at hm'
      cases hm'
      exact hrest
  make_error index w cause v hw hm := by
    have hm' : w.makeTemporary (World.sandboxStem index) s.root = (.error cause, v) := hm
    obtain ⟨cause', he⟩ | ⟨path', u, he, -⟩ := appears_makeTemporary hs hw index
    · rw [he] at hm'
      cases hm'
      exact ⟨hw, fun _ => Iff.rfl⟩
    · rw [he] at hm'
      cases hm'
  remove w path hw := by
    rintro ⟨name, hplain, rfl, hthere⟩
    exact stands_removeTemporary hs hw hplain hthere
  makeRoot w text v p hw hroot hr := by
    have htext : text = s.text := by simp [Site.text, hroot]
    rw [htext] at hr
    obtain ⟨hv, -, -, hkept⟩ := makeRoot_site hs hw hr
    exact ⟨hv, stands_congr hkept⟩

end Site

end Acceptance
