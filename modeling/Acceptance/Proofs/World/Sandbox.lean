import Acceptance.Proofs.Text.Quoted
import Acceptance.World.Scratch

/-!
# Sandboxes on one line

What is told of a sandbox is its path, or the fault that kept it from being made.  Both are on one line if temporary
directories see to it (`Temporaries.Keeps`), and those in a file tree do where the path of the root is on one line
(`World.keeps_temporaries`).
-/

namespace Acceptance

variable {κ : Type}

theorem SystemFault.oneLine_message (cause : SystemFault) : OneLine (Fault.system cause).message := by
  cases cause <;> decide +kernel

theorem Path.oneLine_join {directory text : String} (hd : OneLine directory) (ht : OneLine text) :
    OneLine (join directory text) := by
  have hslash : OneLine "/" := by decide
  unfold join
  split
  · exact ht
  · split <;> simp [*]

namespace FileTree

theorem oneLine_suffix (n : Nat) : OneLine (suffix n) := oneLine_repr (100000 + n)

theorem oneLine_freshName (t : FileTree) (directory : Path) {beginning : String} (h : OneLine beginning) :
    OneLine (t.freshName directory beginning) := by
  unfold freshName
  dsimp only
  generalize hf : List.find? _ _ = found
  cases found with
  | none => exact h
  | some name =>
    obtain ⟨n, -, rfl⟩ := List.mem_map.1 (List.mem_of_find?_eq_some hf)
    exact oneLine_append.2 ⟨h, oneLine_suffix n⟩

end FileTree

namespace World

theorem oneLine_sandboxStem (index : Nat) : OneLine (sandboxStem index) := by
  have hfront : OneLine "gourd-" := by decide
  have hback : OneLine "-" := by decide
  exact oneLine_append.2 ⟨oneLine_append.2 ⟨hfront, oneLine_repr index⟩, hback⟩

/-- Only the files change when directories are made. -/
theorem makeRoot_eq_ok {w v : World κ} {text : String} {p : Path} (h : w.makeRoot text = .ok (v, p)) :
    v = { w with files := v.files } := by
  unfold makeRoot at h
  split at h
  · cases h
  · split at h
    · cases h
      rfl
    · cases h

theorem oneLine_of_makeRoot {w : World κ} {text : String} {cause : Fault} (h : w.makeRoot text = .error cause) :
    OneLine cause.message := by
  unfold makeRoot at h
  split at h
  · cases h
    decide
  · split at h
    · cases h
    · cases h
      exact SystemFault.oneLine_message _

end World

/-- Making and removing sandboxes below a root keeps `I`, and as long as `I` holds what is told of a sandbox whose name
begins without a newline is on one line. -/
structure Temporaries.Keeps (I : World κ → Prop) (root : Option String) (t : Temporaries κ) : Prop where
  make : ∀ beginning w, I w → I (t.make beginning root w).2
  remove : ∀ path w, I w → I (t.remove path w)
  path : ∀ beginning w path, OneLine beginning → I w → (t.make beginning root w).1 = .ok path → OneLine path
  fault : ∀ beginning w cause, OneLine beginning → I w → (t.make beginning root w).1 = .error cause →
    OneLine cause.message

/-- A root is made before the first sandbox in it. -/
theorem Temporaries.Keeps.makeSandbox {I : World κ → Prop} {root : Option String} {t : Temporaries κ}
    (h : t.Keeps I root) (hfiles : ∀ w files, I w → I { w with files }) (index : Nat) {w : World κ} (hw : I w) :
    I (t.makeSandbox root index w).2 ∧ (∀ path, (t.makeSandbox root index w).1 = .ok path → OneLine path) ∧
      ∀ cause, (t.makeSandbox root index w).1 = .error cause → OneLine cause.message := by
  have hname := World.oneLine_sandboxStem index
  have hmake {v : World κ} (hv : I v) := And.intro (h.make (World.sandboxStem index) v hv)
    (And.intro (fun path => h.path _ v path hname hv) (fun cause => h.fault _ v cause hname hv))
  unfold Temporaries.makeSandbox
  split
  · exact hmake hw
  · split <;> rename_i hroot
    · refine ⟨hw, ?_, ?_⟩ <;> rintro _ ⟨⟩
      exact World.oneLine_of_makeRoot hroot
    · rename_i v _
      have hv : I v := by
        rw [World.makeRoot_eq_ok hroot]
        exact hfiles w _ hw
      exact hmake hv

namespace World

theorem oneLine_faultAt {path : String} {cause : SystemFault} : OneLine (faultAt path cause).message := by
  have hmiddle : OneLine " at path " := by decide
  exact oneLine_append.2 ⟨oneLine_append.2 ⟨cause.oneLine_message, hmiddle⟩, oneLine_quote path⟩

/-- The directory that sandboxes are made in, as text. -/
def rootText (root : Option String) (w : World κ) : String := Path.join w.directory.text (root.getD w.temporary)

/-- Either nothing is made, and the fault is at some path, or a new name below the root is taken. -/
theorem makeTemporary_cases (beginning : String) (root : Option String) (w : World κ) :
    (∃ path cause, w.makeTemporary beginning root = (.error (faultAt path cause), w)) ∨
      ∃ p, w.files.locate w.directory (w.rootText root) = .ok (p, .directory) ∧
        (w.files.freshName p beginning).utf8ByteSize ≤ FileTree.longestName ∧
        w.makeTemporary beginning root = (.ok (Path.join (w.rootText root) (w.files.freshName p beginning)),
          { w with files := w.files.put (p ++ [w.files.freshName p beginning]) .directory }) := by
  unfold makeTemporary rootText
  dsimp only
  split
  · rename_i p hlocate
    split
    · exact .inl ⟨_, _, rfl⟩
    · exact .inr ⟨p, hlocate, by omega, rfl⟩
  · exact .inl ⟨_, _, rfl⟩
  · exact .inl ⟨_, _, rfl⟩

/-- In a file tree, sandboxes are told of on one line if the path of their root is on one line. -/
theorem keeps_temporaries (root : Option String) :
    (temporaries : Temporaries κ).Keeps (fun w => OneLine (w.rootText root)) root where
  make beginning w hw := by
    show OneLine ((w.makeTemporary beginning root).2.rootText root)
    obtain ⟨path, cause, he⟩ | ⟨p, -, -, he⟩ := w.makeTemporary_cases beginning root <;> rw [he] <;> exact hw
  remove path w hw := by
    show OneLine ((w.removeTemporary path).rootText root)
    unfold removeTemporary
    split <;> exact hw
  path beginning w path hname hw h := by
    have h' : (w.makeTemporary beginning root).1 = .ok path := h
    obtain ⟨path', cause, he⟩ | ⟨p, -, -, he⟩ := w.makeTemporary_cases beginning root <;> rw [he] at h' <;> cases h'
    exact Path.oneLine_join hw (FileTree.oneLine_freshName _ _ hname)
  fault beginning w cause hname hw h := by
    have h' : (w.makeTemporary beginning root).1 = .error cause := h
    obtain ⟨path', cause', he⟩ | ⟨p, -, -, he⟩ := w.makeTemporary_cases beginning root <;> rw [he] at h' <;> cases h'
    exact oneLine_faultAt

end World

end Acceptance
