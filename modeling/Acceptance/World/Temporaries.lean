import Acceptance.World.Basic

/-!
# Temporary directories

What sandboxes are made with is a parameter: a way to make a directory that was not there before, and a way to remove
one. A root that is asked for is made first, with the directories that lead to it.
-/

namespace Acceptance

/-- How temporary directories are made and removed. -/
structure Temporaries (κ : Type) where
  /-- Makes a directory whose name begins as asked for, below the given one or else below that for temporary files,
  and gives its path. -/
  make : String → Option String → World κ → Except Fault String × World κ
  /-- Removes the directory at a path. -/
  remove : String → World κ → World κ

variable {κ : Type}

/-- The beginning of the name of the sandbox of a scenario. -/
def World.sandboxStem (index : Nat) : String := s!"gourd-{index}-"

/-- Makes the sandbox of a scenario, and before that its root if one is asked for. -/
def Temporaries.makeSandbox (t : Temporaries κ) (root : Option String) (index : Nat) (w : World κ) :
    Except Fault String × World κ :=
  match root with
  | none => t.make (World.sandboxStem index) none w
  | some text =>
    match w.makeRoot text with
    | .error cause => (.error cause, w)
    | .ok (v, _) => t.make (World.sandboxStem index) (some text) v

end Acceptance
