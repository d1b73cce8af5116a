import Acceptance.Shell.Glob
import Acceptance.Shell.Utility.Files

/-!
# Walking through directories

A walk visits the entries below a directory, each directory before what stands in it, and does something with those
that pass all tests.
-/

namespace Acceptance.Shell.Utility

open Process

/-- A test of an entry that is visited, or what is to be done with it. -/
inductive Visit where
  | named (pattern : String)
  | inPath (pattern : String)
  | ofKind (directory : Bool)
  | empty
  | notThis (v : Visit)
  | print
  | remove

/-- How far a walk goes, and what it does. -/
structure Walk where
  least : Nat
  most : Option Nat
  visits : List Visit

namespace Walk

def visit : List String → Except String (Visit × List String)
  | "-name" :: pattern :: args => .ok (.named pattern, args)
  | "-path" :: pattern :: args => .ok (.inPath pattern, args)
  | "-type" :: "f" :: args => .ok (.ofKind false, args)
  | "-type" :: "d" :: args => .ok (.ofKind true, args)
  | "-empty" :: args => .ok (.empty, args)
  | "-print" :: args => .ok (.print, args)
  | "-delete" :: args => .ok (.remove, args)
  | arg :: args =>
    if ["-name", "-path", "-type", "-maxdepth", "-mindepth"].contains arg then
      match args with
      | [] => .error s!"missing argument to `{arg}'"
      | value :: _ => .error s!"Unknown argument to {arg}: {value}"
    else .error s!"unknown predicate `{arg}'"
  | [] => .error "expected an expression after '!'"

def ofArguments : Nat → List String → Walk → Except String Walk
  | 0, _, w => .ok w
  | _, [], w => .ok w
  | fuel + 1, args, w =>
    match args with
    | "-maxdepth" :: n :: rest => ofArguments fuel rest { w with most := n.toNat? }
    | "-mindepth" :: n :: rest => ofArguments fuel rest { w with least := n.toNat?.getD 0 }
    | "!" :: rest => do
      let (v, rest) ← visit rest
      ofArguments fuel rest { w with visits := w.visits ++ [.notThis v] }
    | "-not" :: rest => do
      let (v, rest) ← visit rest
      ofArguments fuel rest { w with visits := w.visits ++ [.notThis v] }
    | _ => do
      let (v, rest) ← visit args
      ofArguments fuel rest { w with visits := w.visits ++ [v] }

/-- The pattern of a text in which nothing is quoted. -/
def pattern (text : String) : List PatternChar := text.toList.map fun c => ⟨c, false⟩

/-- Whether an entry passes a test. An action is passed when it is done. -/
def passes (t : FileTree) (text : String) (p : Path) (e : Entry) : Visit → Bool
  | .named n =>
    let name := ((Path.components text).getLast?).getD text
    Glob.accepts (pattern n) name
  | .inPath n => Glob.accepts (pattern n) text
  | .ofKind directory => (e == .directory) == directory
  | .empty => match e with
    | .directory => (t.names p).isEmpty
    | .file content _ => content.isEmpty
    | _ => false
  | .notThis v => !passes t text p e v
  | .print => true
  | .remove => true

/-- Whether a walk does something else than to show what it finds. -/
def acts (w : Walk) : Bool := w.visits.any fun v => match v with
  | .print => true
  | .remove => true
  | _ => false

def reach (w : Walk) (text : String) (p : Path) (e : Entry) : StateM Process Unit := do
  let rec go : List Visit → StateM Process Unit
    | [] => if w.acts then pure () else say (text ++ "\n")
    | v :: vs => do
      if passes (← get).files text p e v then
        match v with
        | .print => say (text ++ "\n")
        | .remove => change (·.removeBelow p)
        | _ => pure ()
        go vs
  go w.visits

/-- The entries that a walk from a directory visits, with how deep they are. -/
def visited (t : FileTree) (text : String) (p : Path) (e : Entry) : List (Nat × String × Path × Entry) :=
  let below := t.entries.filter fun q => p.isPrefixOf q.1 && p.length < q.1.length
  let ordered := below.mergeSort fun a b => Path.precedes a.1 b.1
  (0, text, p, e) :: ordered.map fun q =>
    (q.1.length - p.length, Path.join text ("/".intercalate (q.1.drop p.length)), q.1, q.2)

/-- Whether a walk that removes goes from the end. -/
def isBackwards (w : Walk) : Bool := w.visits.any fun v => match v with
  | .remove => true
  | _ => false

end Walk

def find : Utility := fun args => do
  let isExpression (a : String) : Bool := a == "!" || a == "(" || (a.toList.head? == some '-' && a.length > 1)
  let roots := args.takeWhile (!isExpression ·)
  match Walk.ofArguments (args.length + 1) (args.drop roots.length) ⟨0, none, []⟩ with
  | .error message =>
    complain message
    return 1
  | .ok w =>
    each (if roots.isEmpty then ["."] else roots) fun root => do
      match ← locate root with
      | .error cause =>
        complain s!"{inQuotes root}: {cause.words}"
        return 1
      | .ok (p, e) =>
        let found := (Walk.visited (← get).files root p e).filter fun (depth, _) =>
          w.least ≤ depth && w.most.all (depth ≤ ·)
        for (_, text, p, e) in if w.isBackwards then found.reverse else found do w.reach text p e
        return 0

end Acceptance.Shell.Utility
