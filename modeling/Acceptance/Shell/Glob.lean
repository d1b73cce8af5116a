import Acceptance.World.FileTree

/-!
# Patterns for names

Patterns made of `*`, `?` and classes in brackets, as they occur in the branches of a choice, in the trimming of
parameters and in names of files. A quoted character always stands for itself.
-/

namespace Acceptance.Shell

/-- A character, and whether it is quoted. -/
structure PatternChar where
  char : Char
  quoted : Bool
deriving DecidableEq

namespace Glob

def isActive (p : PatternChar) : Bool := !p.quoted && ['*', '?', '['].contains p.char

/-- The members of a class up to its closing bracket, and what follows it. -/
def classMembers (first : Bool) : List PatternChar → Option (List PatternChar × List PatternChar)
  | [] => none
  | p :: ps =>
    if p.char == ']' && !p.quoted && !first then some ([], ps)
    else (classMembers false ps).map fun (members, rest) => (p :: members, rest)

def classHolds (c : Char) : List PatternChar → Bool
  | a :: ⟨'-', false⟩ :: b :: rest => (a.char ≤ c && c ≤ b.char) || classHolds c rest
  | a :: rest => a.char == c || classHolds c rest
  | [] => false

/-- Reads a class after its opening bracket, and what follows it. -/
def bracket? (ps : List PatternChar) : Option ((Char → Bool) × List PatternChar) :=
  let negated := ps.head?.any fun p => !p.quoted && (p.char == '!' || p.char == '^')
  (classMembers true (if negated then ps.drop 1 else ps)).map fun (members, rest) =>
    (fun c => classHolds c members != negated, rest)

def matchesText (fuel : Nat) (ps : List PatternChar) (cs : List Char) : Bool :=
  match fuel, ps, cs with
  | 0, _, _ => false
  | _, [], cs => cs.isEmpty
  | fuel + 1, p :: ps, cs =>
    if !isActive p then
      match cs with
      | c :: cs => p.char == c && matchesText fuel ps cs
      | [] => false
    else if p.char == '*' then
      matchesText fuel ps cs || (match cs with
        | _ :: cs => matchesText fuel (p :: ps) cs
        | [] => false)
    else match cs with
      | [] => false
      | c :: cs =>
        if p.char == '?' then matchesText fuel ps cs
        else match bracket? ps with
          | some (holds, rest) => holds c && matchesText fuel rest cs
          | none => c == '[' && matchesText fuel ps cs

def accepts (ps : List PatternChar) (text : String) : Bool :=
  matchesText (ps.length + text.length + 1) ps text.toList

def text (ps : List PatternChar) : String := String.ofList (ps.map (·.char))

def parts : List PatternChar → List (List PatternChar)
  | [] => [[]]
  | p :: ps =>
    if p.char == '/' then [] :: parts ps
    else match parts ps with
      | [] => [[p]]
      | q :: qs => (p :: q) :: qs

/-- Continues the paths found so far by one part of a pattern. -/
def extend (t : FileTree) (directory : Path) (part : List PatternChar) (last : Bool) (found : List String) :
    List String :=
  found.flatMap fun front =>
    let here := (t.resolve directory (if front == "" then "." else front)).toOption
    let name := text part
    if part.any isActive then
      let names := here.elim [] fun p => if t.isDirectory p then "." :: ".." :: t.names p else []
      let names := names.filter fun n => (n.toList.head? != some '.' || name.toList.head? == some '.') && accepts part n
      (names.mergeSort fun a b => decide (a ≤ b)).map fun n => front ++ n ++ (if last then "" else "/")
    else
      let path := front ++ name ++ (if last then "" else "/")
      if path == "" || path == "/" || (t.locate directory path).toOption.isSome then [path] else []

def expandParts (t : FileTree) (directory : Path) : List (List PatternChar) → List String → List String
  | [], found => found
  | part :: more, found => expandParts t directory more (extend t directory part more.isEmpty found)

def paths (t : FileTree) (directory : Path) (ps : List PatternChar) : List String :=
  expandParts t directory (parts ps) [""]

end Glob

end Acceptance.Shell
