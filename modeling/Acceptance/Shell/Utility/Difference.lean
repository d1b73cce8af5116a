import Acceptance.Shell.Utility.Text

/-!
# Differences

The difference of two files is a list of hunks, each a run of lines that is left out and a run of lines that comes in
its place. The lines between hunks form a longest common subsequence.
-/

namespace Acceptance.Shell.Utility

open Process

/-- A step from one list to another. -/
inductive Step where
  | keep
  | drop
  | add
deriving DecidableEq

/-- A run of lines that is replaced by another, and how many lines stand before each. -/
structure Hunk where
  before : Nat × Nat
  dropped : List (List UInt8)
  added : List (List UInt8)

namespace Hunk

/-- The lengths of the longest common subsequences of a list that begins with `a` and the ends of the other list, from
those of the list without `a`. -/
def lengths (a : List UInt8) : List (List UInt8) → List Nat → List Nat
  | b :: bs, below :: diagonal :: more =>
    match lengths a bs (diagonal :: more) with
    | [] => [0]
    | right :: rest => (if a == b then diagonal + 1 else max below right) :: right :: rest
  | _, _ => [0]

/-- For each end of the first list, the lengths for all ends of the second. -/
def table (ys : List (List UInt8)) : List (List UInt8) → List (List Nat)
  | [] => [List.replicate (ys.length + 1) 0]
  | x :: xs =>
    match table ys xs with
    | [] => []
    | row :: rows => lengths x ys row :: row :: rows

/-- The steps from one list to the other along a longest common subsequence; lines are dropped before others are
added. -/
def steps : Nat → List (List UInt8) → List (List UInt8) → List (List Nat) → List Step
  | 0, _, _, _ => []
  | _, [], ys, _ => ys.map fun _ => .add
  | _, xs, [], _ => xs.map fun _ => .drop
  | fuel + 1, x :: xs, y :: ys, rows =>
    let here := (rows.head?.bind List.head?).getD 0
    let below := ((rows.drop 1).head?.bind List.head?).getD 0
    if x == y then .keep :: steps fuel xs ys ((rows.drop 1).map (List.drop 1))
    else if below == here then .drop :: steps fuel xs (y :: ys) (rows.drop 1)
    else .add :: steps fuel (x :: xs) ys (rows.map (List.drop 1))

def gather (current : Option Hunk) (place : Nat × Nat) :
    List Step → List (List UInt8) → List (List UInt8) → List Hunk
  | .keep :: more, _ :: xs, _ :: ys => current.toList ++ gather none (place.1 + 1, place.2 + 1) more xs ys
  | .drop :: more, x :: xs, ys =>
    let h := current.getD ⟨place, [], []⟩
    gather (some { h with dropped := h.dropped ++ [x] }) (place.1 + 1, place.2) more xs ys
  | .add :: more, xs, y :: ys =>
    let h := current.getD ⟨place, [], []⟩
    gather (some { h with added := h.added ++ [y] }) (place.1, place.2 + 1) more xs ys
  | _, _, _ => current.toList

def between (xs ys : List (List UInt8)) : List Hunk :=
  gather none (0, 0) (steps (xs.length + ys.length + 1) xs ys (table ys xs)) xs ys

def span (before count : Nat) : String :=
  if count == 0 then toString before
  else if count == 1 then toString (before + 1)
  else s!"{before + 1},{before + count}"

/-- A line after a mark. A last line without an end is pointed out. -/
def marked (mark : String) (line : List UInt8) : List UInt8 :=
  encode mark ++ line ++ (if line.getLast? == some 10 then [] else encode "\n\\ No newline at end of file\n")

def text (h : Hunk) : List UInt8 :=
  let letter := if h.dropped.isEmpty then "a" else if h.added.isEmpty then "d" else "c"
  encode (span h.before.1 h.dropped.length ++ letter ++ span h.before.2 h.added.length ++ "\n") ++
    h.dropped.flatMap (marked "< ") ++
    (if letter == "c" then encode "---\n" else []) ++
    h.added.flatMap (marked "> ")

end Hunk

def diff : Utility := fun args => do
  let (flags, operands) := options args
  let misused (text : String) : StateM Process Nat := do
    complain text
    let name := (← get).name
    complain ("Try " ++ inQuotes (name ++ " --help") ++ " for more information.")
    return 2
  match operands with
  | [a, b] =>
    match ← read a, ← read b with
    | .ok x, .ok y =>
      if x == y then return 0
      if flags.contains 'q' then say s!"Files {a} and {b} differ\n"
      else for h in Hunk.between (endedLines x) (endedLines y) do put h.text
      return 1
    | .error cause, second =>
      complain (plainMessage a cause)
      match second with
      | .error cause => complain (plainMessage b cause)
      | .ok _ => pure ()
      return 2
    | _, .error cause =>
      complain (plainMessage b cause)
      return 2
  | [a] => misused ("missing operand after " ++ inQuotes a)
  | [] => misused ("missing operand after " ++ inQuotes (← get).name)
  | _ :: _ :: c :: _ => misused ("extra operand " ++ inQuotes c)

end Acceptance.Shell.Utility
