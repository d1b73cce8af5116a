import Acceptance.Fault

/-!
# File trees

A tree of directories, files, programs and devices, kept as a list of entries with their paths. The root is always a
directory. A path given as text is walked component by component, and every component but the last must be a
directory.
-/

namespace Acceptance

/-- The names that lead from the root to an entry. -/
abbrev Path := List String

namespace Path

/-- Whether a path comes before another, or is the same: in front of what stands below it, and otherwise by the first
names that differ. -/
def precedes : Path → Path → Bool
  | [], _ => true
  | _ :: _, [] => false
  | a :: p, b :: q => if a == b then precedes p q else decide (a ≤ b)

/-- The text of a path. -/
def text (p : Path) : String := "/" ++ "/".intercalate p

/-- The components of a path given as text. -/
def components (text : String) : List String :=
  ((text.toList.splitOn '/').map String.ofList).filter (· != "")

/-- Whether a path given as text begins at the root. -/
def isAbsolute (text : String) : Bool := text.toList.head? == some '/'

/-- The text of a path below a directory, both given as text. -/
def join (directory text : String) : String :=
  if isAbsolute text then text
  else if directory.toList.getLast?.all (· == '/') then directory ++ text
  else directory ++ "/" ++ text

/-- Drops parts at the end that lead nowhere, as long as something is left in front of them. -/
def dropIdle (parts : List String) : List String := (go parts.reverse).reverse
where
  /-- The same from the end. -/
  go : List String → List String
    | a :: b :: rest => if a == "" || a == "." then go (b :: rest) else a :: b :: rest
    | parts => parts

/-- The directory that the last component of a path stands in, as text. -/
def parent (text : String) : String :=
  match dropIdle (text.splitOn "/") with
  | [] => "."
  | [_] => "."
  | parts =>
    let front := dropIdle parts.dropLast
    if front == [""] then "/" else "/".intercalate front

end Path

/-- Devices that can be read and written. -/
inductive Device where
  /-- Empty, and takes everything. -/
  | null
  /-- Zeros without end, and takes everything. -/
  | zero
  /-- What a descriptor of the process leads to. -/
  | descriptor (number : Nat)
deriving DecidableEq, Repr

/-- What stands at a path. -/
inductive Entry where
  | directory
  | file (content : List UInt8) (executable : Bool)
  /-- A program of the given name. -/
  | program (name : String)
  | device (device : Device)
deriving DecidableEq, Repr

/-- A list of entries with their paths. -/
structure FileTree where
  entries : List (Path × Entry)

namespace FileTree

/-- The entry at a path. -/
def find? (t : FileTree) (p : Path) : Option Entry :=
  if p = [] then some .directory else t.entries.lookup p

/-- Whether there is a directory at a path. -/
def isDirectory (t : FileTree) (p : Path) : Bool := t.find? p == some .directory

/-- Puts an entry at a path, in the place of the one that is there. -/
def put (t : FileTree) (p : Path) (e : Entry) : FileTree :=
  if t.entries.any (·.1 == p) then ⟨t.entries.map fun q => if q.1 = p then (p, e) else q⟩
  else ⟨t.entries ++ [(p, e)]⟩

/-- Removes the entry at a path. -/
def remove (t : FileTree) (p : Path) : FileTree := ⟨t.entries.filter (·.1 != p)⟩

/-- Removes the entry at a path and all below it. -/
def removeBelow (t : FileTree) (p : Path) : FileTree := ⟨t.entries.filter fun q => !p.isPrefixOf q.1⟩

/-- The names in a directory. -/
def names (t : FileTree) (p : Path) : List String :=
  t.entries.filterMap fun q => if q.1.dropLast = p && !q.1.isEmpty then q.1.getLast? else none

/-- The longest name an entry can have, in bytes. -/
def longestName : Nat := 255

/-- Walks from a directory along components. -/
def walk (t : FileTree) (p : Path) : List String → Except SystemFault Path
  | [] => .ok p
  | c :: rest =>
    match t.find? p with
    | none => .error .noEntry
    | some .directory =>
      if c = "." then walk t p rest
      else if c = ".." then walk t p.dropLast rest
      else if longestName < c.utf8ByteSize then .error .nameTooLong
      else walk t (p ++ [c]) rest
    | some _ => .error .notDirectory

/-- Where a path given as text leads from a directory. The last component need not exist. -/
def resolve (t : FileTree) (directory : Path) (text : String) : Except SystemFault Path :=
  if text = "" then .error .noEntry
  else do
    let p ← walk t (if Path.isAbsolute text then [] else directory) (Path.components text)
    if text.toList.getLast? = some '/' && (t.find? p).any (· != .directory) then .error .notDirectory
    else .ok p

/-- Where a path given as text leads, and the entry there. -/
def locate (t : FileTree) (directory : Path) (text : String) : Except SystemFault (Path × Entry) := do
  let p ← t.resolve directory text
  match t.find? p with
  | some e => .ok (p, e)
  | none => .error .noEntry

/-- Makes the directories along components where they are missing, and gives the last one. -/
def makeDirectories (t : FileTree) (p : Path) : List String → Except SystemFault (FileTree × Path)
  | [] => .ok (t, p)
  | c :: rest =>
    if c = "." then makeDirectories t p rest
    else if c = ".." then makeDirectories t p.dropLast rest
    else if longestName < c.utf8ByteSize then .error .nameTooLong
    else
      match t.find? (p ++ [c]) with
      | some .directory => makeDirectories t (p ++ [c]) rest
      | some _ => .error (if rest = [] then .alreadyThere else .notDirectory)
      | none => makeDirectories (t.put (p ++ [c]) .directory) (p ++ [c]) rest

/-- A number as the last part of a name. -/
def suffix (n : Nat) : String := toString (100000 + n)

/-- A name with the given beginning that is not taken in a directory. -/
def freshName (t : FileTree) (directory : Path) (beginning : String) : String :=
  let candidates := (List.range (t.entries.length + 1)).map fun n => beginning ++ suffix n
  (candidates.find? fun name => (t.find? (directory ++ [name])).isNone).getD beginning

end FileTree

end Acceptance
