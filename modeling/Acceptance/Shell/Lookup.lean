import Acceptance.Shell.State

/-!
# Finding programs

A name with a slash leads to a file; any other name is looked for in the directories of the search path, where the
first file that can be run wins. A file that is no program names the program that interprets it in its first line.
-/

namespace Acceptance.Shell

namespace Exec

/-- What is found when a program is looked for. -/
inductive Found where
  | entry (path : Path) (entry : Entry)
  | missing
  | forbidden

def isRunnable : Entry → Bool
  | .program _ => true
  | .file _ executable => executable
  | _ => false

/-- Looks for a program: along the search path, or where a name with a slash leads. -/
def findProgram (t : FileTree) (directory : Path) (searchPath name : String) : Found :=
  let look (text : String) : Option (Path × Entry) := (t.locate directory text).toOption
  if name.toList.contains '/' then
    match look name with
    | none => .missing
    | some (p, e) => if isRunnable e then .entry p e else .forbidden
  else
    let places := (searchPath.splitOn ":").filterMap fun d => look (Path.join (if d == "" then "." else d) name)
    match places.find? fun (_, e) => isRunnable e with
    | some (p, e) => .entry p e
    | none => if places.isEmpty then .missing else .forbidden

def defaultSearchPath : String := "/usr/local/sbin:/usr/local/bin:/usr/sbin:/usr/bin:/sbin:/bin"

/-- The interpreter named in the first line of a file, and its argument. -/
def interpreter? (content : List UInt8) : Option (String × List String) :=
  match content with
  | 35 :: 33 :: rest =>
    let line := (decode (rest.takeWhile (· != 10))).toList.dropWhile fun c => c == ' ' || c == '\t'
    let name := line.takeWhile fun c => c != ' ' && c != '\t'
    let argument := (line.dropWhile fun c => c != ' ' && c != '\t').dropWhile fun c => c == ' ' || c == '\t'
    let argument := (argument.reverse.dropWhile fun c => c == ' ' || c == '\t').reverse
    if name.isEmpty then none
    else some (String.ofList name, if argument.isEmpty then [] else [String.ofList argument])
  | _ => none

/-- Looks for a program along the search path of the shell. -/
def lookFor (name : String) : Exec Found := do
  let s ← get
  return findProgram s.files s.own.directory ((← valueOf? "PATH").getD "") name

def whereabouts (names : List String) : Exec Nat := do
  let mut status := if names.isEmpty then 1 else 0
  for n in names do
    match ← lookFor n with
    | .entry p _ => write 1 (encode ((if n.toList.contains '/' then n else p.text) ++ "\n"))
    | _ => status := 1
  return status

end Exec

end Acceptance.Shell
