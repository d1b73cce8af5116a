import Acceptance.World.FileTree
import Acceptance.Text.Lossy

/-!
# Processes

What a utility works on: its surroundings, the input left to be read, and what it has written so far, to standard
output or to standard error, in order.
-/

namespace Acceptance.Shell

/-- The two ways out of a process. -/
inductive Outlet where
  | output
  | error
deriving DecidableEq, Repr

/-- The state of a running utility. -/
structure Process where
  /-- The name it goes by in its messages. -/
  name : String
  files : FileTree
  directory : Path
  environment : List (String × String)
  input : List UInt8
  /-- The size of the file that is the input, if it is one. -/
  inputSize : Option Nat
  written : List (Outlet × List UInt8)

/-- A utility takes its arguments and gives its exit status. -/
abbrev Utility := List String → StateM Process Nat

namespace Process

def put (bytes : List UInt8) : StateM Process Unit :=
  modify fun p => { p with written := p.written ++ [(.output, bytes)] }

def say (text : String) : StateM Process Unit := put (encode text)

/-- Writes a line to standard error, after the utility's name. -/
def complain (text : String) : StateM Process Unit :=
  modify fun p => { p with written := p.written ++ [(.error, encode (p.name ++ ": " ++ text ++ "\n"))] }

/-- Writes a line to standard error about arguments that cannot be used, and where to read more. -/
def complainOfUse (text : String) : StateM Process Unit := do
  let name := (← get).name
  complain (text ++ "\nTry '" ++ name ++ " --help' for more information.")

def takeInput : StateM Process (List UInt8) := modifyGet fun p => (p.input, { p with input := [] })

def locate (text : String) : StateM Process (Except SystemFault (Path × Entry)) := do
  let p ← get
  return p.files.locate p.directory text

def resolve (text : String) : StateM Process (Except SystemFault Path) := do
  let p ← get
  return p.files.resolve p.directory text

def change (f : FileTree → FileTree) : StateM Process Unit := modify fun p => { p with files := f p.files }

def inQuotes (text : String) : String := "'" ++ text ++ "'"

/-- How many zeros an endless supply gives to a reader that wants everything. -/
def plenty : Nat := 1048576

/-- The bytes of the file at a path; `-` is the input. -/
def read (text : String) : StateM Process (Except SystemFault (List UInt8)) := do
  if text == "-" then return .ok (← takeInput)
  match ← locate text with
  | .error cause => return .error cause
  | .ok (_, .directory) => return .error .isDirectory
  | .ok (_, .file content _) => return .ok content
  | .ok (_, .program name) => return .ok (encode name)
  | .ok (_, .device .null) => return .ok []
  | .ok (_, .device .zero) => return .ok (List.replicate plenty 0)
  | .ok (_, .device (.descriptor 0)) => return .ok (← takeInput)
  | .ok (_, .device (.descriptor _)) => return .ok []

/-- Puts a file where there is none or where there is one. -/
def writeFile (p : Path) (content : List UInt8) (executable : Bool) : StateM Process (Option SystemFault) := do
  let t := (← get).files
  match t.find? p with
  | some .directory => return some .isDirectory
  | some (.device (.descriptor n)) =>
    modify fun p => { p with written := p.written ++ [(if n == 2 then .error else .output, content)] }
    return none
  | some (.device _) => return none
  | some _ =>
    change (·.put p (.file content executable))
    return none
  | none =>
    if !t.isDirectory p.dropLast then return some .noEntry
    change (·.put p (.file content executable))
    return none

/-- Runs an action for each of several items, and gives the greatest status. -/
def each (items : List α) (f : α → StateM Process Nat) : StateM Process Nat :=
  items.foldlM (fun status a => do return max status (← f a)) 0

/-- The flags and operands of an argument list: flags are single letters after a hyphen, and `--` ends them. -/
def options : List String → List Char × List String
  | [] => ([], [])
  | "--" :: args => ([], args)
  | arg :: args =>
    let (flags, operands) := options args
    match arg.toList with
    | '-' :: c :: cs => (c :: cs ++ flags, operands)
    | _ => (flags, arg :: operands)

/-- The value of a flag that takes one, next to it or after it. -/
def flagValue? (flag : String) : List String → Option String
  | [] => none
  | arg :: args =>
    if arg == flag then args.head?
    else if flag.toList.isPrefixOf arg.toList then some (String.ofList (arg.toList.drop flag.length))
    else flagValue? flag args

def flagValues (flag : String) : List String → List String
  | [] => []
  | [arg] =>
    if arg != flag && flag.toList.isPrefixOf arg.toList then [String.ofList (arg.toList.drop flag.length)] else []
  | arg :: value :: args =>
    if arg == flag then value :: flagValues flag args
    else if flag.toList.isPrefixOf arg.toList then
      String.ofList (arg.toList.drop flag.length) :: flagValues flag (value :: args)
    else flagValues flag (value :: args)

def operandsWithout (flags : List String) : List String → List String
  | [] => []
  | [arg] => if arg.toList.head? == some '-' && arg.length > 1 then [] else [arg]
  | arg :: value :: args =>
    if flags.contains arg then operandsWithout flags args
    else if arg.toList.head? == some '-' && arg.length > 1 then operandsWithout flags (value :: args)
    else arg :: operandsWithout flags (value :: args)

end Process

def bytesLines (bytes : List UInt8) : List (List UInt8) :=
  let (line, lines) := bytes.foldr (fun b (line, lines) =>
    if b == 10 then ([], line :: lines) else (b :: line, lines)) ([], [])
  -- what follows the last newline is a line only if it is not empty
  match (line :: lines).reverse with
  | [] :: front => front.reverse
  | all => all.reverse

def unlines (lines : List (List UInt8)) : List UInt8 := lines.flatMap (· ++ [10])

end Acceptance.Shell
