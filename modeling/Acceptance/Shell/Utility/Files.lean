import Acceptance.Shell.Process

/-!
# Utilities for files and directories

Listing, making, removing, copying and moving entries of the file tree.
-/

namespace Acceptance.Shell.Utility

open Process

/-- Whether a name comes before another, byte by byte. -/
def nameLe (a b : String) : Bool := decide (a ≤ b)

def sorted (names : List String) : List String := names.mergeSort nameLe

/-- A directory and those below it, each before those below it. -/
def directoriesBelow (t : FileTree) (text : String) (p : Path) : List (String × Path) :=
  let below := t.entries.filterMap fun (q, e) =>
    if e == .directory && p.isPrefixOf q && p.length < q.length then some q else none
  let ordered := below.mergeSort Path.precedes
  (text, p) :: ordered.map fun q => (text ++ "/" ++ "/".intercalate (q.drop p.length), q)

def ls : Utility := fun args => do
  let (flags, operands) := options args
  let operands := if operands.isEmpty then ["."] else sorted operands
  let all := flags.contains 'a'
  let hidden := all || flags.contains 'A'
  let mut status := 0
  let mut files := []
  let mut directories := []
  for o in operands do
    match ← locate o with
    | .error cause =>
      complain s!"cannot access {inQuotes o}: {cause.words}"
      status := 2
    | .ok (p, .directory) =>
      if flags.contains 'd' then files := files ++ [o] else directories := directories ++ [(o, p)]
    | .ok _ => files := files ++ [o]
  for f in files do say (f ++ "\n")
  let mut first := files.isEmpty
  let t := (← get).files
  let listed := if flags.contains 'R' then directories.flatMap fun (o, p) => directoriesBelow t o p else directories
  for (o, p) in listed do
    if operands.length > 1 || flags.contains 'R' then
      if !first then say "\n"
      say (o ++ ":\n")
    first := false
    let names := sorted ((← get).files.names p)
    let names := names.filter fun n => hidden || n.toList.head? != some '.'
    let names := if all then "." :: ".." :: names else names
    for n in names do say (n ++ "\n")
  return status

def makeDirectory (text : String) : StateM Process (Option SystemFault) := do
  match ← resolve text with
  | .error cause => return some cause
  | .ok p =>
    let t := (← get).files
    if (t.find? p).isSome then return some .alreadyThere
    if !t.isDirectory p.dropLast then
      return some (if (t.find? p.dropLast).isSome then .notDirectory else .noEntry)
    change (·.put p .directory)
    return none

/-- The part of a path at which the making of directories fails. -/
def failingPart (t : FileTree) (directory : Path) (text : String) : String :=
  let start := if Path.isAbsolute text then [] else directory
  let names := Path.components text
  let fails (n : Nat) : Bool := match t.makeDirectories start (names.take n) with
    | .ok _ => false
    | .error _ => true
  let part := "/".intercalate (names.take (((List.range (names.length + 1)).find? fails).getD names.length))
  if Path.isAbsolute text then "/" ++ part else part

def mkdir : Utility := fun args => do
  let (flags, _) := options args
  let operands := operandsWithout ["-m"] args
  if operands.isEmpty then
    complainOfUse "missing operand"
    return 1
  each operands fun o => do
    if flags.contains 'p' then
      let s ← get
      let start := if Path.isAbsolute o then [] else s.directory
      match s.files.makeDirectories start (Path.components o) with
      | .ok (files, _) =>
        change fun _ => files
        return 0
      | .error cause =>
        let part := failingPart s.files s.directory o
        complain s!"cannot create directory {inQuotes part}: {cause.words}"
        return 1
    else
      match ← makeDirectory o with
      | none => return 0
      | some cause =>
        complain s!"cannot create directory {inQuotes o}: {cause.words}"
        return 1

def rmdir : Utility := fun args => do
  let (_, operands) := options args
  if operands.isEmpty then
    complainOfUse "missing operand"
    return 1
  each operands fun o => do
    match ← locate o with
    | .error cause =>
      complain s!"failed to remove {inQuotes o}: {cause.words}"
      return 1
    | .ok (p, .directory) =>
      if !((← get).files.names p).isEmpty then
        complain s!"failed to remove {inQuotes o}: {SystemFault.notEmpty.words}"
        return 1
      change (·.remove p)
      return 0
    | .ok _ =>
      complain s!"failed to remove {inQuotes o}: {SystemFault.notDirectory.words}"
      return 1

def rm : Utility := fun args => do
  let (flags, operands) := options args
  let force := flags.contains 'f'
  let below := flags.contains 'r' || flags.contains 'R'
  if operands.isEmpty then
    if force then return 0
    complainOfUse "missing operand"
    return 1
  each operands fun o => do
    match ← locate o with
    | .error cause =>
      if force && (cause == .noEntry || cause == .notDirectory) then return 0
      complain s!"cannot remove {inQuotes o}: {cause.words}"
      return 1
    | .ok (p, .directory) =>
      if below then
        if (Path.components o).getLast?.any fun c => c == "." || c == ".." then
          complain s!"refusing to remove '.' or '..' directory: skipping {inQuotes o}"
          return 1
        change (·.removeBelow p)
        return 0
      if flags.contains 'd' && ((← get).files.names p).isEmpty then
        change (·.remove p)
        return 0
      complain s!"cannot remove {inQuotes o}: {SystemFault.isDirectory.words}"
      return 1
    | .ok (p, _) =>
      change (·.remove p)
      if flags.contains 'v' then say s!"removed {inQuotes o}\n"
      return 0

def touch : Utility := fun args => do
  let (flags, operands) := options args
  if operands.isEmpty then
    complainOfUse "missing file operand"
    return 1
  each operands fun o => do
    match ← resolve o with
    | .error cause =>
      complain s!"cannot touch {inQuotes o}: {cause.words}"
      return 1
    | .ok p =>
      if ((← get).files.find? p).isSome || flags.contains 'c' then return 0
      match ← writeFile p [] false with
      | none => return 0
      | some cause =>
        complain s!"cannot touch {inQuotes o}: {cause.words}"
        return 1

/-- The path to copy or move something to: the given one, or one below it if it is a directory. -/
def destination (source target : String) : StateM Process (Except SystemFault Path) := do
  match ← resolve target with
  | .error cause => return .error cause
  | .ok p =>
    if (← get).files.isDirectory p then
      return .ok (p ++ [((Path.components source).getLast?).getD ""])
    return .ok p

/-- The entries at and below a path, moved to another path. -/
def moved (t : FileTree) (source target : Path) : List (Path × Entry) :=
  t.entries.filterMap fun (p, e) => if source.isPrefixOf p then some (target ++ p.drop source.length, e) else none

def transfer (moving : Bool) : Utility := fun args => do
  let (flags, operands) := options args
  let below := moving || flags.any (['r', 'R', 'a'].contains ·)
  let failure (source target : String) (cause : SystemFault) : String :=
    if moving then s!"cannot move {inQuotes source} to {inQuotes target}: {cause.words}"
    else s!"cannot create regular file {inQuotes target}: {cause.words}"
  match operands.reverse with
  | [] =>
    complainOfUse "missing file operand"
    return 1
  | [only] =>
    complainOfUse s!"missing destination file operand after {inQuotes only}"
    return 1
  | target :: sources =>
    if sources.length > 1 then
      match ← locate target with
      | .ok (_, .directory) => pure ()
      | .ok _ =>
        complain s!"target {inQuotes target}: {SystemFault.notDirectory.words}"
        return 1
      | .error cause =>
        complain s!"target {inQuotes target}: {cause.words}"
        return 1
    each sources.reverse fun source => do
      match ← locate source with
      | .error cause =>
        complain s!"cannot stat {inQuotes source}: {cause.words}"
        return 1
      | .ok (p, e) =>
        if e == .directory && !below then
          complain s!"-r not specified; omitting directory {inQuotes source}"
          return 1
        match ← destination source target with
        | .error cause =>
          complain (failure source target cause)
          return 1
        | .ok q =>
          let t := (← get).files
          if p == q then
            complain s!"{inQuotes source} and {inQuotes target} are the same file"
            return 1
          if p.isPrefixOf q then
            complain s!"cannot copy a directory, {inQuotes source}, into itself, {inQuotes q.text}"
            return 1
          if !t.isDirectory q.dropLast then
            complain (failure source target .noEntry)
            return 1
          if e != .directory && t.isDirectory q then
            complain s!"cannot overwrite directory {inQuotes target} with non-directory"
            return 1
          let entries := moved t p q
          if moving then change (·.removeBelow p)
          change fun t => entries.foldl (fun t (r, e) => t.put r e) t
          return 0

def isMode (mode : String) : Bool :=
  mode != "" && (mode.toList.all (fun c => '0' ≤ c && c ≤ '7') ||
    (mode.toList.all (fun c => "ugoa+-=rwxXst,".toList.contains c) &&
      mode.toList.any (fun c => "+-=".toList.contains c)))

/-- Whether the letters or digits of a mode make a file executable; nothing if they say nothing about it. -/
def executableMode? (mode : String) : Option Bool :=
  if mode.toList.all Char.isDigit then some (mode.toList.any fun c => (c.toNat - '0'.toNat) % 2 == 1)
  else if mode.toList.contains 'x' then some (mode.toList.contains '+' || mode.toList.contains '=')
  else none

def chmod : Utility := fun args => do
  match args.filter fun a => !(a.toList.head? == some '-' && a.toList[1]?.any (['R', 'f', 'v'].contains ·)) with
  | mode :: operands =>
    if !isMode mode then
      complainOfUse s!"invalid mode: {inQuotes mode}"
      return 1
    each operands fun o => do
      match ← locate o with
      | .error cause =>
        complain s!"cannot access {inQuotes o}: {cause.words}"
        return 1
      | .ok (p, .file content executable) =>
        change (·.put p (.file content ((executableMode? mode).getD executable)))
        return 0
      | .ok _ => return 0
  | [] =>
    complainOfUse "missing operand"
    return 1

/-- The last component of a path, without an ending. -/
def basename : Utility := fun args => do
  match args with
  | [] =>
    complainOfUse "missing operand"
    return 1
  | text :: endings =>
    let last := ((Path.components text).getLast?).getD (if text == "" then "" else "/")
    let trimmed := match endings with
      | ending :: _ =>
        if ending.toList.isSuffixOf last.toList && ending != last then
          String.ofList (last.toList.take (last.length - ending.length))
        else last
      | [] => last
    say (trimmed ++ "\n")
    return 0

def dirname : Utility := fun args =>
  each args fun text => do
    let front := (Path.components text).dropLast
    let start := if Path.isAbsolute text then "/" else if front.isEmpty then "." else ""
    say (start ++ "/".intercalate front ++ "\n")
    return 0

end Acceptance.Shell.Utility
