import Acceptance.Shell.Glyph
import Acceptance.Shell.Lookup

/-!
# Parameters and variables

What the parameters of a shell stand for, how variables get their marks and values, and how a line that is read is
divided among them. Options are set by letters or names; a shell that has just been started has none.
-/

namespace Acceptance.Shell

namespace Exec

def special? (name : String) : Exec (Option (Option String)) := do
  let o ← own
  match name with
  | "?" => return some (some (toString o.status))
  | "$" => return some (some (toString o.process))
  | "#" => return some (some (toString o.arguments.length))
  | "-" => return some (some (String.ofList o.options))
  | "!" => return some (if o.lastBackground == 0 then none else some (toString o.lastBackground))
  | "0" => return some (some o.name)
  | _ => match name.toNat? with
    | some n => return some (o.arguments[n - 1]?)
    | none => return none

def parameter? (name : String) : Exec (Option String) := do
  match ← special? name with
  | some value => return value
  | none => valueOf? name

def separators : Exec String := return (← valueOf? "IFS").getD Glyph.defaultSeparators

def isName (text : String) : Bool :=
  text.toList.head?.any Read.isNameStart && text.toList.all Read.isNameChar

def binding (text : String) : String × Option String :=
  match text.toList.dropWhile (· != '=') with
  | _ :: value => (String.ofList (text.toList.takeWhile (· != '=')), some (String.ofList value))
  | [] => (text, none)

/-- Marks variables, and gives them values where there are any. -/
def mark (f : Variable → Variable) (args : List String) : Exec Nat := do
  for arg in args do
    let (name, value) := binding arg
    if !isName name then failWith s!"{name}: bad variable name"
    match value with
    | some v => assign name v
    | none => pure ()
    change fun o =>
      match o.bindings.lookup name with
      | some v => { o with bindings := setEntry name (f v) o.bindings }
      | none => { o with bindings := setEntry name (f ⟨"", false, false⟩) o.bindings }
  return 0

/-- A text in single quotes, as a shell would read it. -/
def quotedValue (text : String) : String :=
  "'" ++ String.join (text.toList.map fun c => if c == '\'' then "'\"'\"'" else String.singleton c) ++ "'"

def byName (pairs : List (String × α)) : List (String × α) := pairs.mergeSort fun a b => decide (a.1 ≤ b.1)

def changeDirectory (text : String) (announce : Bool) : Exec Nat := do
  let s ← get
  match s.files.locate s.own.directory (if text == "" then "." else text) with
  | .ok (p, .directory) =>
    let old := s.own.directory.text
    change fun o => { o with directory := p }
    assign "OLDPWD" old
    assign "PWD" p.text
    if announce then write 1 (encode (p.text ++ "\n"))
    return 0
  | _ =>
    complain s!"cd: can't cd to {text}"
    return 2

/-- Reads a line from the input, a byte at a time; a backslash hides what follows it unless `raw` holds. Gives the
characters, each with whether it was hidden, and whether the line ended. -/
def lineOf (raw : Bool) : List Char → List (Char × Bool) × List Char × Bool
  | [] => ([], [], false)
  | '\n' :: rest => ([], rest, true)
  | '\\' :: c :: rest =>
    if raw then
      let (line, rest, ended) := lineOf raw (c :: rest)
      (('\\', false) :: line, rest, ended)
    else
      let (line, rest, ended) := lineOf raw rest
      (if c == '\n' then line else (c, true) :: line, rest, ended)
  | c :: rest =>
    let (line, rest, ended) := lineOf raw rest
    ((c, false) :: line, rest, ended)

/-- Divides a line among names: each gets a field, the last one all that is left. -/
def divide (separators : List Char) : List String → List (Char × Bool) → List (String × String)
  | [], _ => []
  | [name], line =>
    let blank (p : Char × Bool) := !p.2 && separators.contains p.1 && p.1.isWhitespace
    let body := ((line.dropWhile blank).reverse.dropWhile blank).reverse
    [(name, String.ofList (body.map (·.1)))]
  | name :: names, line =>
    let splits (p : Char × Bool) := !p.2 && separators.contains p.1
    let blank (p : Char × Bool) := splits p && p.1.isWhitespace
    let line := line.dropWhile blank
    let rest := (line.dropWhile (!splits ·)).dropWhile blank
    let rest := match rest with
      | p :: more => if splits p then more.dropWhile blank else rest
      | [] => []
    (name, String.ofList ((line.takeWhile (!splits ·)).map (·.1))) :: divide separators names rest

def readLine (args : List String) : Exec Nat := do
  let raw := args.contains "-r"
  let names := args.filter fun a => a.toList.head? != some '-'
  let input ← channel? 0
  let available := input.elim [] fun (_, c) => c.available
  -- bytes are kept apart by reading each as the character of its number
  let (line, rest, ended) := lineOf raw (available.map fun b => Char.ofNat b.toNat)
  match input with
  | some (n, .source _ size) =>
    let left := rest.map fun c => UInt8.ofNat c.toNat
    modify fun s => { s with channels := s.channels.setIfInBounds n (.source left size) }
  | _ => pure ()
  for (name, value) in divide (← separators).toList (if names.isEmpty then ["REPLY"] else names) line do
    assign name (decode (value.toList.map fun c => UInt8.ofNat c.toNat))
  return if ended then 0 else 1

/-- The options of a shell by their letters and names. -/
def optionNames : List (Char × String) :=
  [('e', "errexit"), ('f', "noglob"), ('I', "ignoreeof"), ('i', "interactive"), ('m', "monitor"), ('n', "noexec"),
   ('s', "stdin"), ('x', "xtrace"), ('v', "verbose"), ('V', "vi"), ('E', "emacs"), ('C', "noclobber"),
   ('a', "allexport"), ('b', "notify"), ('u', "nounset")]

def setOption (value : Bool) (letter : Char) : Exec Unit := do
  if !optionNames.any (·.1 == letter) then failWith ("set: Illegal option -" ++ String.singleton letter)
  change fun o =>
    let others := o.options.filter (· != letter)
    { o with options := if value then letter :: others else others }

/-- Sets and clears the options of an argument; gives whether it is one. -/
def setLetters (arg : String) : Exec Bool := do
  match arg.toList with
  | sign :: c :: cs =>
    if sign != '-' && sign != '+' then return false
    for letter in c :: cs do setOption (sign == '-') letter
    return true
  | _ => return false

def setNamed (arg name : String) : Exec Unit := do
  match optionNames.find? (·.2 == name) with
  | some (letter, _) => setOption (arg == "-o") letter
  | none => failWith ("set: Illegal option " ++ arg ++ " " ++ name)

/-- Sets and clears options; gives the arguments left, if they are to be set. -/
def setOptions : List String → Exec (Option (List String))
  | [] => return none
  | [arg] => do
    if arg == "--" then return some []
    if ← setLetters arg then return none
    return some [arg]
  | arg :: next :: more => do
    if arg == "--" then return some (next :: more)
    if arg == "-o" || arg == "+o" then
      setNamed arg next
      setOptions more
    else if ← setLetters arg then setOptions (next :: more)
    else return some (arg :: next :: more)

/-- A shell that has just been started with the given bindings. -/
def freshOwn (o : Own) (process : Nat) (environment : List (String × String)) (name : String)
    (arguments : List String) : Own :=
  let inherited := environment.filterMap fun (n, value) =>
    if isName n then some (n, Variable.mk value true false) else none
  let preset := [("IFS", ⟨Glyph.defaultSeparators, false, false⟩), ("PATH", ⟨defaultSearchPath, false, false⟩)]
  let bindings := inherited.foldl (fun vs (n, v) => setEntry n v vs) preset
  let pwd := (bindings.lookup "PWD").elim (Variable.mk o.directory.text false false) fun v =>
    { v with value := o.directory.text }
  { o with
    name, process, arguments, functions := [], options := [], status := 0, line := 1, documents := [], traps := [],
    pending := [], outerTraps := none, tested := false, hidden := [], lastBackground := 0, jobs := [], loops := 0,
    bindings := setEntry "PWD" pwd bindings }

end Exec

end Acceptance.Shell
