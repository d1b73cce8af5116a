import Acceptance.Shell.Utility.Expression
import Acceptance.Shell.Utility.Text

/-!
# Searching

The lines of files that match a pattern, or that do not, with the lines around them if they are asked for.
-/

namespace Acceptance.Shell.Utility

open Process

/-- What a search is asked for. -/
structure Inquiry where
  /-- The letters of the options without a value. -/
  flags : List Char
  /-- The texts of the patterns, if they are given by options. -/
  texts : List String
  /-- The files with texts of patterns. -/
  files : List String
  /-- How many lines are selected in a file at most. -/
  limit : Option Nat
  /-- How many lines are shown before a selected line. -/
  before : Nat
  /-- How many lines are shown after a selected line. -/
  after : Nat
  operands : List String

namespace Inquiry

def longNames : List (String × Char) :=
  [("basic-regexp", 'G'), ("count", 'c'), ("dereference-recursive", 'R'), ("extended-regexp", 'E'),
   ("files-with-matches", 'l'), ("files-without-match", 'L'), ("fixed-strings", 'F'), ("ignore-case", 'i'),
   ("invert-match", 'v'), ("line-number", 'n'), ("line-regexp", 'x'), ("no-filename", 'h'), ("no-messages", 's'),
   ("null", 'Z'), ("only-matching", 'o'), ("perl-regexp", 'P'), ("quiet", 'q'), ("recursive", 'r'), ("silent", 'q'),
   ("text", 'a'), ("with-filename", 'H'), ("word-regexp", 'w'), ("after-context", 'A'), ("before-context", 'B'),
   ("context", 'C'), ("file", 'f'), ("max-count", 'm'), ("regexp", 'e')]

def valued : List Char := ['A', 'B', 'C', 'e', 'f', 'm']

def plain : List Char := "EFGHILPRTUVZabchilnoqrsuvwxyz0123456789".toList

def take (q : Inquiry) (letter : Char) (value : String) : Inquiry :=
  let n := value.toNat?.getD 0
  match letter with
  | 'A' => { q with after := n }
  | 'B' => { q with before := n }
  | 'C' => { q with before := n, after := n }
  | 'f' => { q with files := q.files ++ [value] }
  | 'm' => { q with limit := some n }
  | _ => { q with texts := q.texts ++ [value] }

/-- Reads letters. The last may be an option whose value is the next argument. -/
def letters (q : Inquiry) : List Char → Except String (Inquiry × Option Char)
  | [] => .ok (q, none)
  | c :: cs =>
    if valued.contains c then
      if cs.isEmpty then .ok (q, some c) else .ok (q.take c (String.ofList cs), none)
    else if c.isDigit then
      let n := ((String.ofList (c :: cs.takeWhile Char.isDigit)).toNat?).getD 0
      letters { q with before := n, after := n } (cs.dropWhile Char.isDigit)
    else if plain.contains c then letters { q with flags := q.flags ++ [c] } cs
    else .error ("invalid option -- " ++ inQuotes (String.singleton c))
termination_by cs => cs.length
decreasing_by
  · have := (List.dropWhile_sublist Char.isDigit (l := cs)).length_le
    simp only [List.length_cons]
    omega
  · simp only [List.length_cons]
    omega

def word (q : Inquiry) (text : List Char) : Except String (Inquiry × Option Char) :=
  let name := String.ofList (text.takeWhile (· != '='))
  if name == "color" || name == "colour" then .ok (q, none)
  else
    match longNames.lookup name, text.dropWhile (· != '=') with
    | none, _ => .error ("unrecognized option " ++ inQuotes ("--" ++ String.ofList text))
    | some c, [] => if valued.contains c then .ok (q, some c) else .ok ({ q with flags := q.flags ++ [c] }, none)
    | some c, _ :: value => .ok (q.take c (String.ofList value), none)

/-- Reads arguments. `waiting` is an option that waits for its value. -/
def ofArguments (q : Inquiry) (waiting : Option Char) : List String → Except String Inquiry
  | [] =>
    match waiting with
    | some c => .error ("option requires an argument -- " ++ inQuotes (String.singleton c))
    | none => .ok q
  | arg :: args =>
    match waiting, arg.toList with
    | some c, _ => ofArguments (q.take c arg) none args
    | none, ['-', '-'] => .ok { q with operands := q.operands ++ args }
    | none, '-' :: '-' :: text => do
      let (q, waiting) ← q.word text
      ofArguments q waiting args
    | none, '-' :: c :: cs => do
      let (q, waiting) ← q.letters (c :: cs)
      ofArguments q waiting args
    | none, _ => ofArguments { q with operands := q.operands ++ [arg] } none args

def has (q : Inquiry) (letter : Char) : Bool := q.flags.contains letter

def pattern (q : Inquiry) (text : String) : Except ExpressionFault Pattern := do
  let cs := textChars text
  let body ←
    if q.has 'F' then pure (cs.flatMap Expression.escaped)
    else if q.has 'P' then pure cs
    else Expression.patternText (q.has 'E') (cs.length + 1) 0 true cs
  let body :=
    if q.has 'x' then "^(?:".toList ++ body ++ ")$".toList
    else if q.has 'w' then "\\b\x7bstart-half\x7d(?:".toList ++ body ++ ")\\b\x7bend-half\x7d".toList
    else body
  Expression.compile (q.has 'i' || q.has 'y') body

def selects (q : Inquiry) (patterns : List Pattern) (line : List UInt8) : Bool :=
  let text := String.ofList (byteChars line)
  (patterns.any fun p => p.accepts text) != q.has 'v'

end Inquiry

/-- The first and longest matches in a line, which do not overlap. -/
def matchesIn (patterns : List Pattern) (text : Array Char) : Nat → Nat → List (List Char)
  | 0, _ => []
  | fuel + 1, i =>
    if text.size < i then []
    else
      let stop := (Expression.longest? patterns text i).getD i
      if stop == i then matchesIn patterns text fuel (i + 1)
      else (text.extract i stop).toList :: matchesIn patterns text fuel stop

/-- The files that an operand stands for: those below it if it is a directory and the search is to go there. -/
def searched (p : Process) (below : Bool) (operand : String) : List String :=
  match below, p.files.locate p.directory operand with
  | true, .ok (q, .directory) =>
    let files := p.files.entries.filterMap fun (r, e) =>
      if e != .directory && q.isPrefixOf r then some (r.drop q.length) else none
    (files.mergeSort Path.precedes).map fun r => Path.join operand ("/".intercalate r)
  | _, _ => [operand]

/-- The numbers of the lines that are shown for selected lines: those, and the lines around them. -/
def shownLines (q : Inquiry) (count : Nat) (selected : List Nat) : List Nat :=
  (List.range count).filter fun n => selected.any fun s => n ≤ s + q.after && s ≤ n + q.before

/-- Shows lines of a file, with a line of hyphens where lines are left out. `last` is the number of the line shown
before, and nothing if no line has been shown. -/
def showLines (q : Inquiry) (patterns : List Pattern) (label : Option String) (lines : Array (List UInt8))
    (selected : List Nat) (last : Option (Option Nat)) : List Nat → StateM Process (Option (Option Nat))
  | [] => return last.map fun _ => none
  | n :: more => do
    let line := lines.getD n []
    let isSelected := selected.contains n
    let mark := if isSelected then ":" else "-"
    let start := label.elim "" (· ++ mark) ++ (if q.has 'n' then toString (n + 1) ++ mark else "")
    let around := 0 < q.before || 0 < q.after
    let adjacent := last.all fun l => l.any fun l => l + 1 == n
    if around && !adjacent then say "--\n"
    if q.has 'o' then
      if isSelected then
        let text := (byteChars line).toArray
        for part in matchesIn patterns text (text.size + 1) 0 do
          say start
          put (charBytes part ++ [10])
    else
      say start
      put (line ++ [10])
    showLines q patterns label lines selected (some (some n)) more

/-- Searches files for lines that match, or that do not. -/
def grep (presets : List Char) : Utility := fun args => do
  let misused (text : String) : StateM Process Nat := do
    let usage := "Usage: grep [OPTION]... PATTERNS [FILE]...\nTry 'grep --help' for more information.\n"
    if text != "" then complain text
    modify fun p => { p with written := p.written ++ [(.error, encode usage)] }
    return 2
  match Inquiry.ofArguments ⟨presets, [], [], none, 0, 0, []⟩ none args with
  | .error message => misused message
  | .ok q =>
    let mut fromFiles := []
    for f in q.files do
      match ← read f with
      | .ok bytes => fromFiles := fromFiles ++ (bytesLines bytes).map decode
      | .error cause =>
        complain (plainMessage f cause)
        return 2
    let given := q.texts ++ fromFiles
    let implicit := q.texts.isEmpty && q.files.isEmpty
    let (texts, operands) := if implicit then (q.operands.take 1, q.operands.drop 1) else (given, q.operands)
    if implicit && texts.isEmpty then return ← misused ""
    match (texts.flatMap (·.splitOn "\n")).mapM q.pattern with
    | .error cause =>
      complain cause.words
      return 2
    | .ok patterns =>
      let below := q.has 'r' || q.has 'R'
      let named := (operands.length > 1 || q.has 'H' || below) && !q.has 'h'
      let operands := if operands.isEmpty then [if below then "." else "-"] else operands
      let state ← get
      let mut found := false
      let mut failed := false
      let mut last := none
      for o in operands.flatMap (searched state below) do
        let label := if o == "-" then "(standard input)" else o
        match ← read o with
        | .error cause =>
          if !q.has 's' then complain (plainMessage o cause)
          failed := true
        | .ok bytes =>
          let lines := bytesLines bytes
          let selected := ((lines.zip (List.range lines.length)).filter fun (l, _) => q.selects patterns l).map (·.2)
          let selected := q.limit.elim selected selected.take
          if !selected.isEmpty then found := true
          if q.has 'q' then pure ()
          else if q.has 'l' then
            if !selected.isEmpty then say (label ++ "\n")
          else if q.has 'L' then
            if selected.isEmpty then say (label ++ "\n")
          else if q.has 'c' then
            say ((if named then label ++ ":" else "") ++ toString selected.length ++ "\n")
          else if bytes.contains 0 && !selected.isEmpty && !q.has 'a' then
            complain (label ++ ": binary file matches")
          else
            let shown := shownLines q lines.length selected
            last ← showLines q patterns (if named then some label else none) lines.toArray selected last shown
      return if q.has 'q' && found then 0 else if failed then 2 else if found then 0 else 1

end Acceptance.Shell.Utility
