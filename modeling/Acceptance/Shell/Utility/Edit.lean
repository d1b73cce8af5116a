import Acceptance.Shell.Utility.Expression
import Acceptance.Shell.Utility.Text

/-!
# Editing streams

A script of commands is applied to every line of the input. A command may be meant for certain lines only: those that
addresses select, or all others. Unless it is deleted, or silence is asked for, a line is written when all commands have
been applied to it. The characters of scripts and lines stand for bytes.
-/

namespace Acceptance.Shell.Utility

open Process

/-- A part of what is put in the place of a match. -/
inductive Replacement where
  | char (c : Char)
  /-- The text of the match. -/
  | whole
  /-- The text of a group, counted from 1. -/
  | group (n : Nat)

/-- What lines an address stands for. -/
inductive Address where
  | line (n : Nat)
  | last
  | matching (p : Pattern)

/-- What a command does. -/
inductive Edit where
  /-- Replaces matches, from the given one on, and all of them if `every` holds. -/
  | substitute (pieces : List (Bool × Pattern)) (replacement : List Replacement) (first : Nat) (every print : Bool)
  | exchange (pairs : List (Char × Char))
  | print
  | delete
  | quit
  | number
  | insert (text : String)
  | append (text : String)
  | change (text : String)

/-- A command with the lines it is meant for. -/
structure EditCommand where
  start : Option Address
  stop : Option Address
  negated : Bool
  edit : Edit

namespace Edit

/-- The place after the group that has been opened, with its inside, if it is closed at all. -/
def closeGroup (extended : Bool) : Nat → List Char → Option (List Char × List Char)
  | _, [] => none
  | depth, '\\' :: c :: cs =>
    let deeper := if !extended && c == '(' then depth + 1 else depth
    if !extended && c == ')' then
      match depth with
      | 0 => some ([], cs)
      | depth + 1 => (closeGroup extended depth cs).map fun (a, b) => ('\\' :: c :: a, b)
    else (closeGroup extended deeper cs).map fun (a, b) => ('\\' :: c :: a, b)
  | depth, c :: cs =>
    let deeper := if extended && c == '(' then depth + 1 else depth
    if extended && c == ')' then
      match depth with
      | 0 => some ([], cs)
      | depth + 1 => (closeGroup extended depth cs).map fun (a, b) => (c :: a, b)
    else (closeGroup extended deeper cs).map fun (a, b) => (c :: a, b)

def isRepeated (extended : Bool) : List Char → Bool
  | '*' :: _ => true
  | '\\' :: c :: _ => !extended && ['{', '+', '?'].contains c
  | c :: _ => extended && ['{', '+', '?'].contains c
  | [] => false

/-- Divides an expression at its outermost groups that are not repeated; each part is marked if it is such a group. -/
def divideGroups (extended : Bool) (fuel : Nat) (plain : List Char) (cs : List Char) : List (Bool × List Char) :=
  match fuel, cs with
  | 0, _ => [(false, plain ++ cs)]
  | _, [] => if plain.isEmpty then [] else [(false, plain)]
  | fuel + 1, c :: cs =>
    let opened : Option (List Char) := match extended, c, cs with
      | true, '(', cs => some cs
      | false, '\\', '(' :: cs => some cs
      | _, _, _ => none
    match opened.bind (closeGroup extended 0) with
    | some (inside, rest) =>
      if isRepeated extended rest then
        let text := if extended then '(' :: inside ++ [')'] else '\\' :: '(' :: inside ++ ['\\', ')']
        divideGroups extended fuel (plain ++ text) rest
      else (if plain.isEmpty then [] else [(false, plain)]) ++ (true, inside) :: divideGroups extended fuel [] rest
    | none =>
      match c, cs with
      | '\\', d :: more => divideGroups extended fuel (plain ++ ['\\', d]) more
      | _, _ => divideGroups extended fuel (plain ++ [c]) cs

/-- Whether an expression has alternatives outside of all groups. -/
def hasAlternatives (parts : List (Bool × List Char)) (extended : Bool) : Bool :=
  parts.any fun (isGroup, text) =>
    !isGroup && if extended then text.contains '|' else ((String.ofList text).splitOn "\\|").length > 1

def partPattern (extended ignoringCase start : Bool) (text : List Char) : Except ExpressionFault Pattern := do
  let body ← Expression.patternText extended (text.length + 1) 0 start text
  Expression.compile ignoringCase ("(?:".toList ++ body ++ [')'])

def pieces (extended ignoringCase : Bool) (text : List Char) : Except ExpressionFault (List (Bool × Pattern)) := do
  let parts := divideGroups extended (text.length + 1) [] text
  if hasAlternatives parts extended then return [(false, ← partPattern extended ignoringCase true text)]
  let starts := true :: List.replicate parts.length false
  (parts.zip starts).mapM fun ((isGroup, part), start) =>
    (partPattern extended ignoringCase (isGroup || start) part).map fun p => (isGroup, p)

/-- The places where a match of all pieces that begins at a place can end. -/
def endsOf (text : Array Char) (pieces : List (Bool × Pattern)) (i : Nat) : List Nat :=
  pieces.foldl (fun places p => (places.flatMap (p.2.ends text)).eraseDups) [i]

/-- The groups of a match from place `i` to place `stop`, each as long as it can be. -/
def groupsOf (text : Array Char) (stop : Nat) : List (Bool × Pattern) → Nat → List (Nat × Nat)
  | [], _ => []
  | (isGroup, p) :: pieces, i =>
    let reached := (p.ends text i).filter fun j => (endsOf text pieces j).contains stop
    let j := reached.foldl max i
    (if isGroup then [(i, j)] else []) ++ groupsOf text stop pieces j

def replacementText (text : Array Char) (i j : Nat) (groups : List (Nat × Nat)) (rs : List Replacement) : List Char :=
  rs.flatMap fun r => match r with
    | .char c => [c]
    | .whole => (text.extract i j).toList
    | .group n => (groups[n - 1]?).elim [] fun (a, b) => (text.extract a b).toList

/-- Replaces matches from place `i` on, where the next one is the match of the given number. Gives the text, and whether
something was replaced. `after` holds if a match ends at `i`. -/
def replaceFrom (text : Array Char) (pieces : List (Bool × Pattern)) (rs : List Replacement) (wanted : Nat)
    (every : Bool) : Nat → Nat → Nat → Bool → List Char × Bool
  | 0, _, i, _ => ((text.extract i text.size).toList, false)
  | fuel + 1, count, i, after =>
    if text.size < i then ([], false)
    else
      let keepOne : List Char × Bool :=
        let (rest, done) := replaceFrom text pieces rs wanted every fuel count (i + 1) false
        (text[i]?.toList ++ rest, done)
      match (endsOf text pieces i).max? with
      | none => keepOne
      | some j =>
        if j == i && after then keepOne
        else if count < wanted || (count > wanted && !every) then
          if j == i then
            let (rest, done) := replaceFrom text pieces rs wanted every fuel (count + 1) (i + 1) false
            (text[i]?.toList ++ rest, done)
          else
            let (rest, done) := replaceFrom text pieces rs wanted every fuel (count + 1) j true
            ((text.extract i j).toList ++ rest, done)
        else
          let new := replacementText text i j (groupsOf text j pieces i) rs
          if !every then (new ++ (text.extract j text.size).toList, true)
          else if j == i then
            let (rest, _) := replaceFrom text pieces rs wanted every fuel (count + 1) (i + 1) false
            (new ++ text[i]?.toList ++ rest, true)
          else
            let (rest, _) := replaceFrom text pieces rs wanted every fuel (count + 1) j true
            (new ++ rest, true)

/-- Divides a text at a mark that has no backslash before it. A mark with a backslash stands for itself. -/
def upTo (mark : Char) : List Char → Option (List Char × List Char)
  | [] => none
  | '\\' :: c :: cs =>
    (upTo mark cs).map fun (a, b) => (if c == mark then c :: a else if c == 'n' then '\n' :: a else '\\' :: c :: a, b)
  | c :: cs => if c == mark then some ([], cs) else (upTo mark cs).map fun (a, b) => (c :: a, b)

/-- Divides a text like `upTo`, and keeps the backslashes. -/
def rawUpTo (mark : Char) : List Char → Option (List Char × List Char)
  | [] => none
  | '\\' :: c :: cs => (rawUpTo mark cs).map fun (a, b) => ('\\' :: c :: a, b)
  | c :: cs => if c == mark then some ([], cs) else (rawUpTo mark cs).map fun (a, b) => (c :: a, b)

def replacement : List Char → List Replacement
  | [] => []
  | '\\' :: c :: cs =>
    (if c.isDigit then (if c == '0' then .whole else .group (c.toNat - '0'.toNat))
      else if c == 'n' then .char '\n' else if c == 't' then .char '\t' else .char c) :: replacement cs
  | '&' :: cs => .whole :: replacement cs
  | c :: cs => .char c :: replacement cs

/-- Drops blanks in front. -/
def skipBlanks (cs : List Char) : List Char := cs.dropWhile fun c => c == ' ' || c == '\t'

def address (extended : Bool) (cs : List Char) : Except String (Option Address × List Char) :=
  match cs with
  | '$' :: cs => .ok (some .last, cs)
  | '/' :: cs =>
    match upTo '/' cs with
    | none => .error "unterminated address regex"
    | some (text, rest) =>
      let ignoringCase := rest.head? == some 'I'
      match partPattern extended ignoringCase true text with
      | .ok p => .ok (some (.matching p), if ignoringCase then rest.drop 1 else rest)
      | .error cause => .error cause.words
  | cs =>
    match (String.ofList (cs.takeWhile Char.isDigit)).toNat? with
    | some n => .ok (some (.line n), cs.dropWhile Char.isDigit)
    | none => .ok (none, cs)

/-- Reads the text of a command that writes text. -/
def textArgument (cs : List Char) : String × List Char :=
  let cs := skipBlanks cs
  let cs := match cs with
    | '\\' :: '\n' :: rest => rest
    | '\\' :: rest => rest
    | cs => cs
  (String.ofList (cs.takeWhile (· != '\n')), cs.dropWhile (· != '\n'))

/-- Reads what a command does. An error comes with what was left to be read. -/
def ofText (extended : Bool) : List Char → Except (String × List Char) (Edit × List Char)
  | 'p' :: cs => .ok (.print, cs)
  | 'd' :: cs => .ok (.delete, cs)
  | 'q' :: cs => .ok (.quit, cs)
  | '=' :: cs => .ok (.number, cs)
  | 'a' :: cs => let (text, cs) := textArgument cs; .ok (.append text, cs)
  | 'i' :: cs => let (text, cs) := textArgument cs; .ok (.insert text, cs)
  | 'c' :: cs => let (text, cs) := textArgument cs; .ok (.change text, cs)
  | 's' :: mark :: cs =>
    match upTo mark cs with
    | none => .error ("unterminated `s' command", [])
    | some (expression, cs) =>
      match rawUpTo mark cs with
      | none => .error ("unterminated `s' command", [])
      | some (text, cs) =>
        let flags := cs.takeWhile fun c => c.isDigit || ['g', 'p', 'i', 'I'].contains c
        let wanted := (String.ofList (flags.filter Char.isDigit)).toNat?.getD 1
        match pieces extended (flags.contains 'i' || flags.contains 'I') expression with
        | .error cause => .error (cause.words, cs.drop flags.length)
        | .ok pieces =>
          .ok (.substitute pieces (replacement text) wanted (flags.contains 'g') (flags.contains 'p'),
            cs.drop flags.length)
  | 'y' :: mark :: cs =>
    match upTo mark cs with
    | none => .error ("unterminated `y' command", [])
    | some (olds, cs) =>
      match upTo mark cs with
      | none => .error ("unterminated `y' command", [])
      | some (news, cs) =>
        if olds.length == news.length then .ok (.exchange (olds.zip news), cs)
        else .error ("strings for `y' command are different lengths", [])
  | c :: cs => .error ("unknown command: `" ++ String.singleton c ++ "'", cs)
  | [] => .error ("missing command", [])

end Edit

namespace EditCommand

/-- Reads the commands of a script. An error comes with what was left to be read. -/
def ofScript (extended : Bool) : Nat → List Char → Except (String × List Char) (List EditCommand)
  | 0, cs => .error ("script too long", cs)
  | fuel + 1, cs => do
    let cs := cs.dropWhile fun c => c == ' ' || c == '\t' || c == '\n' || c == ';'
    if cs.isEmpty then return []
    if cs.head? == some '#' then return ← ofScript extended fuel (cs.dropWhile (· != '\n'))
    let locate {α : Type} (cs : List Char) (r : Except String α) : Except (String × List Char) α :=
      r.mapError fun e => (e, cs)
    let (start, cs) ← locate cs (Edit.address extended cs)
    let (stop, cs) ← match start, cs with
      | some _, ',' :: rest => locate rest (Edit.address extended (Edit.skipBlanks rest))
      | _, _ => pure (none, cs)
    let cs := Edit.skipBlanks cs
    let negated := cs.head? == some '!'
    let cs := Edit.skipBlanks (if negated then cs.drop 1 else cs)
    let (edit, rest) ← Edit.ofText extended cs
    let rest := Edit.skipBlanks rest
    match rest with
    | [] => return [⟨start, stop, negated, edit⟩]
    | c :: more =>
      if c == ';' || c == '\n' then return ⟨start, stop, negated, edit⟩ :: (← ofScript extended fuel more)
      else throw ("unknown option to command", more)

end EditCommand

/-- What is known while the lines of a stream are edited. -/
structure EditState where
  /-- The number of the line, counted from 1. -/
  number : Nat
  /-- The numbers of the commands whose ranges have begun, and where each ends if that is known. -/
  begun : List (Nat × Option Nat)
  /-- What has been written. -/
  written : List (List UInt8)
  finished : Bool

namespace EditState

def fits (number : Nat) (isLast : Bool) (line : String) : Address → Bool
  | .line n => n == number
  | .last => isLast
  | .matching p => p.accepts line

/-- Whether a command is meant for a line, and the state after asking. -/
def selects (s : EditState) (index : Nat) (c : EditCommand) (isLast : Bool) (line : String) : Bool × EditState :=
  match c.start, c.stop with
  | none, _ => (!c.negated, s)
  | some a, none => (fits s.number isLast line a != c.negated, s)
  | some a, some b =>
    if (s.begun.lookup index).isSome then
      let ends : Bool := match b with
        | .line n => n ≤ s.number
        | other => fits s.number isLast line other
      let beyond : Bool := match b with
        | .line n => n < s.number
        | _ => false
      let s := if ends then { s with begun := s.begun.filter (·.1 != index) } else s
      ((!beyond || fits s.number isLast line a) != c.negated, s)
    else if fits s.number isLast line a then
      let single : Bool := match b with
        | .line n => n ≤ s.number
        | .last => isLast
        | _ => false
      (!c.negated, if single then s else { s with begun := (index, none) :: s.begun })
    else (c.negated, s)

def put (s : EditState) (text : String) : EditState := { s with written := s.written ++ [charBytes text.toList] }

/-- Whether the range of a command goes on after the line. -/
def goesOn (s : EditState) (index : Nat) : Bool := (s.begun.lookup index).isSome

/-- Applies commands to a line, which ends in `ending`. -/
def apply (silent isLast : Bool) (ending : String) :
    List (Nat × EditCommand) → String → List String → EditState → EditState
  | [], line, later, s =>
    let s := if silent then s else s.put (line ++ ending)
    later.foldl (fun s text => s.put (text ++ "\n")) s
  | (index, c) :: cs, line, later, s =>
    match s.selects index c isLast line with
    | (false, s) => apply silent isLast ending cs line later s
    | (true, s) =>
      match c.edit with
      | .print => apply silent isLast ending cs line later (s.put (line ++ "\n"))
      | .delete => later.foldl (fun s text => s.put (text ++ "\n")) s
      | .quit =>
        let s := if silent then s else s.put (line ++ ending)
        { later.foldl (fun s text => s.put (text ++ "\n")) s with finished := true }
      | .number => apply silent isLast ending cs line later (s.put (toString s.number ++ "\n"))
      | .insert text => apply silent isLast ending cs line later (s.put (text ++ "\n"))
      | .append text => apply silent isLast ending cs line (later ++ [text]) s
      | .change text =>
        let s := if s.goesOn index then s else s.put (text ++ "\n")
        later.foldl (fun s text => s.put (text ++ "\n")) s
      | .exchange pairs =>
        let line := String.ofList (line.toList.map fun c => (pairs.lookup c).getD c)
        apply silent isLast ending cs line later s
      | .substitute pieces replacement first every print =>
        let text := line.toList.toArray
        let (new, done) := Edit.replaceFrom text pieces replacement first every (text.size + 2) 1 0 false
        let line := if done then String.ofList new else line
        apply silent isLast ending cs line later (if done && print then s.put (line ++ "\n") else s)

def run (silent endsOpen : Bool) (commands : List (Nat × EditCommand)) : List (List UInt8) → EditState → EditState
  | [], s => s
  | line :: lines, s =>
    if s.finished then s
    else
      let isLast := lines.isEmpty
      let s := { s with number := s.number + 1 }
      run silent endsOpen commands lines
        (apply silent isLast (if isLast && endsOpen then "" else "\n") commands (String.ofList (byteChars line)) [] s)

end EditState

/-- The scripts, the files and the flags of an argument list. -/
def scriptArguments : List String → List String × List String × List Char
  | [] => ([], [], [])
  | [arg] =>
    match arg.toList with
    | '-' :: c :: cs => ([], [], c :: cs)
    | _ => ([], [arg], [])
  | arg :: value :: args =>
    if arg == "-e" || arg == "--expression" || arg == "-ne" then
      let (scripts, files, flags) := scriptArguments args
      (value :: scripts, files, if arg == "-ne" then 'n' :: flags else flags)
    else
      let (scripts, files, flags) := scriptArguments (value :: args)
      match arg.toList with
      | '-' :: c :: cs => (scripts, files, c :: cs ++ flags)
      | _ => (scripts, arg :: files, flags)

/-- Edits the input, or files one after the other as if they were one; with `-i` each file is edited in its place. -/
def sed : Utility := fun args => do
  let (scripts, files, flags) := scriptArguments args
  let (scripts, files) := if scripts.isEmpty then (files.take 1, files.drop 1) else (scripts, files)
  if scripts.isEmpty then
    let usage := "Usage: sed [OPTION]... \x7bscript-only-if-no-other-script\x7d [input-file]...\n"
    modify fun p => { p with written := p.written ++ [(.error, encode usage)] }
    return 1
  let script := textChars ("\n".intercalate scripts)
  let extended := flags.contains 'E' || flags.contains 'r'
  match EditCommand.ofScript extended (script.length + 1) script with
  | .error (message, rest) =>
    complain s!"-e expression #1, char {script.length - rest.length}: {message}"
    return 1
  | .ok commands =>
    let commands := (List.range commands.length).zip commands
    let silent := flags.contains 'n'
    let edit (bytes : List UInt8) : List UInt8 :=
      let endsOpen := bytes.getLast?.any (· != 10)
      (EditState.run silent endsOpen commands (bytesLines bytes) ⟨0, [], [], false⟩).written.flatten
    let mut status := 0
    let mut stream := []
    for file in if files.isEmpty then ["-"] else files do
      match ← read file with
      | .error .isDirectory =>
        complain (if flags.contains 'i' then s!"couldn't edit {file}: not a regular file"
          else s!"couldn't read {file}: Is a directory")
        status := max status (if flags.contains 'i' then 4 else 2)
      | .error cause =>
        complain s!"can't read {file}: {cause.words}"
        status := 2
      | .ok bytes =>
        if flags.contains 'i' then
          match ← resolve file with
          | .ok p =>
            let executable := match (← get).files.find? p with
              | some (.file _ executable) => executable
              | _ => false
            let _ ← writeFile p (edit bytes) executable
          | .error _ => pure ()
        else
          -- a file that does not end its last line gets an end if another file follows
          stream := (if stream.getLast?.any (· != 10) then stream ++ [10] else stream) ++ bytes
    put (edit stream)
    return status

end Acceptance.Shell.Utility
