import Acceptance.Shell.Syntax

/-!
# Reading shell programs

A program is read by recursive descent. The reader works on the characters left and gives up when its fuel is spent,
which is chosen so large that every step of a descent through the text is covered. Bodies of here-documents are read
when the line that announces them ends.

Reading stops at the first error; the commands before it are kept, because they are run before the error is reported.
-/

namespace Acceptance.Shell

/-- A here-document that has been announced but not read. -/
structure Announced where
  number : Nat
  delimiter : String
  /-- Whether leading tabs are dropped. -/
  dedented : Bool
  /-- Whether the body stands for itself. -/
  literal : Bool

/-- The state of a reader. -/
structure ReaderState where
  rest : List Char
  line : Nat
  announced : List Announced
  documents : List (Nat × Word)

/-- A reading step: it may fail at a line with a message. -/
abbrev Read := StateT ReaderState (Except (Nat × String))

namespace Read

def isMeta (c : Char) : Bool := [' ', '\t', '\n', ';', '&', '|', '<', '>', '(', ')'].contains c

/-- The words with a meaning of their own where a command is expected. -/
def reserved : List String :=
  ["if", "then", "else", "elif", "fi", "do", "done", "case", "esac", "while", "until", "for", "\x7b", "\x7d", "!", "in"]

/-- The reserved words that end a list of commands. -/
def closing : List String := ["then", "else", "elif", "fi", "do", "done", "esac", "\x7d"]

def fail (message : String) : Read α := do throw ((← get).line, message)

def rest : Read (List Char) := return (← get).rest

def drop (n : Nat) : Read Unit := modify fun s =>
  { s with rest := s.rest.drop n, line := s.line + (s.rest.take n).count '\n' }

def facing (text : String) : Read Bool := return text.toList.isPrefixOf (← rest)

def accept (text : String) : Read Bool := do
  if ← facing text then
    drop text.length
    return true
  else return false

/-- The blanks, continued line ends and comment in front. -/
def spaceLength : List Char → Nat
  | ' ' :: cs => spaceLength cs + 1
  | '\t' :: cs => spaceLength cs + 1
  | '\\' :: '\n' :: cs => spaceLength cs + 2
  | '#' :: cs => (cs.takeWhile (· != '\n')).length + 1
  | _ => 0

def skipSpace : Read Unit := do drop (spaceLength (← rest))

/-- The bare text in front, up to a character that ends a word. -/
def bareWord : Read String := do
  skipSpace
  return String.ofList ((← rest).takeWhile (!isMeta ·))

/-- Drops a reserved word if it is in front. -/
def acceptWord (word : String) : Read Bool := do
  if (← bareWord) == word then
    drop word.length
    return true
  else return false

def describe : Read String := do
  skipSpace
  let word ← bareWord
  let operators := ["&&", "||", ";;", "<<", ">>", ";", "&", "|", "(", ")", "<", ">"]
  match ← rest with
  | [] => return "end of file"
  | '\n' :: _ => return "newline"
  | cs =>
    match operators.find? fun o => o.toList.isPrefixOf cs with
    | some o => return "\"" ++ o ++ "\""
    | none => return if reserved.contains word then "\"" ++ word ++ "\"" else "word"

def unexpected (expecting : Option String) : Read α := do
  let hint := match expecting with
    | none => ""
    | some word => " (expecting \"" ++ word ++ "\")"
  fail ("Syntax error: " ++ (← describe) ++ " unexpected" ++ hint)

/-- Drops a reserved word, which must be in front. -/
def expectWord (word : String) : Read Unit := do
  if !(← acceptWord word) then unexpected (some word)

def isNameStart (c : Char) : Bool := c.isAlpha || c == '_'

def isNameChar (c : Char) : Bool := c.isAlphanum || c == '_'

def isSpecial (c : Char) : Bool := ['@', '*', '#', '?', '-', '$', '!'].contains c

def consBare (c : Char) : Word → Word
  | .bare text :: ps => .bare (String.singleton c ++ text) :: ps
  | ps => .bare (String.singleton c) :: ps

def consQuoted (text : String) : Word → Word
  | .quoted t :: ps => .quoted (text ++ t) :: ps
  | ps => .quoted text :: ps

/-- The text of a word that has only bare and quoted pieces. -/
def plainText (w : Word) : String :=
  String.join (w.map fun p => match p with
    | .bare t => t
    | .quoted t => t
    | _ => "")

def hasQuotes (w : Word) : Bool :=
  w.any fun p => match p with
    | .quoted _ => true
    | _ => false

/-- The contexts in which quoted pieces are read. -/
inductive Quotation where
  /-- Up to a double quote. -/
  | doubleQuotes
  /-- Up to a closing brace. -/
  | braces
  /-- Up to two closing parentheses. -/
  | arithmetic
  /-- Up to the end. -/
  | document
deriving DecidableEq

def Quotation.ended (q : Quotation) (depth : Nat) : List Char → Bool
  | [] => q == .document
  | '"' :: _ => q == .doubleQuotes
  | '}' :: _ => q == .braces
  | ')' :: ')' :: _ => q == .arithmetic && depth == 0
  | _ => false

def Quotation.unterminated : Quotation → String
  | .doubleQuotes => "Syntax error: Unterminated quoted string"
  | .braces => "Syntax error: Missing '\x7d'"
  | .arithmetic => "Syntax error: Missing '))'"
  | .document => ""

/-- Undoes the backslashes of a quotation in backquotes, and gives its length in the text. -/
def backquoted : List Char → Option (List Char × Nat)
  | [] => none
  | '`' :: _ => some ([], 1)
  | '\\' :: c :: cs =>
    (backquoted cs).map fun (inner, n) =>
      (if c == '`' || c == '\\' || c == '$' then c :: inner else '\\' :: c :: inner, n + 2)
  | c :: cs => (backquoted cs).map fun (inner, n) => (c :: inner, n + 1)

def deepen (depth : Nat) : Char → Nat
  | '(' => depth + 1
  | ')' => depth - 1
  | _ => depth

/-- Divides an assignment into its name and the rest of its first piece. -/
def assignment? : Word → Option (String × Word)
  | .bare text :: ps =>
    let name := text.toList.takeWhile isNameChar
    match text.toList.dropWhile isNameChar with
    | '=' :: value =>
      if name.head?.any isNameStart then
        some (String.ofList name, if value.isEmpty then ps else .bare (String.ofList value) :: ps)
      else none
    | _ => none
  | _ => none

/-- The lines of a here-document, up to its delimiter. -/
def documentLines (a : Announced) : List String → List String × Nat
  | [] => ([], 0)
  | l :: ls =>
    let text := if a.dedented then String.ofList (l.toList.dropWhile (· == '\t')) else l
    if text == a.delimiter then ([], 1)
    else
      let (body, n) := documentLines a ls
      (text :: body, n + 1)

mutual

/-- Reads the pieces of a word outside quotes; inside braces only a closing brace ends it. -/
def pieces (inBraces : Bool) : Nat → Read Word
  | 0 => fail "Syntax error: too long"
  | fuel + 1 => do
    match ← rest with
    | [] => if inBraces then fail Quotation.braces.unterminated else return []
    | '\'' :: cs =>
      let text := cs.takeWhile (· != '\'')
      if text.length == cs.length then fail Quotation.doubleQuotes.unterminated
      drop (text.length + 2)
      return consQuoted (String.ofList text) (← pieces inBraces fuel)
    | '"' :: _ =>
      drop 1
      let inner ← quotedPieces .doubleQuotes 0 fuel
      drop 1
      return (if inner.isEmpty then [.quoted ""] else inner) ++ (← pieces inBraces fuel)
    | '\\' :: '\n' :: _ =>
      drop 2
      pieces inBraces fuel
    | '\\' :: c :: _ =>
      drop 2
      return consQuoted (String.singleton c) (← pieces inBraces fuel)
    | '\\' :: [] =>
      drop 1
      return [.quoted "\\"]
    | '$' :: _ =>
      let p ← dollar false fuel
      return p :: (← pieces inBraces fuel)
    | '`' :: _ =>
      let p ← backquote false fuel
      return p :: (← pieces inBraces fuel)
    | c :: _ =>
      if (if inBraces then c == '}' else isMeta c) then return []
      drop 1
      return consBare c (← pieces inBraces fuel)

/-- Reads pieces inside quotes, up to but without what ends them. -/
def quotedPieces (q : Quotation) (depth : Nat) : Nat → Read Word
  | 0 => fail "Syntax error: too long"
  | fuel + 1 => do
    let cs ← rest
    if q.ended depth cs then return []
    match cs with
    | [] => fail q.unterminated
    | '\\' :: '\n' :: _ =>
      drop 2
      quotedPieces q depth fuel
    | '\\' :: c :: _ =>
      drop 2
      let escaped := ['$', '`', '\\'].contains c || (c == '"' && q != .document) || (c == '}' && q == .braces)
      let text := if escaped then String.singleton c else "\\" ++ String.singleton c
      return consQuoted text (← quotedPieces q depth fuel)
    | '$' :: _ =>
      let p ← dollar true fuel
      return p :: (← quotedPieces q depth fuel)
    | '`' :: _ =>
      let p ← backquote true fuel
      return p :: (← quotedPieces q depth fuel)
    | c :: _ =>
      drop 1
      return consQuoted (String.singleton c) (← quotedPieces q (deepen depth c) fuel)

def dollar (inQuotes : Bool) : Nat → Read Piece
  | 0 => fail "Syntax error: too long"
  | fuel + 1 => do
    match ← rest with
    | '$' :: '(' :: '(' :: _ =>
      let saved ← get
      drop 3
      let inner ← quotedPieces .arithmetic 0 fuel
      if ← accept "))" then return .number inner inQuotes
      set saved
      output inQuotes fuel
    | '$' :: '(' :: _ => output inQuotes fuel
    | '$' :: '{' :: _ =>
      drop 2
      parameter inQuotes fuel
    | '$' :: c :: cs =>
      if isNameStart c then
        let name := (c :: cs).takeWhile isNameChar
        drop (name.length + 1)
        return .parameter (String.ofList name) .value inQuotes
      else if c.isDigit || isSpecial c then
        drop 2
        return .parameter (String.singleton c) .value inQuotes
      else
        drop 1
        return .quoted "$"
    | _ =>
      drop 1
      return .quoted "$"

def output (inQuotes : Bool) : Nat → Read Piece
  | 0 => fail "Syntax error: too long"
  | fuel + 1 => do
    drop 2
    let commands ← items fuel
    skipSpace
    if !(← accept ")") then unexpected (some ")")
    return .output (.mk commands none) inQuotes

def backquote (inQuotes : Bool) : Nat → Read Piece
  | 0 => fail "Syntax error: too long"
  | fuel + 1 => do
    drop 1
    match backquoted (← rest) with
    | none => fail "Syntax error: EOF in backquote substitution"
    | some (inner, n) =>
      drop n
      let after ← rest
      modify fun s => { s with rest := inner }
      let commands ← items fuel
      if !(← rest).isEmpty then unexpected none
      modify fun s => { s with rest := after }
      return .output (.mk commands none) inQuotes

def parameter (inQuotes : Bool) : Nat → Read Piece
  | 0 => fail "Syntax error: too long"
  | fuel + 1 => do
    let cs ← rest
    let measured := cs.head? == some '#' && cs[1]?.any fun c => isNameChar c || isSpecial c
    let measured := measured && cs[1]? != some '}'
    let cs := if measured then cs.drop 1 else cs
    let name := match cs with
      | c :: more =>
        if isNameStart c then (c :: more).takeWhile isNameChar
        else if c.isDigit then (c :: more).takeWhile Char.isDigit
        else if isSpecial c then [c]
        else []
      | [] => []
    if cs.isEmpty then fail Quotation.braces.unterminated
    if name.isEmpty then fail "Bad substitution"
    drop (name.length + (if measured then 1 else 0))
    let name := String.ofList name
    if measured then
      if !(← accept "\x7d") then fail "Bad substitution"
      return .parameter name .length inQuotes
    if ← accept "\x7d" then return .parameter name .value inQuotes
    let orEmpty ← accept ":"
    let word (quoted : Bool) : Read Word := do
      let w ← if quoted then quotedPieces .braces 0 fuel else pieces true fuel
      drop 1
      return w
    let use ← match ← rest with
      | '-' :: _ => drop 1; pure (Use.orElse orEmpty (← word inQuotes))
      | '=' :: _ => drop 1; pure (Use.orAssign orEmpty (← word inQuotes))
      | '?' :: _ => drop 1; pure (Use.orFail orEmpty (← word inQuotes))
      | '+' :: _ => drop 1; pure (Use.ifSet orEmpty (← word inQuotes))
      | '#' :: '#' :: _ => drop 2; pure (Use.dropFront true (← word false))
      | '#' :: _ => drop 1; pure (Use.dropFront false (← word false))
      | '%' :: '%' :: _ => drop 2; pure (Use.dropEnd true (← word false))
      | '%' :: _ => drop 1; pure (Use.dropEnd false (← word false))
      | [] => fail Quotation.braces.unterminated
      | _ => fail "Bad substitution"
    return .parameter name use inQuotes

def word? : Nat → Read (Option Word)
  | 0 => fail "Syntax error: too long"
  | fuel + 1 => do
    skipSpace
    match ← rest with
    | [] => return none
    | c :: _ =>
      if isMeta c then return none
      let w ← pieces false fuel
      return some w

def word : Nat → Read Word
  | 0 => fail "Syntax error: too long"
  | fuel + 1 => do
    match ← word? fuel with
    | some w => return w
    | none => unexpected none

/-- Reads the bodies of the here-documents announced on the line that has just ended. -/
def documents : Nat → Read Unit
  | 0 => fail "Syntax error: too long"
  | fuel + 1 => do
    match (← get).announced with
    | [] => return
    | a :: others =>
      let lines := (String.ofList (← rest)).splitOn "\n"
      let (body, taken) := documentLines a lines
      let text := String.join (body.map (· ++ "\n"))
      let after := ("\n".intercalate (lines.drop taken)).toList
      let number := (← get).line + taken
      let w ← if a.literal then pure [.quoted text] else do
        modify fun s => { s with rest := text.toList }
        quotedPieces .document 0 fuel
      modify fun s =>
        { s with rest := after, line := number, announced := others, documents := (a.number, w) :: s.documents }
      documents fuel

/-- Drops a line end and reads the here-documents after it. -/
def lineEnd : Nat → Read Bool
  | 0 => fail "Syntax error: too long"
  | fuel + 1 => do
    skipSpace
    if ← accept "\n" then
      documents fuel
      return true
    else return false

def lineEnds : Nat → Read Unit
  | 0 => fail "Syntax error: too long"
  | fuel + 1 => do if ← lineEnd fuel then lineEnds fuel

def redirection? : Nat → Read (Option Redirection)
  | 0 => fail "Syntax error: too long"
  | fuel + 1 => do
    skipSpace
    let cs ← rest
    let digits := cs.takeWhile Char.isDigit
    match cs.dropWhile Char.isDigit with
    | c :: _ =>
      if c != '<' && c != '>' then return none
      drop digits.length
      let descriptor := if digits.isEmpty then (if c == '<' then 0 else 1)
        else digits.foldl (fun n d => n * 10 + (d.toNat - '0'.toNat)) 0
      let target ←
        if ← facing "<<<" then do
          drop 2
          fail "Syntax error: redirection unexpected"
        else if ← accept "<<-" then announce true fuel
        else if ← accept "<<" then announce false fuel
        else if ← accept "<&" then pure (Target.duplicate (← word fuel))
        else if ← accept ">&" then pure (Target.duplicate (← word fuel))
        else if ← accept "<>" then pure (Target.readWriteFile (← word fuel))
        else if ← accept ">>" then pure (Target.appendFile (← word fuel))
        else if ← accept ">|" then pure (Target.writeFile (← word fuel))
        else if ← accept "<" then pure (Target.readFile (← word fuel))
        else do
          drop 1
          pure (Target.writeFile (← word fuel))
      return some (.mk descriptor target)
    | [] => return none

def announce (dedented : Bool) : Nat → Read Target
  | 0 => fail "Syntax error: too long"
  | fuel + 1 => do
    let w ← word fuel
    let s ← get
    let number := s.announced.length + s.documents.length
    let a : Announced := ⟨number, plainText w, dedented, hasQuotes w⟩
    set { s with announced := s.announced ++ [a] }
    return .hereDocument number

def redirections : Nat → Read (List Redirection)
  | 0 => fail "Syntax error: too long"
  | fuel + 1 => do
    match ← redirection? fuel with
    | some r => return r :: (← redirections fuel)
    | none => return []

def simple (line : Nat) (assignments : List (String × Word)) (words : List Word) (rs : List Redirection) :
    Nat → Read Command
  | 0 => fail "Syntax error: too long"
  | fuel + 1 => do
    match ← redirection? fuel with
    | some r => simple line assignments words (rs ++ [r]) fuel
    | none =>
      match ← word? fuel with
      | none =>
        if assignments.isEmpty && words.isEmpty && rs.isEmpty then unexpected none
        if words.length == 1 && assignments.isEmpty && rs.isEmpty then
          if ← accept "(" then
            skipSpace
            if ← facing ")" then fail "Syntax error: Bad function name"
            unexpected (some ")")
        return .simple line assignments words rs
      | some w =>
        match words, assignment? w with
        | [], some (name, value) => simple line (assignments ++ [(name, value)]) [] rs fuel
        | _, _ => simple line assignments (words ++ [w]) rs fuel

/-- Reads a list of commands up to a word that closes it. -/
def body : Nat → Read Command
  | 0 => fail "Syntax error: too long"
  | fuel + 1 => do
    let cs ← items fuel
    if cs.isEmpty && !(← rest).isEmpty then unexpected none
    return .sequence cs

def conditional : Nat → Read (Command × Command × Option Command)
  | 0 => fail "Syntax error: too long"
  | fuel + 1 => do
    let test ← body fuel
    expectWord "then"
    let yes ← body fuel
    if ← acceptWord "elif" then
      let (test', yes', no') ← conditional fuel
      return (test, yes, some (.conditional test' yes' no' []))
    else if ← acceptWord "else" then
      let no ← body fuel
      expectWord "fi"
      return (test, yes, some no)
    else
      expectWord "fi"
      return (test, yes, none)

/-- Reads words up to the end of a line or a semicolon. -/
def words : Nat → Read (List Word)
  | 0 => fail "Syntax error: too long"
  | fuel + 1 => do
    match ← word? fuel with
    | some w => return w :: (← words fuel)
    | none => return []

/-- Reads the patterns of a branch up to its parenthesis. -/
def patterns : Nat → Read (List Word)
  | 0 => fail "Syntax error: too long"
  | fuel + 1 => do
    let w ← word fuel
    skipSpace
    if ← accept "|" then return w :: (← patterns fuel)
    if !(← accept ")") then unexpected (some ")")
    return [w]

/-- Reads the branches of a choice up to its end. -/
def branches : Nat → Read (List (List Word × Command))
  | 0 => fail "Syntax error: too long"
  | fuel + 1 => do
    lineEnds fuel
    if ← acceptWord "esac" then return []
    if (← rest).isEmpty then unexpected (some ")")
    let _ ← accept "("
    let ps ← patterns fuel
    let cs ← items fuel
    skipSpace
    if ← accept ";;" then return (ps, .sequence cs) :: (← branches fuel)
    if (← rest).isEmpty then unexpected (some ";;")
    expectWord "esac"
    return [(ps, .sequence cs)]

def command : Nat → Read Command
  | 0 => fail "Syntax error: too long"
  | fuel + 1 => do
    let keyword ← bareWord
    let line := (← get).line
    if ← accept "(" then
      let b ← body fuel
      skipSpace
      if !(← accept ")") then unexpected (some ")")
      return .subshell b (← redirections fuel)
    match keyword with
    | "\x7b" =>
      drop 1
      let b ← body fuel
      expectWord "\x7d"
      return .group b (← redirections fuel)
    | "if" =>
      drop 2
      let (test, yes, no) ← conditional fuel
      return .conditional test yes no (← redirections fuel)
    | "while" =>
      drop 5
      let test ← body fuel
      expectWord "do"
      let b ← body fuel
      expectWord "done"
      return .loop true test b (← redirections fuel)
    | "until" =>
      drop 5
      let test ← body fuel
      expectWord "do"
      let b ← body fuel
      expectWord "done"
      return .loop false test b (← redirections fuel)
    | "for" =>
      drop 3
      let name ← bareWord
      if !(name.toList.head?.any isNameStart && name.toList.all isNameChar) then
        fail "Syntax error: Bad for loop variable"
      drop name.length
      lineEnds fuel
      let ws ← if ← acceptWord "in" then do
          let ws ← words fuel
          skipSpace
          if !(← accept ";") then
            if !(← facing "\n") then unexpected none
          pure (some ws)
        else do
          skipSpace
          let _ ← accept ";"
          pure none
      lineEnds fuel
      expectWord "do"
      let b ← body fuel
      expectWord "done"
      return .each name ws b (← redirections fuel)
    | "case" =>
      drop 4
      let w ← word fuel
      lineEnds fuel
      expectWord "in"
      let bs ← branches fuel
      return .choose w bs (← redirections fuel)
    | _ =>
      if closing.contains keyword then unexpected none
      let after := ((← rest).drop keyword.length).dropWhile fun c => c == ' ' || c == '\t'
      let isName := keyword.toList.head?.any isNameStart && keyword.toList.all isNameChar
      match after with
      | '(' :: more =>
        match isName, more.dropWhile fun c => c == ' ' || c == '\t' with
        | true, ')' :: others =>
          drop ((← rest).length - others.length)
          lineEnds fuel
          return .function keyword (← command fuel)
        | _, _ => simple line [] [] [] fuel
      | _ => simple line [] [] [] fuel

def piped : Nat → Read (List Command)
  | 0 => fail "Syntax error: too long"
  | fuel + 1 => do
    let c ← command fuel
    skipSpace
    if (← facing "|") && !(← facing "||") then
      drop 1
      lineEnds fuel
      return c :: (← piped fuel)
    else return [c]

def pipeline : Nat → Read Command
  | 0 => fail "Syntax error: too long"
  | fuel + 1 => do
    if ← acceptWord "!" then return .negated (← pipeline fuel)
    match ← piped fuel with
    | [c] => return c
    | cs => return .pipeline cs

/-- Reads what follows a pipeline in a conditional list. -/
def chained (first : Command) : Nat → Read Command
  | 0 => fail "Syntax error: too long"
  | fuel + 1 => do
    skipSpace
    if ← accept "&&" then
      lineEnds fuel
      chained (.both first (← pipeline fuel)) fuel
    else if ← accept "||" then
      lineEnds fuel
      chained (.either first (← pipeline fuel)) fuel
    else return first

/-- Reads the commands of one line, separated by semicolons and ampersands. -/
def line : Nat → Read (List Command)
  | 0 => fail "Syntax error: too long"
  | fuel + 1 => do
    let c ← chained (← pipeline fuel) fuel
    skipSpace
    if ← facing ";;" then return [c]
    let background := (← facing "&")
    let separated ← if background then accept "&" else accept ";"
    let c := if background then Command.background c else c
    if !separated then return [c]
    skipSpace
    match ← rest with
    | [] => return [c]
    | '\n' :: _ => return [c]
    | ')' :: _ => return [c]
    | _ =>
      if closing.contains (← bareWord) || (← facing ";;") then return [c]
      return c :: (← line fuel)

/-- Reads commands on any number of lines, up to what ends them. -/
def items : Nat → Read (List Command)
  | 0 => fail "Syntax error: too long"
  | fuel + 1 => do
    lineEnds fuel
    match ← rest with
    | [] => return []
    | ')' :: _ => return []
    | ';' :: ';' :: _ => return []
    | _ =>
      if closing.contains (← bareWord) then return []
      let cs ← line fuel
      if ← lineEnd fuel then return cs ++ (← items fuel)
      return cs

end

/-- Reads complete commands, one line of them at a time, up to the end or the first error. -/
def lines (fuel : Nat) : Nat → ReaderState → Program × List (Nat × Word)
  | 0, s => (.mk [] none, s.documents)
  | n + 1, s =>
    let next : Read (Option (List Command)) := do
      lineEnds fuel
      if (← rest).isEmpty then return none
      let cs ← line fuel
      if !(← lineEnd fuel) then
        if !(← rest).isEmpty then unexpected none
      return some cs
    match next.run s with
    | .error e => (.mk [] (some e), s.documents)
    | .ok (none, s) => (.mk [] none, s.documents)
    | .ok (some cs, s) =>
      match lines fuel n s with
      | (.mk more e, ds) => (.mk (.sequence cs :: more) e, ds)

end Read

/-- The program of a text, and the bodies of its here-documents. -/
def Program.ofText (text : String) : Program × List (Nat × Word) :=
  let fuel := 40 * (text.length + 10)
  Read.lines fuel (text.length + 1) ⟨text.toList, 1, [], []⟩

end Acceptance.Shell
