import Acceptance.Pattern.Basic

/-!
# Reading patterns

A pattern is read in one pass from left to right. Open groups wait on a stack, and so do open classes in brackets.
Flags such as `(?i)` hold to the end of the group they stand in. Look-around and references to groups are refused, and
so is every escape of a letter that has no meaning.
-/

namespace Acceptance

/-- Why a text is not a pattern. -/
inductive PatternError where
  | unclosedGroup
  | unopenedGroup
  | unclosedClass
  | badClassRange
  | badClassItem
  | nothingToRepeat
  | badRepetition
  | unclosedRepetition
  | badEscape
  | badCodePoint
  | lookAround
  | reference
  | badGroupName
  | badFlags
  | badBoundary
  | notText
  | tooDeep
  | tooLarge
deriving DecidableEq, Repr

namespace PatternError

def message : PatternError → String
  | tooLarge => "Compiled regex exceeds size limit of 10485760 bytes."
  | _ => "regex parse error:"

end PatternError

/-- What may be switched inside a pattern. -/
structure PatternFlags where
  anyCase : Bool
  manyLines : Bool
  dotNewline : Bool
  unicode : Bool
  spaced : Bool
  carriageReturns : Bool
deriving Repr

namespace PatternFlags

def initial : PatternFlags := ⟨false, false, false, true, false, false⟩

/-- Switches the flag of a letter; a letter that only prefers short matches changes nothing. -/
def switch (f : PatternFlags) (on : Bool) : Char → Option PatternFlags
  | 'i' => some { f with anyCase := on }
  | 'm' => some { f with manyLines := on }
  | 's' => some { f with dotNewline := on }
  | 'u' => some { f with unicode := on }
  | 'x' => some { f with spaced := on }
  | 'R' => some { f with carriageReturns := on }
  | 'U' => some f
  | _ => none

/-- The forms of a set that the flags ask for. -/
def cased (f : PatternFlags) (s : CharSet) : CharSet := if f.anyCase then .anyCase s else s

end PatternFlags

namespace Pattern

/-- A part of a pattern that may also stand in a class. -/
inductive Atom where
  | literal (c : Char)
  | set (s : CharSet)
  | place (p : Place)

namespace Atom

/-- The set that an atom stands for in a class. -/
def inClass (f : PatternFlags) : Atom → Except PatternError CharSet
  | .literal c => .ok (f.cased (.single c))
  | .set s => .ok s
  | .place _ => .error .badClassItem

def pattern (f : PatternFlags) : Atom → Pattern
  | .literal c => .set (f.cased (.single c))
  | .set s => .set s
  | .place p => .place p

end Atom

def hexValue? (c : Char) : Option Nat :=
  if '0' ≤ c ∧ c ≤ '9' then some (c.toNat - '0'.toNat)
  else if 'a' ≤ c ∧ c ≤ 'f' then some (c.toNat - 'a'.toNat + 10)
  else if 'A' ≤ c ∧ c ≤ 'F' then some (c.toNat - 'A'.toNat + 10)
  else none

def codePoint (digits : List Char) : Except PatternError Char :=
  match digits.mapM hexValue? with
  | none => .error .badCodePoint
  | some [] => .error .badCodePoint
  | some values =>
    let n := values.foldl (fun n d => min (n * 16 + d) 0x110000) 0
    if n.isValidChar then .ok (Char.ofNat n) else .error .badCodePoint

/-- Reads a code point: a fixed number of digits, or digits in braces. -/
def hexEscape (count : Nat) : List Char → Except PatternError (Atom × List Char)
  | '{' :: cs => do
    let digits := cs.takeWhile (· != '}')
    match cs.dropWhile (· != '}') with
    | _ :: rest => .ok (.literal (← codePoint digits), rest)
    | [] => .error .badEscape
  | cs => do
    if cs.length < count then .error .badEscape
    else .ok (.literal (← codePoint (cs.take count)), cs.drop count)

/-- The sets that letters stand for after a backslash. -/
def letterSet? (f : PatternFlags) (c : Char) : Option CharSet :=
  let choose (all ascii : List (Nat × Nat)) : CharSet := .ranges (if f.unicode then all else ascii)
  let digits := choose digitRanges [(0x30, 0x39)]
  let spaces := choose spaceRanges [(0x9, 0xD), (0x20, 0x20)]
  let words := choose wordRanges [(0x30, 0x39), (0x41, 0x5A), (0x5F, 0x5F), (0x61, 0x7A)]
  match c with
  | 'd' => some digits
  | 'D' => some (.compl digits)
  | 's' => some spaces
  | 'S' => some (.compl spaces)
  | 'w' => some words
  | 'W' => some (.compl words)
  | _ => none

/-- The control characters that letters stand for after a backslash. -/
def letterControl? : Char → Option Char
  | 'a' => some '\x07'
  | 'f' => some '\x0C'
  | 't' => some '\t'
  | 'n' => some '\n'
  | 'r' => some '\r'
  | 'v' => some '\x0B'
  | _ => none

def boundaryNamed? (name : String) : Option Place :=
  [("start", Place.wordStart), ("end", .wordEnd), ("start-half", .wordStartHalf),
   ("end-half", .wordEndHalf)].lookup name

/-- Reads what follows `\b`: a name in braces, or nothing. -/
def boundary (cs : List Char) : Except PatternError (Atom × List Char) :=
  match cs with
  | '{' :: inner =>
    let isNameChar (c : Char) := c.isAlpha || c == '-'
    if inner.head?.any isNameChar then
      match inner.dropWhile isNameChar, boundaryNamed? (String.ofList (inner.takeWhile isNameChar)) with
      | '}' :: rest, some p => .ok (.place p, rest)
      | _, _ => .error .badBoundary
    else .ok (.place .wordBoundary, cs)
  | _ => .ok (.place .wordBoundary, cs)

/-- Whether a character other than a letter with a meaning may stand after a backslash for itself. -/
def isEscapable (c : Char) : Bool := c.toNat < 0x80 && !c.isAlphanum && c != '<' && c != '>'

def escape (f : PatternFlags) : List Char → Except PatternError (Atom × List Char)
  | [] => .error .badEscape
  | c :: cs =>
    if c.isDigit then .error .reference
    else if c = 'x' then hexEscape 2 cs
    else if c = 'u' then hexEscape 4 cs
    else if c = 'U' then hexEscape 8 cs
    else if let some s := letterSet? f c then .ok (.set s, cs)
    else if let some d := letterControl? c then .ok (.literal d, cs)
    else if isEscapable c then .ok (.literal c, cs)
    else match c with
      | 'A' => .ok (.place .textStart, cs)
      | 'z' => .ok (.place .textEnd, cs)
      | 'b' => boundary cs
      | 'B' => .ok (.place .notWordBoundary, cs)
      | '<' => .ok (.place .wordStart, cs)
      | '>' => .ok (.place .wordEnd, cs)
      | _ => .error .badEscape

/-! ### Classes -/

/-- The sets with names, which hold ASCII characters only. -/
def namedSets : List (String × List (Nat × Nat)) :=
  [("alnum", [(0x30, 0x39), (0x41, 0x5A), (0x61, 0x7A)]), ("alpha", [(0x41, 0x5A), (0x61, 0x7A)]),
   ("ascii", [(0x00, 0x7F)]), ("blank", [(0x09, 0x09), (0x20, 0x20)]), ("cntrl", [(0x00, 0x1F), (0x7F, 0x7F)]),
   ("digit", [(0x30, 0x39)]), ("graph", [(0x21, 0x7E)]), ("lower", [(0x61, 0x7A)]), ("print", [(0x20, 0x7E)]),
   ("punct", [(0x21, 0x2F), (0x3A, 0x40), (0x5B, 0x60), (0x7B, 0x7E)]), ("space", [(0x09, 0x0D), (0x20, 0x20)]),
   ("upper", [(0x41, 0x5A)]), ("word", [(0x30, 0x39), (0x41, 0x5A), (0x5F, 0x5F), (0x61, 0x7A)]),
   ("xdigit", [(0x30, 0x39), (0x41, 0x46), (0x61, 0x66)])]

/-- The named set that follows an opening bracket, if there is one. -/
def namedSet? (f : PatternFlags) : List Char → Option (CharSet × List Char)
  | ':' :: cs =>
    let negated := cs.head? == some '^'
    let cs := if negated then cs.drop 1 else cs
    match cs.dropWhile (· != ':'), namedSets.lookup (String.ofList (cs.takeWhile (· != ':'))) with
    | ':' :: ']' :: rest, some rs =>
      let s := f.cased (.ranges rs)
      some (if negated then .compl s else s, rest)
    | _, _ => none
  | _ => none

abbrev ClassOperator := CharSet → CharSet → CharSet

/-- A class that is still open. -/
structure OpenClass where
  negated : Bool
  items : CharSet
  /-- An operator with its left side. -/
  waiting : Option (CharSet × ClassOperator)

namespace OpenClass

def add (k : OpenClass) (s : CharSet) : OpenClass := { k with items := .union k.items s }

def combined (k : OpenClass) : CharSet :=
  match k.waiting with
  | none => k.items
  | some (left, op) => op left k.items

def operator (k : OpenClass) (op : ClassOperator) : OpenClass :=
  { k with items := .empty, waiting := some (k.combined, op) }

/-- The set of a class at its closing bracket. -/
def set (k : OpenClass) : CharSet := if k.negated then .compl k.combined else k.combined

/-- Reads the beginning of a class: a negation, hyphens, and a closing bracket that stands for itself. -/
def start (f : PatternFlags) (cs : List Char) : OpenClass × List Char :=
  let negated := cs.head? == some '^'
  let cs := if negated then cs.drop 1 else cs
  let rest := cs.dropWhile (· == '-')
  let k : OpenClass := ⟨negated, if rest.length < cs.length then .single '-' else .empty, none⟩
  if cs.head? == some ']' then (k.add (f.cased (.single ']')), cs.drop 1) else (k, rest)

end OpenClass

def classAtom (f : PatternFlags) : List Char → Except PatternError (Atom × List Char)
  | [] => .error .unclosedClass
  | '\\' :: cs => escape f cs
  | c :: cs => .ok (.literal c, cs)

/-- Reads a character, an escape or a range in a class. -/
def classRange (f : PatternFlags) (cs : List Char) : Except PatternError (CharSet × List Char) := do
  let (first, rest) ← classAtom f cs
  match rest with
  | [] => .error .unclosedClass
  | '-' :: after =>
    if after.head? == some ']' || after.head? == some '-' then .ok (← first.inClass f, rest)
    else if after.isEmpty then .error .unclosedClass
    else
      let (last, rest) ← classAtom f after
      match first, last with
      | .literal a, .literal b =>
        if a.toNat ≤ b.toNat then .ok (f.cased (.ranges [(a.toNat, b.toNat)]), rest) else .error .badClassRange
      | _, _ => .error .badClassRange
  | _ => .ok (← first.inClass f, rest)

/-- Reads classes up to the closing bracket of the outermost. -/
def classes (f : PatternFlags) (inner : OpenClass) (outer : List OpenClass) (cs : List Char) :
    Except PatternError (CharSet × List Char) :=
  let go (k : OpenClass) (ks : List OpenClass) (rest : List Char) : Except PatternError (CharSet × List Char) :=
    if rest.length < cs.length then classes f k ks rest else .error .unclosedClass
  match cs with
  | [] => .error .unclosedClass
  | '[' :: rest =>
    match namedSet? f rest with
    | some (s, rest) => go (inner.add s) outer rest
    | none =>
      let (k, rest) := OpenClass.start f rest
      go k (inner :: outer) rest
  | ']' :: rest =>
    match outer with
    | [] => .ok (inner.set, rest)
    | k :: ks => go (k.add inner.set) ks rest
  | '&' :: '&' :: rest => go (inner.operator .inter) outer rest
  | '-' :: '-' :: rest => go (inner.operator .without) outer rest
  | '~' :: '~' :: rest => go (inner.operator .exactlyOne) outer rest
  | _ =>
    if f.spaced && cs.head?.any Char.isWhitespace then go inner outer (cs.drop 1)
    else
      match classRange f cs with
      | .ok (s, rest) => go (inner.add s) outer rest
      | .error e => .error e
termination_by cs.length

def bracketed (f : PatternFlags) (cs : List Char) : Except PatternError (CharSet × List Char) :=
  let (k, rest) := OpenClass.start f cs
  classes f k [] rest

/-! ### Repetitions -/

def largestBound : Nat := 4294967295

def bound (cs : List Char) : Except PatternError (Nat × List Char) :=
  let cs := cs.dropWhile Char.isWhitespace
  let digits := cs.takeWhile Char.isDigit
  let rest := (cs.dropWhile Char.isDigit).dropWhile Char.isWhitespace
  let n := digits.foldl (fun n d => min (n * 10 + (d.toNat - '0'.toNat)) (largestBound + 1)) 0
  if digits.isEmpty || largestBound < n then .error .badRepetition else .ok (n, rest)

/-- Reads the bounds of a repetition after its opening brace. -/
def bounds (cs : List Char) : Except PatternError ((Nat × Option Nat) × List Char) := do
  let (least, rest) ← bound cs
  match rest with
  | '}' :: rest => .ok ((least, some least), rest)
  | ',' :: '}' :: rest => .ok ((least, none), rest)
  | ',' :: rest =>
    let (most, rest) ← bound rest
    match rest with
    | '}' :: rest => if least ≤ most then .ok ((least, some most), rest) else .error .badRepetition
    | _ => .error .unclosedRepetition
  | _ => .error .unclosedRepetition

/-- What is left after the mark of a repetition that prefers few. -/
def dropLazy : List Char → List Char
  | '?' :: cs => cs
  | cs => cs

/-! ### Groups -/

def isGroupName (name : List Char) : Bool :=
  match name with
  | [] => false
  | c :: cs =>
    let letter (c : Char) := c == '_' || (isWordChar c && !inRanges digitRanges c)
    letter c && cs.all fun c => letter c || inRanges digitRanges c || c == '.' || c == '[' || c == ']'

/-- Reads a group's name up to its closing mark. -/
def groupName (cs : List Char) : Except PatternError (String × List Char) :=
  match cs.dropWhile (· != '>') with
  | _ :: rest =>
    let name := cs.takeWhile (· != '>')
    if isGroupName name then .ok (String.ofList name, rest) else .error .badGroupName
  | [] => .error .badGroupName

/-- Reads flags up to a colon or a closing parenthesis, with the letters seen so far. -/
def flags (f : PatternFlags) (on : Bool) (seen : List Char) :
    List Char → Except PatternError ((PatternFlags × List Char) × List Char)
  | [] => .error .badFlags
  | '-' :: cs => if !on || cs.head? == some ':' || cs.head? == some ')' then .error .badFlags else flags f false seen cs
  | c :: cs =>
    if c = ':' || c = ')' then .ok ((f, seen), c :: cs)
    else if seen.contains c then .error .badFlags
    else match f.switch on c with
      | some f => flags f on (c :: seen) cs
      | none => .error .badFlags

/-- A part of a pattern that is still open: its alternatives so far, and the items of the current one, the last first.
An item without a pattern has switched flags. -/
structure OpenGroup where
  flags : PatternFlags
  alternatives : List Pattern
  items : List (Option Pattern)

namespace OpenGroup

def start (f : PatternFlags) : OpenGroup := ⟨f, [], []⟩

def add (g : OpenGroup) (p : Pattern) : OpenGroup := { g with items := some p :: g.items }

/-- The items of the current alternative in a row. -/
def sequence (g : OpenGroup) : Pattern := (g.items.filterMap id).foldl (fun rest p => .seq p rest) .empty

def branch (g : OpenGroup) : OpenGroup := { g with alternatives := g.sequence :: g.alternatives, items := [] }

def pattern (g : OpenGroup) : Pattern := g.alternatives.foldl (fun rest p => .alt p rest) g.sequence

def repeatLast (g : OpenGroup) (least : Nat) (most : Option Nat) : Except PatternError OpenGroup :=
  match g.items with
  | some p :: items => .ok { g with items := some (.repeated p least most) :: items }
  | _ => .error .nothingToRepeat

end OpenGroup

/-- What has been read of a pattern: the innermost open part, those around it, and the names of groups. -/
structure Progress where
  inner : OpenGroup
  outer : List OpenGroup
  names : List String

namespace Progress

def add (s : Progress) (p : Pattern) : Progress := { s with inner := s.inner.add p }

/-- Opens a group in which the given flags hold. -/
def openGroup (s : Progress) (f : PatternFlags) : Progress :=
  { s with inner := .start f, outer := s.inner :: s.outer }

def group (s : Progress) (cs : List Char) : Except PatternError (Progress × List Char) :=
  let f := s.inner.flags
  let named (rest : List Char) : Except PatternError (Progress × List Char) := do
    let (name, rest) ← groupName rest
    if s.names.contains name then .error .badGroupName
    else .ok ({ s.openGroup f with names := name :: s.names }, rest)
  match cs with
  | '?' :: '=' :: _ => .error .lookAround
  | '?' :: '!' :: _ => .error .lookAround
  | '?' :: '<' :: '=' :: _ => .error .lookAround
  | '?' :: '<' :: '!' :: _ => .error .lookAround
  | '?' :: 'P' :: '<' :: rest => named rest
  | '?' :: '<' :: rest => named rest
  | '?' :: rest => do
    let ((g, seen), rest) ← Pattern.flags f true [] rest
    match rest with
    | ')' :: rest =>
      if seen.isEmpty then .error .nothingToRepeat
      else .ok ({ s with inner := { s.inner with flags := g, items := none :: s.inner.items } }, rest)
    | _ => .ok (s.openGroup g, rest.drop 1)
  | _ => .ok (s.openGroup f, cs)

def closeGroup (s : Progress) : Except PatternError Progress :=
  match s.outer with
  | [] => .error .unopenedGroup
  | g :: outer => .ok { s with inner := g.add s.inner.pattern, outer }

def dot (f : PatternFlags) : CharSet :=
  if f.dotNewline then .compl .empty
  else if f.carriageReturns then .compl (.union (.single '\n') (.single '\r'))
  else .compl (.single '\n')

def step (s : Progress) : List Char → Except PatternError (Progress × List Char)
  | [] => .error .unclosedGroup
  | c :: cs =>
    let f := s.inner.flags
    let repeating (least : Nat) (most : Option Nat) (rest : List Char) :
        Except PatternError (Progress × List Char) := do
      .ok ({ s with inner := ← s.inner.repeatLast least most }, dropLazy rest)
    match c with
    | '(' => s.group cs
    | ')' => do .ok (← s.closeGroup, cs)
    | '|' => .ok ({ s with inner := s.inner.branch }, cs)
    | '[' => do
      let (k, rest) ← bracketed f cs
      .ok (s.add (.set k), rest)
    | '?' => repeating 0 (some 1) cs
    | '*' => repeating 0 none cs
    | '+' => repeating 1 none cs
    | '{' =>
      match s.inner.items with
      | some _ :: _ => do
        let ((least, most), rest) ← bounds cs
        repeating least most rest
      | _ => .error .nothingToRepeat
    | '.' => if f.unicode then .ok (s.add (.set (dot f)), cs) else .error .notText
    | '^' => .ok (s.add (.place (if f.manyLines then .lineStart else .textStart)), cs)
    | '$' => .ok (s.add (.place (if f.manyLines then .lineEnd else .textEnd)), cs)
    | '\\' => do
      let (atom, rest) ← escape f cs
      .ok (s.add (atom.pattern f), rest)
    | _ =>
      if f.spaced && c.isWhitespace then .ok (s, cs)
      else if f.spaced && c == '#' then .ok (s, cs.dropWhile (· != '\n'))
      else .ok (s.add (.set (f.cased (.single c))), cs)

def deepest : Nat := 250

def finish (s : Progress) (cs : List Char) : Except PatternError Pattern :=
  if cs.isEmpty then
    if s.outer.isEmpty then .ok s.inner.pattern else .error .unclosedGroup
  else
    match s.step cs with
    | .error e => .error e
    | .ok (t, rest) =>
      if deepest < t.outer.length then .error .tooDeep
      else if rest.length < cs.length then finish t rest
      else .error .badEscape
termination_by cs.length

end Progress

/-- The number of single characters that a pattern is made of when its repetitions are written out. -/
def extent : Pattern → Nat
  | .empty => 0
  | .set _ => 1
  | .place _ => 1
  | .seq a b => extent a + extent b
  | .alt a b => extent a + extent b + 1
  | .repeated p least most => (extent p + 1) * max 1 (most.getD (least + 1))

def largestExtent : Nat := 200000

def ofText (text : String) : Except PatternError Pattern := do
  let p ← Progress.finish ⟨.start .initial, [], []⟩ text.toList
  if largestExtent < p.extent then .error .tooLarge else .ok p

/-- The texts in which the pattern that a text is written for begins a match somewhere, or why it is no pattern. -/
def matcher (text : String) : Except String (String → Bool) :=
  match ofText text with
  | .ok p => .ok p.accepts
  | .error cause => .error cause.message

end Pattern

end Acceptance
