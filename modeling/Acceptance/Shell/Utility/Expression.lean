import Acceptance.Pattern.Parser
import Acceptance.Shell.Process

/-!
# Regular expressions of utilities

Basic and extended regular expressions are brought into the notation of `Pattern`, in which a mark with a meaning
never needs a backslash. Utilities look at bytes: each byte is read as one character, which is a letter, a digit or the
like only if it stands for an ASCII character.
-/

namespace Acceptance.Shell.Utility

/-- Where the characters of the bytes begin that stand for no ASCII character. -/
def byteBase : Nat := 0xE000

def byteChars (bytes : List UInt8) : List Char :=
  bytes.map fun b => if b < 128 then Char.ofNat b.toNat else Char.ofNat (byteBase + b.toNat)

def charBytes (cs : List Char) : List UInt8 :=
  cs.map fun c => UInt8.ofNat (if c.toNat < 128 then c.toNat else c.toNat - byteBase)

def textChars (text : String) : List Char := byteChars (encode text)

/-- Why an expression has no meaning. -/
inductive ExpressionFault where
  | trailingBackslash
  | unmatchedBracket
  | unmatchedOpen
  | unmatchedClose
  | unmatchedBrace
  | badRepetition
  | badClass
  | misplacedClass
  | badRange
  /-- Nothing but an opening bracket. -/
  | loneBracket
deriving DecidableEq

namespace ExpressionFault

def words : ExpressionFault → String
  | trailingBackslash => "Trailing backslash"
  | unmatchedBracket => "Unmatched [, [^, [:, [., or [="
  | unmatchedOpen => "Unmatched ( or \\("
  | unmatchedClose => "Unmatched ) or \\)"
  | unmatchedBrace => "Unmatched \\\x7b"
  | badRepetition => "Invalid content of \\\x7b\\\x7d"
  | badClass => "Invalid character class name"
  | misplacedClass => "character class syntax is [[:space:]], not [:space:]"
  | badRange => "Invalid range end"
  | loneBracket => "Invalid regular expression"

end ExpressionFault

namespace Expression

/-- The characters that have a meaning in the notation of `Pattern`. -/
def marks : List Char := ['\\', '.', '+', '*', '?', '(', ')', '|', '[', ']', '{', '}', '^', '$', '#', '&', '-', '~']

def escaped (c : Char) : List Char := if marks.contains c then ['\\', c] else [c]

/-- The names of the classes that a bracket expression can hold. -/
def classNames : List String :=
  ["alnum", "alpha", "blank", "cntrl", "digit", "graph", "lower", "print", "punct", "space", "upper", "xdigit"]

/-- The inside of a bracket expression in the notation of `Pattern`, and what follows it. -/
def bracketInside (first : Bool) : List Char → Except ExpressionFault (List Char × List Char)
  | [] => .error .unmatchedBracket
  | ']' :: cs =>
    if first then do
      let (a, b) ← bracketInside false cs
      return ('\\' :: ']' :: a, b)
    else .ok ([], cs)
  | '[' :: ':' :: cs =>
    match cs.dropWhile (· != ':') with
    | ':' :: ']' :: _ => do
      if !classNames.contains (String.ofList (cs.takeWhile (· != ':'))) then throw .badClass
      let (a, b) ← bracketInside false cs
      return ('[' :: ':' :: a, b)
    | _ => do
      let (a, b) ← bracketInside false cs
      return ('\\' :: '[' :: ':' :: a, b)
  | ':' :: ']' :: ']' :: cs => .ok ([':', ']'], cs)
  | ':' :: ']' :: cs => do
    let (a, b) ← bracketInside false cs
    return (':' :: ']' :: a, b)
  | c :: cs => do
    let (a, b) ← bracketInside false cs
    return ((if c == '-' then [c] else escaped c) ++ a, b)

/-- A bracket expression after its opening bracket, and what follows it. -/
def bracket (cs : List Char) : Except ExpressionFault (List Char × List Char) := do
  match cs with
  | [] => throw .loneBracket
  | '^' :: more =>
    let (a, b) ← bracketInside true more
    return ('[' :: '^' :: a ++ [']'], b)
  | ':' :: more =>
    match more.dropWhile (· != ']') with
    | ']' :: _ =>
      if (more.takeWhile (· != ']')).getLast? == some ':' then throw .misplacedClass
    | _ => throw .unmatchedBracket
    let (a, b) ← bracketInside true cs
    return ('[' :: a ++ [']'], b)
  | _ =>
    let (a, b) ← bracketInside true cs
    return ('[' :: a ++ [']'], b)

/-- What a character means in a regular expression. -/
inductive Meaning where
  /-- A mark of its own, such as a repetition. -/
  | mark
  /-- Itself. -/
  | literal
deriving DecidableEq

/-- The meaning of a character that is a mark in one kind of expression with a backslash, in the other without. -/
def meaning (extended backslash : Bool) (c : Char) : Option Meaning :=
  if ['(', ')', '{', '}', '|', '+', '?'].contains c then
    some (if extended != backslash then .mark else .literal)
  else none

/-- Bounds of a repetition after the opening brace, and what follows the closing one, if the braces hold bounds. -/
def bounds (extended : Bool) (cs : List Char) : Option (Option (Nat × Option Nat) × List Char) :=
  let inside := cs.takeWhile fun c => c != (if extended then '}' else '\\')
  let rest := cs.drop inside.length
  let rest? := match extended, rest with
    | true, '}' :: rest => some rest
    | false, '\\' :: '}' :: rest => some rest
    | _, _ => none
  rest?.map fun rest =>
    let low := inside.takeWhile Char.isDigit
    let n := (String.ofList low).toNat?
    match inside.drop low.length with
    | [] => (n.map fun n => (n, some n), rest)
    | ',' :: high =>
      if high.isEmpty then (some (n.getD 0, none), rest)
      else match (String.ofList high).toNat? with
        | some m => (if n.getD 0 ≤ m then some (n.getD 0, some m) else none, rest)
        | none => (none, rest)
    | _ => (none, rest)

def boundsText (b : Nat × Option Nat) : List Char :=
  "\x7b".toList ++ (toString b.1 ++ "," ++ b.2.elim "" toString).toList ++ "\x7d".toList

/-- An expression in the notation of `Pattern`, where so many groups are open in front of it. At the start of an
expression, group or alternative a star stands for itself, and in a basic expression a caret is a mark only there. -/
def patternText (extended : Bool) (fuel depth : Nat) (start : Bool) (cs : List Char) :
    Except ExpressionFault (List Char) :=
  match fuel, cs with
  | 0, _ => .ok []
  | _, [] => if depth == 0 then .ok [] else .error .unmatchedOpen
  | _, ['\\'] => .error .trailingBackslash
  | fuel + 1, '[' :: rest => do
    let (text, rest) ← bracket rest
    return text ++ (← patternText extended fuel depth false rest)
  | fuel + 1, c :: rest => do
    let backslash := c == '\\'
    let c := if backslash then rest.headD c else c
    let rest := if backslash then rest.drop 1 else rest
    match meaning extended backslash c with
    | some .literal => return '\\' :: c :: (← patternText extended fuel depth false rest)
    | some .mark =>
      if c == '(' then return c :: (← patternText extended fuel (depth + 1) true rest)
      else if c == '|' then return c :: (← patternText extended fuel depth true rest)
      else if c == ')' then
        if 0 < depth then return c :: (← patternText extended fuel (depth - 1) false rest)
        else if extended then return '\\' :: c :: (← patternText extended fuel depth false rest)
        else throw .unmatchedClose
      else if c == '{' then
        match bounds extended rest with
        | some (some b, rest) => return boundsText b ++ (← patternText extended fuel depth false rest)
        | some (none, _) => throw .badRepetition
        | none =>
          if extended then return '\\' :: c :: (← patternText extended fuel depth false rest)
          else throw .unmatchedBrace
      else if c == '}' then return '\\' :: c :: (← patternText extended fuel depth false rest)
      else return c :: (← patternText extended fuel depth false rest)
    | none =>
      if backslash then
        let text := if ['w', 'W', 's', 'S', 'b', 'B', '<', '>'].contains c then ['\\', c] else escaped c
        return text ++ (← patternText extended fuel depth false rest)
      else if c == '*' then
        return (if start then ['\\', '*'] else ['*']) ++ (← patternText extended fuel depth false rest)
      else if c == '^' then
        return (if extended || start then ['^'] else ['\\', '^']) ++ (← patternText extended fuel depth start rest)
      else if c == '$' then
        let ended := match rest with
          | [] => true
          | '\\' :: ')' :: _ => true
          | '\\' :: '|' :: _ => true
          | _ => extended
        return (if ended then ['$'] else ['\\', '$']) ++ (← patternText extended fuel depth false rest)
      else if c == '.' then return '.' :: (← patternText extended fuel depth false rest)
      else return escaped c ++ (← patternText extended fuel depth false rest)

/-- The pattern of a text in the notation of `Pattern`. -/
def compile (ignoringCase : Bool) (text : List Char) : Except ExpressionFault Pattern :=
  let text := if ignoringCase then "(?i)".toList ++ text else text
  match Pattern.ofText (String.ofList text) with
  | .ok p => .ok p
  | .error _ => .error .badRange

/-- The places where matches that begin at a place can end, if there are any; the last of them. -/
def longest? (patterns : List Pattern) (text : Array Char) (i : Nat) : Option Nat :=
  (patterns.flatMap fun p => p.ends text i).max?

end Expression

end Acceptance.Shell.Utility
