import Acceptance.Shell.Utility.Edit

/-!
# Calculating with arguments

Every argument is an operand or an operator. Values are texts; arithmetic wants numbers, comparisons are between numbers
if both sides are numbers, and a match of a text with an expression gives the group of the expression or the length of
the match.
-/

namespace Acceptance.Shell.Utility

open Process

/-- Why arguments have no value. -/
inductive CalculationFault where
  | missingAfter (arg : String)
  | unexpected (arg : String)
  | expectedClosing (arg : String)
  | notNumber
  | zeroDivisor
  | badExpression (cause : ExpressionFault)

namespace CalculationFault

def words : CalculationFault → String
  | missingAfter arg => s!"syntax error: missing argument after {inQuotes arg}"
  | unexpected arg => s!"syntax error: unexpected argument {inQuotes arg}"
  | expectedClosing arg => s!"syntax error: expecting ')' after {inQuotes arg}"
  | notNumber => "non-integer argument"
  | zeroDivisor => "division by zero"
  | badExpression cause => cause.words

end CalculationFault

namespace Calculation

def number? (text : String) : Option Int :=
  match text.toList with
  | '-' :: cs => if cs.all Char.isDigit then ((String.ofList cs).toNat?).map fun n => -(n : Int) else none
  | cs => if cs.all Char.isDigit then ((String.ofList cs).toNat?).map fun n => (n : Int) else none

def number (text : String) : Except CalculationFault Int := (number? text).elim (.error .notNumber) .ok

def isNull (text : String) : Bool := text == "" || number? text == some 0

/-- Operators by how closely they bind, the loosest first. -/
def levels : List (List String) :=
  [["|"], ["&"], ["=", "==", "!=", "<", "<=", ">", ">="], ["+", "-"], ["*", "/", "%"], [":"]]

/-- The value of a match at the front of a text. -/
def matchValue (text expression : String) : Except CalculationFault String :=
  match Edit.pieces false false ('^' :: textChars expression) with
  | .error cause => .error (.badExpression cause)
  | .ok pieces =>
    let chars := (textChars text).toArray
    let hasGroup := pieces.any (·.1)
    match (Edit.endsOf chars pieces 0).max? with
    | none => .ok (if hasGroup then "" else "0")
    | some stop =>
      match Edit.groupsOf chars stop pieces 0 with
      | (a, b) :: _ => .ok (decode (charBytes (chars.extract a b).toList))
      | [] => .ok (toString stop)

def compare (operator a b : String) : Bool :=
  let less := match number? a, number? b with
    | some x, some y => decide (x < y)
    | _, _ => decide (a < b)
  let same := match number? a, number? b with
    | some x, some y => x == y
    | _, _ => a == b
  match operator with
  | "!=" => !same
  | "<" => less
  | "<=" => less || same
  | ">" => !(less || same)
  | ">=" => !less
  | _ => same

def apply (operator a b : String) : Except CalculationFault String := do
  match operator with
  | "|" => return if isNull a then (if isNull b then "0" else b) else a
  | "&" => return if isNull a || isNull b then "0" else a
  | ":" => matchValue a b
  | "+" => return toString ((← number a) + (← number b))
  | "-" => return toString ((← number a) - (← number b))
  | "*" => return toString ((← number a) * (← number b))
  | "/" =>
    let x ← number a
    let y ← number b
    if y == 0 then throw .zeroDivisor
    return toString (x.tdiv y)
  | "%" =>
    let x ← number a
    let y ← number b
    if y == 0 then throw .zeroDivisor
    return toString (x.tmod y)
  | _ => return if compare operator a b then "1" else "0"

def part (text position length : String) : String :=
  match number? position, number? length with
  | some p, some n =>
    if p ≤ 0 || n ≤ 0 then "" else decode (((encode text).drop (p.toNat - 1)).take n.toNat)
  | _, _ => ""

mutual

/-- The value of arguments whose operators bind as closely as the first of the given levels, and the arguments after
them. `last` is the argument before them. -/
def value : Nat → List (List String) → String → List String → Except CalculationFault (String × List String)
  | 0, _, last, _ => .error (.missingAfter last)
  | fuel + 1, [], last, args => operand fuel last args
  | fuel + 1, operators :: tighter, last, args => do
    let (a, rest) ← value fuel tighter last args
    chain fuel operators tighter a rest

/-- Applies operators of one level from left to right. -/
def chain : Nat → List String → List (List String) → String → List String →
    Except CalculationFault (String × List String)
  | 0, _, _, a, rest => .ok (a, rest)
  | fuel + 1, operators, tighter, a, rest => do
    match rest with
    | operator :: more =>
      if operators.contains operator then
        let (b, rest) ← value fuel tighter operator more
        chain fuel operators tighter (← apply operator a b) rest
      else return (a, rest)
    | [] => return (a, rest)

def operand : Nat → String → List String → Except CalculationFault (String × List String)
  | 0, last, _ => .error (.missingAfter last)
  | _, last, [] => .error (.missingAfter last)
  | fuel + 1, _, arg :: args => do
    match arg, args with
    | "(", _ =>
      let (a, rest) ← value fuel levels arg args
      match rest with
      | ")" :: rest => return (a, rest)
      | next :: _ => throw (.expectedClosing next)
      | [] => throw (.expectedClosing a)
    | "length", text :: rest => return (toString text.utf8ByteSize, rest)
    | "match", text :: expression :: rest => return (← matchValue text expression, rest)
    | "substr", text :: position :: length :: rest => return (part text position length, rest)
    | "index", text :: chars :: rest =>
      let before := text.toList.takeWhile (!chars.toList.contains ·)
      return (if before.length == text.length then "0" else toString (before.length + 1), rest)
    | ")", _ => throw (.unexpected arg)
    | _, _ => return (arg, args)

end

end Calculation

/-- Writes the value of arguments; fails if it counts as false. -/
def expr : Utility := fun args => do
  let args := if args.head? == some "--" then args.drop 1 else args
  if args.isEmpty then
    complainOfUse "missing operand"
    return 2
  let fuel := (args.length + 1) * (Calculation.levels.length + 4)
  match Calculation.value fuel Calculation.levels "" args with
  | .error cause =>
    complain cause.words
    return 2
  | .ok (value, []) =>
    say (value ++ "\n")
    return if Calculation.isNull value then 1 else 0
  | .ok (_, arg :: _) =>
    complain (CalculationFault.unexpected arg).words
    return 2

end Acceptance.Shell.Utility
