import Acceptance.Shell.Process

/-!
# Utilities that print

Printing of arguments, plain and by a format.
-/

namespace Acceptance.Shell.Utility

open Process

/-- What a text with backslashes stands for: its bytes, and whether `\c` ended all output. -/
structure Unescaped where
  bytes : List UInt8
  stopped : Bool

namespace Unescaped

def prepend (bytes : List UInt8) (u : Unescaped) : Unescaped := { u with bytes := bytes ++ u.bytes }

end Unescaped

/-- The control character that a letter stands for after a backslash. -/
def controlByte? : Char → Option UInt8
  | 'a' => some 7
  | 'b' => some 8
  | 'f' => some 12
  | 'n' => some 10
  | 'r' => some 13
  | 't' => some 9
  | 'v' => some 11
  | '\\' => some 92
  | _ => none

def octal (digits : List Char) : UInt8 := UInt8.ofNat (digits.foldl (fun n c => n * 8 + (c.toNat - '0'.toNat)) 0)

/-- Undoes backslashes. An octal code begins with a zero if `zeroFirst` holds, and otherwise with any octal digit. -/
def unescapeText (zeroFirst : Bool) (cs : List Char) : Unescaped :=
  match cs with
  | [] => ⟨[], false⟩
  | '\\' :: c :: rest =>
    if c == 'c' && zeroFirst then ⟨[], true⟩
    else if let some b := controlByte? c then (unescapeText zeroFirst rest).prepend [b]
    else if '0' ≤ c && c ≤ '7' then
      if zeroFirst && c != '0' then (unescapeText zeroFirst rest).prepend (encode (String.ofList ['\\', c]))
      else
        -- the zero in front of an octal code is not one of its three digits
        let allowed := if zeroFirst then 3 else 2
        let more := (rest.take allowed).takeWhile fun d => '0' ≤ d && d ≤ '7'
        (unescapeText zeroFirst (rest.drop more.length)).prepend [octal (c :: more)]
    else (unescapeText zeroFirst rest).prepend (encode (String.ofList ['\\', c]))
  | c :: rest => (unescapeText zeroFirst rest).prepend (encode (String.singleton c))
termination_by cs.length
decreasing_by all_goals (simp only [List.length_cons, List.length_drop]; omega)

def echo : Utility := fun args => do
  let (newline, words) := match args with
    | "-n" :: more => (false, more)
    | _ => (true, args)
  let u := unescapeText true (" ".intercalate words).toList
  put (u.bytes ++ (if newline && !u.stopped then [10] else []))
  return 0

/-- The flags of plain printing in front of the words. -/
def echoFlags : List String → List Char × List String
  | [] => ([], [])
  | arg :: args =>
    match arg.toList with
    | '-' :: c :: cs =>
      if (c :: cs).all (['n', 'e', 'E'].contains ·) then
        let (flags, words) := echoFlags args
        (c :: cs ++ flags, words)
      else ([], arg :: args)
    | _ => ([], arg :: args)

def plainEcho : Utility := fun args => do
  let (flags, words) := echoFlags args
  let text := " ".intercalate words
  let u := if flags.contains 'e' then unescapeText true text.toList else ⟨encode text, false⟩
  put (u.bytes ++ (if flags.contains 'n' || u.stopped then [] else [10]))
  return 0

/-! ### Formats -/

/-- How a value is set. -/
structure Setting where
  left : Bool
  zero : Bool
  plus : Bool
  blank : Bool
  alternative : Bool
  width : Nat
  precision : Option Nat

/-- Reads a number, or takes it from the arguments for a star. -/
def formatNumber (cs : List Char) (args : List String) : Nat × List Char × List String :=
  match cs with
  | '*' :: rest => ((args.head?.bind String.toNat?).getD 0, rest, args.drop 1)
  | _ => (((String.ofList (cs.takeWhile Char.isDigit)).toNat?).getD 0, cs.dropWhile Char.isDigit, args)

/-- What is wrong with a numeric argument. -/
inductive NumericFault where
  | notNumeric
  | trailing
  | outOfRange
deriving DecidableEq

/-- The words for what is wrong with a numeric argument. -/
def NumericFault.words : NumericFault → String
  | notNumeric => "expected numeric value"
  | trailing => "not completely converted"
  | outOfRange => "Numerical result out of range"

def digitOf? (base : Nat) (c : Char) : Option Nat :=
  let v := if c.isDigit then c.toNat - '0'.toNat
    else if 'a' ≤ c && c ≤ 'f' then c.toNat - 'a'.toNat + 10
    else if 'A' ≤ c && c ≤ 'F' then c.toNat - 'A'.toNat + 10
    else base
  if v < base then some v else none

/-- The sign in front of a number, and what follows it. -/
def signed (text : String) : Bool × List Char :=
  match text.toList with
  | '-' :: cs => (true, cs)
  | '+' :: cs => (false, cs)
  | cs => (false, cs)

/-- The value of digits in a base, brought between the bounds of 64 bits, and what is wrong with them. -/
def digitsValue (negative : Bool) (base : Nat) (ds : List Char) : Int × Option NumericFault :=
  let good := ds.takeWhile fun c => (digitOf? base c).isSome
  let n : Int := (good.foldl (fun n c => n * base + (digitOf? base c).getD 0) 0 : Nat)
  let n := if negative then -n else n
  if good.isEmpty then (0, some .notNumeric)
  else if n > 9223372036854775807 then (9223372036854775807, some .outOfRange)
  else if n < -9223372036854775808 then (-9223372036854775808, some .outOfRange)
  else (n, if good.length == ds.length then none else some .trailing)

/-- The value of a numeric argument, and what is wrong with it. A character after a quote stands for its code. -/
def numericValue (text : String) : Int × Option NumericFault :=
  let (negative, digits) := signed text
  match digits with
  | [] => (0, if text == "" then none else some .notNumeric)
  | '"' :: c :: _ => (c.toNat, none)
  | '\'' :: c :: _ => (c.toNat, none)
  | '0' :: 'x' :: ds => digitsValue negative 16 ds
  | '0' :: 'X' :: ds => digitsValue negative 16 ds
  | '0' :: ds => digitsValue negative 8 ('0' :: ds)
  | ds => digitsValue negative 10 ds

/-- A decimal number as a whole number and the number of its decimal places, and what is wrong with it. -/
def decimalValue (text : String) : (Int × Nat) × Option NumericFault :=
  let (negative, digits) := signed text
  let whole := digits.takeWhile Char.isDigit
  let (part, rest) := match digits.dropWhile Char.isDigit with
    | '.' :: cs => (cs.takeWhile Char.isDigit, cs.dropWhile Char.isDigit)
    | cs => ([], cs)
  let n : Nat := (whole ++ part).foldl (fun n c => n * 10 + (c.toNat - '0'.toNat)) 0
  let fault : Option NumericFault :=
    if text == "" then none
    else if (whole ++ part).isEmpty then some .notNumeric
    else if rest.isEmpty then none else some .trailing
  ((if negative then -n else n, part.length), fault)

def setWidth (s : Setting) (bytes : List UInt8) : List UInt8 :=
  let fill := List.replicate (s.width - bytes.length) (32 : UInt8)
  if s.left then bytes ++ fill else fill ++ bytes

def zeros (n : Nat) : String := String.ofList (List.replicate n '0')

def signOf (s : Setting) (negative : Bool) : String :=
  if negative then "-" else if s.plus then "+" else if s.blank then " " else ""

/-- A decimal number with a number of decimal places, rounded to the nearest, and of two to the even one. -/
def formatDecimal (s : Setting) (value : Int × Nat) : List UInt8 :=
  let places := s.precision.getD 6
  let scaled := value.1.natAbs * Nat.pow 10 places
  let unit := Nat.pow 10 value.2
  let (q, r) := (scaled / unit, scaled % unit)
  let rounded := if unit < 2 * r || (2 * r == unit && q % 2 == 1) then q + 1 else q
  let digits := toString rounded
  let padded := zeros (places + 1 - digits.length) ++ digits
  let front := padded.toList.take (padded.length - places)
  let back := padded.toList.drop (padded.length - places)
  let text := String.ofList (front ++ (if back.isEmpty then [] else '.' :: back))
  let sign := signOf s (value.1 < 0)
  let fill := if s.zero && !s.left then s.width - sign.length - text.length else 0
  setWidth s (encode (sign ++ zeros fill ++ text))

/-- The digits of a number in a base, in upper case if asked for. -/
def digitsIn (base : Nat) (upper : Bool) (n : Nat) : String :=
  let text := String.ofList (Nat.toDigits base n)
  if upper then text.toUpper else text

def formatInteger (s : Setting) (kind : Char) (n : Int) : List UInt8 :=
  let unsigned : Nat := if n < 0 then (n + 18446744073709551616).toNat else n.toNat
  let (sign, digits) := match kind with
    | 'x' => (if s.alternative && n != 0 then "0x" else "", digitsIn 16 false unsigned)
    | 'X' => (if s.alternative && n != 0 then "0X" else "", digitsIn 16 true unsigned)
    | 'o' => (if s.alternative then "0" else "", digitsIn 8 false unsigned)
    | 'u' => ("", toString unsigned)
    | _ => (signOf s (n < 0), toString n.natAbs)
  let least := s.precision.getD (if s.zero && !s.left then s.width - sign.length else 1)
  setWidth s (encode (sign ++ zeros (least - digits.length) ++ digits))

/-- What one pass over a format gives. -/
structure Pass where
  bytes : List UInt8
  args : List String
  /-- Whether all output is to end. -/
  stopped : Bool
  /-- Arguments that should have been numbers, and what is wrong with them. -/
  bad : List (String × NumericFault)
  /-- What is wrong with the format. -/
  failure : Option String

namespace Pass

def add (p : Pass) (bytes : List UInt8) : Pass := { p with bytes := p.bytes ++ bytes }

def note (p : Pass) (arg : Option String) (fault : Option NumericFault) : Pass :=
  match arg, fault with
  | some text, some f => { p with bad := p.bad ++ [(text, f)] }
  | _, _ => p

def fail (p : Pass) (message : String) : Pass := { p with stopped := true, failure := some message }

end Pass

def formatFlags (s : Setting) : List Char → Setting × List Char
  | '-' :: cs => formatFlags { s with left := true } cs
  | '0' :: cs => formatFlags { s with zero := true } cs
  | '+' :: cs => formatFlags { s with plus := true } cs
  | ' ' :: cs => formatFlags { s with blank := true } cs
  | '#' :: cs => formatFlags { s with alternative := true } cs
  | cs => (s, cs)

def formatArgument (s : Setting) (kind : Char) (arg : Option String) (pass : Pass) : Pass :=
  let text := arg.getD ""
  let cut (bytes : List UInt8) : List UInt8 := s.precision.elim bytes bytes.take
  if kind == 's' then pass.add (setWidth s (cut (encode text)))
  else if kind == 'c' then pass.add (setWidth s ((encode text).take 1))
  else if kind == 'b' then
    let u := unescapeText true text.toList
    { pass.add (setWidth s (cut u.bytes)) with stopped := u.stopped }
  else if ['d', 'i', 'u', 'x', 'X', 'o'].contains kind then
    let (n, fault) := numericValue text
    (pass.add (formatInteger s kind n)).note arg fault
  else if kind == 'f' || kind == 'F' then
    let (n, fault) := decimalValue text
    (pass.add (formatDecimal s n)).note arg fault
  else pass.fail ("%" ++ String.singleton kind ++ ": invalid directive")

def formatPass (fuel : Nat) (cs : List Char) (pass : Pass) : Pass :=
  match fuel, cs with
  | 0, _ => pass
  | _, [] => pass
  | fuel + 1, '%' :: '%' :: rest => formatPass fuel rest (pass.add [37])
  | fuel + 1, '%' :: rest =>
    let (s, rest) := formatFlags ⟨false, false, false, false, false, 0, none⟩ rest
    let (width, rest, args) := formatNumber rest pass.args
    let (precision, rest, args) := match rest with
      | '.' :: more =>
        let (n, more, args) := formatNumber more args
        (some n, more, args)
      | _ => (none, rest, args)
    match rest with
    | [] => pass.fail "missing format character"
    | kind :: rest =>
      let pass := formatArgument { s with width, precision } kind args.head? { pass with args := args.drop 1 }
      if pass.stopped then pass else formatPass fuel rest pass
  | fuel + 1, '\\' :: rest =>
    let run := match rest with
      | c :: _ =>
        if '0' ≤ c && c ≤ '7' then '\\' :: (rest.take 3).takeWhile fun d => '0' ≤ d && d ≤ '7'
        else ['\\', c]
      | [] => ['\\']
    formatPass fuel (rest.drop (run.length - 1)) (pass.add (unescapeText false run).bytes)
  | fuel + 1, c :: rest => formatPass fuel rest (pass.add (encode (String.singleton c)))

/-- Goes over a format until all arguments are used. -/
def formatAll (format : List Char) : Nat → Pass → Pass
  | 0, pass => pass
  | n + 1, pass =>
    let next := formatPass (format.length + 1) format pass
    if next.stopped || next.args.isEmpty || next.args.length == pass.args.length then next
    else formatAll format n next

/-- Prints its arguments by a format, which is used again as long as there are arguments. -/
def printf : Utility := fun args => do
  let literal := args.head? == some "--"
  match if literal then args.drop 1 else args with
  | [] =>
    complain "usage: printf format [arg ...]"
    return 2
  | format :: args =>
    if !literal && format.toList.head? == some '-' && format.length > 1 then
      complain ("Illegal option " ++ String.ofList (format.toList.take 2))
      return 2
    let pass := formatAll format.toList (args.length + 1) ⟨[], args, false, [], none⟩
    put pass.bytes
    for (text, fault) in pass.bad do complain s!"{text}: {fault.words}"
    match pass.failure with
    | some message =>
      complain message
      return 2
    | none => return if pass.bad.isEmpty then 0 else 1

end Acceptance.Shell.Utility
