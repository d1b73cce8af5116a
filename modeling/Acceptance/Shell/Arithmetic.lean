/-!
# Arithmetic in the shell

Expressions over whole numbers of 64 bits, with the operators and the precedence of C. A name stands for the number
that is its value, and for 0 if it has none.
-/

namespace Acceptance.Shell.Arithmetic

/-- An arithmetic expression. -/
inductive Expr where
  | literal (n : Int)
  | name (x : String)
  | unary (op : String) (a : Expr)
  | binary (op : String) (a b : Expr)
  | conditional (test yes no : Expr)
  /-- Gives a name the value of an expression, combined with its old value if there is an operator. -/
  | assign (x : String) (op : Option String) (a : Expr)

def levels : List (List String) :=
  [["||"], ["&&"], ["|"], ["^"], ["&"], ["==", "!="], ["<=", ">=", "<", ">"], ["<<", ">>"], ["+", "-"], ["*", "/", "%"]]

def assignments : List String := ["=", "+=", "-=", "*=", "/=", "%=", "<<=", ">>=", "&=", "^=", "|="]

def skip (cs : List Char) : List Char := cs.dropWhile Char.isWhitespace

/-- What follows an operator of the list, if one is in front; it must not be part of a longer one. -/
def operator? (ops : List String) (cs : List Char) : Option (String × List Char) :=
  let cs := skip cs
  (ops.find? fun op => op.toList.isPrefixOf cs).bind fun op =>
    let rest := cs.drop op.length
    let longer : Bool := match op, rest with
      | "|", '|' :: _ => true
      | "&", '&' :: _ => true
      | "<", '<' :: _ => true
      | ">", '>' :: _ => true
      | _, '=' :: _ => !(["==", "!=", "<=", ">="].contains op) && rest[1]? != some '='
      | _, _ => false
    if longer then none else some (op, rest)

def isNameChar (c : Char) : Bool := c.isAlphanum || c == '_'

/-- The value of a digit, large if it is none. -/
def digitValue (c : Char) : Nat :=
  if c.isDigit then c.toNat - '0'.toNat
  else if 'a' ≤ c && c ≤ 'f' then c.toNat - 'a'.toNat + 10
  else if 'A' ≤ c && c ≤ 'F' then c.toNat - 'A'.toNat + 10
  else 100

def number? (text : List Char) : Option Int :=
  let (base, digits) := match text with
    | '0' :: 'x' :: ds => (16, ds)
    | '0' :: 'X' :: ds => (16, ds)
    | '0' :: d :: ds => (8, d :: ds)
    | ds => (10, ds)
  if digits.isEmpty || digits.any fun d => base ≤ digitValue d then none
  else some (digits.foldl (fun (n : Nat) d => n * base + digitValue d) 0 : Nat)

mutual

def readExpr : Nat → List Char → Option (Expr × List Char)
  | 0, _ => none
  | fuel + 1, cs =>
    let cs := skip cs
    let name := cs.takeWhile isNameChar
    let rest := skip (cs.dropWhile isNameChar)
    let op := assignments.find? fun op => op.toList.isPrefixOf rest && !("==".toList.isPrefixOf rest && op == "=")
    match name.head?.any fun c => !c.isDigit, op with
    | true, some op => do
      let (a, rest) ← readExpr fuel (rest.drop op.length)
      let combined := if op == "=" then none else some (String.ofList op.toList.dropLast)
      return (.assign (String.ofList name) combined a, rest)
    | _, _ => do
      let (test, rest) ← readLevel fuel levels cs
      match skip rest with
      | '?' :: rest => do
        let (yes, rest) ← readExpr fuel rest
        match skip rest with
        | ':' :: rest => do
          let (no, rest) ← readExpr fuel rest
          return (.conditional test yes no, rest)
        | _ => none
      | rest => return (test, rest)

def readLevel : Nat → List (List String) → List Char → Option (Expr × List Char)
  | 0, _, _ => none
  | fuel + 1, [], cs => readOperand fuel cs
  | fuel + 1, ops :: more, cs => do
    let (a, rest) ← readLevel fuel more cs
    readMore fuel ops more a rest

def readMore : Nat → List String → List (List String) → Expr → List Char → Option (Expr × List Char)
  | 0, _, _, _, _ => none
  | fuel + 1, ops, more, a, cs =>
    match operator? ops cs with
    | none => some (a, cs)
    | some (op, rest) => do
      let (b, rest) ← readLevel fuel more rest
      readMore fuel ops more (.binary op a b) rest

/-- Reads a number, a name, or an expression in parentheses, after signs. -/
def readOperand : Nat → List Char → Option (Expr × List Char)
  | 0, _ => none
  | fuel + 1, cs =>
    match skip cs with
    | '(' :: rest => do
      let (a, rest) ← readExpr fuel rest
      match skip rest with
      | ')' :: rest => return (a, rest)
      | _ => none
    | '-' :: rest => do
      let (a, rest) ← readOperand fuel rest
      return (.unary "-" a, rest)
    | '+' :: rest => readOperand fuel rest
    | '!' :: rest => do
      let (a, rest) ← readOperand fuel rest
      return (.unary "!" a, rest)
    | '~' :: rest => do
      let (a, rest) ← readOperand fuel rest
      return (.unary "~" a, rest)
    | cs =>
      let word := cs.takeWhile isNameChar
      let rest := cs.dropWhile isNameChar
      match word with
      | [] => none
      | c :: _ =>
        if c.isDigit then (number? word).map fun n => (.literal n, rest)
        else some (.name (String.ofList word), rest)

end

def wrap (n : Int) : Int := n.bmod 18446744073709551616

def truth (b : Bool) : Int := if b then 1 else 0

/-- Why an expression has no value. -/
inductive ArithmeticError where
  | primaryExpected
  | endExpected
  | divisionByZero
  | notNumber (text : String)
deriving DecidableEq

def ArithmeticError.message (text : String) : ArithmeticError → String
  | primaryExpected => s!"arithmetic expression: expecting primary: \"{text}\""
  | endExpected => s!"arithmetic expression: expecting EOF: \"{text}\""
  | divisionByZero => s!"arithmetic expression: division by zero: \"{text}\""
  | notNumber value => "Illegal number: " ++ value

def apply (op : String) (a b : Int) : Except ArithmeticError Int :=
  match op with
  | "+" => .ok (wrap (a + b))
  | "-" => .ok (wrap (a - b))
  | "*" => .ok (wrap (a * b))
  | "/" => if b == 0 then .error .divisionByZero else .ok (wrap (a.tdiv b))
  | "%" => if b == 0 then .error .divisionByZero else .ok (wrap (a.tmod b))
  | "==" => .ok (truth (a == b))
  | "!=" => .ok (truth (a != b))
  | "<" => .ok (truth (a < b))
  | ">" => .ok (truth (a > b))
  | "<=" => .ok (truth (a ≤ b))
  | ">=" => .ok (truth (a ≥ b))
  | "<<" => .ok (Int64.ofInt a <<< Int64.ofInt b).toInt
  | ">>" => .ok (Int64.ofInt a >>> Int64.ofInt b).toInt
  | "&" => .ok (Int64.ofInt a &&& Int64.ofInt b).toInt
  | "|" => .ok (Int64.ofInt a ||| Int64.ofInt b).toInt
  | "^" => .ok (Int64.ofInt a ^^^ Int64.ofInt b).toInt
  | _ => .error .endExpected

abbrev Values := List (String × String)

/-- The number that is the value of a name. -/
def valueOf (values : Values) (x : String) : Except ArithmeticError Int :=
  match values.lookup x with
  | none => .ok 0
  | some text =>
    let digits := (skip text.toList)
    if digits.isEmpty then .ok 0
    else match digits with
      | '-' :: ds => match number? ds with
        | some n => .ok (-n)
        | none => .error (.notNumber text)
      | ds => match number? ds with
        | some n => .ok n
        | none => .error (.notNumber text)

/-- The value of an expression, and the values of names after it. -/
def Expr.value : Expr → Values → Except ArithmeticError (Int × Values)
  | .literal n, vs => .ok (wrap n, vs)
  | .name x, vs => do return (← valueOf vs x, vs)
  | .unary op a, vs => do
    let (n, vs) ← a.value vs
    match op with
    | "-" => return (wrap (-n), vs)
    | "!" => return (truth (n == 0), vs)
    | _ => return (wrap (-n - 1), vs)
  | .binary op a b, vs => do
    let (m, vs) ← a.value vs
    if op == "&&" && m == 0 then return (0, vs)
    if op == "||" && m != 0 then return (1, vs)
    let (n, vs) ← b.value vs
    if op == "&&" || op == "||" then return (truth (n != 0), vs)
    return (← apply op m n, vs)
  | .conditional test yes no, vs => do
    let (n, vs) ← test.value vs
    if n != 0 then yes.value vs else no.value vs
  | .assign x op a, vs => do
    let (n, vs) ← a.value vs
    let n ← match op with
      | none => pure n
      | some op => do apply op (← valueOf vs x) n
    return (n, (x, toString n) :: vs)

/-- The value of an expression given as text, and the values of names after it. -/
def evaluate (text : String) (values : Values) : Except ArithmeticError (Int × Values) :=
  let cs := text.toList
  if (skip cs).isEmpty then .ok (0, values)
  else match readExpr (20 * (cs.length + 2)) cs with
    | some (e, rest) =>
      if (skip rest).isEmpty then e.value values else .error .endExpected
    | none => .error .primaryExpected

end Acceptance.Shell.Arithmetic
