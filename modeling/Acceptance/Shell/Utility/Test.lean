import Acceptance.Shell.Process

/-!
# Conditions

The conditions of `test`: properties of files, comparisons of texts and numbers, and their combinations. Conditions of
three or four arguments are first looked at as a whole; all others are read by precedence, where `-a` binds stronger
than `-o`. Readers give the arguments that begin with the last one they have used.
-/

namespace Acceptance.Shell.Utility

open Process

def greatestNumber : Int := 9223372036854775807

def testNumber (text : String) : Except String Int :=
  match (trimSpaces text).toInt? with
  | some n => if n.natAbs ≤ greatestNumber then .ok n else .error s!"Illegal number: {text}"
  | none => .error s!"Illegal number: {text}"
where
  /-- A text without spaces at its ends. -/
  trimSpaces (s : String) : String :=
    let front := s.toList.dropWhile (· == ' ')
    let back := front.reverse.dropWhile (· == ' ')
    let digits := match back.reverse with
      | '+' :: cs => cs
      | cs => cs
    String.ofList digits

/-- What an argument means in a condition. -/
inductive TestWord where
  | unary
  | binary
  | negation
  | conjunction
  | disjunction
  | opening
  | closing
  | operand
  | nothing
deriving DecidableEq

namespace TestWord

def unaries : List String :=
  ["-r", "-w", "-x", "-e", "-f", "-d", "-c", "-b", "-p", "-u", "-g", "-k", "-s", "-t", "-z", "-n", "-h", "-O", "-G",
   "-L", "-S"]

def binaries : List String :=
  ["=", "!=", "<", ">", "-eq", "-ne", "-ge", "-gt", "-le", "-lt", "-nt", "-ot", "-ef"]

def plain (text : String) : TestWord :=
  if unaries.contains text then .unary
  else if binaries.contains text then .binary
  else match text with
    | "!" => .negation
    | "-a" => .conjunction
    | "-o" => .disjunction
    | "(" => .opening
    | ")" => .closing
    | _ => .operand

/-- The meaning of the first argument in view of those after it. -/
def first : List String → TestWord
  | [] => .nothing
  | text :: rest =>
    match plain text, rest with
    | .unary, [] => .operand
    | .unary, [_] => .unary
    | .unary, next :: _ => if plain next == .binary then .operand else .unary
    | .opening, [] => .operand
    | token, _ => token

end TestWord

def testUnary (p : Process) (operator operand : String) : Except String Bool := do
  let entry := (p.files.locate p.directory operand).toOption.map (·.2)
  match operator with
  | "-n" => return operand != ""
  | "-z" => return operand == ""
  | "-f" => return entry.any fun e => match e with
    | .file .. => true
    | .program _ => true
    | _ => false
  | "-d" => return entry == some .directory
  | "-s" => return entry.any fun e => match e with
    | .file content _ => !content.isEmpty
    | .device _ => false
    | _ => true
  | "-x" => return entry.any fun e => match e with
    | .file _ executable => executable
    | .device _ => false
    | _ => true
  | "-c" => return entry.any fun e => match e with
    | .device _ => true
    | _ => false
  | "-t" =>
    let _ ← testNumber operand
    return false
  | _ => return entry.isSome && ["-e", "-r", "-w", "-O", "-G"].contains operator

def testBinary (p : Process) (left operator right : String) : Except String Bool := do
  match operator with
  | "=" => return left == right
  | "!=" => return left != right
  | "<" => return decide (left < right)
  | ">" => return decide (right < left)
  | "-ef" =>
    let place (text : String) : Option Path := (p.files.locate p.directory text).toOption.map (·.1)
    return (place left).isSome && place left == place right
  | "-nt" => return false
  | "-ot" => return false
  | _ =>
    let a ← testNumber left
    let b ← testNumber right
    match operator with
    | "-eq" => return a == b
    | "-ne" => return a != b
    | "-lt" => return a < b
    | "-le" => return a ≤ b
    | "-gt" => return a > b
    | _ => return a ≥ b

mutual

def testEither (p : Process) : Nat → TestWord → List String → Except String (Bool × List String)
  | 0, _, _ => .error "too many arguments"
  | fuel + 1, token, args => do
    let (a, last) ← testBoth p fuel token args
    let rest := last.drop 1
    if TestWord.first rest == .disjunction then
      let (b, last) ← testEither p fuel (TestWord.first (rest.drop 1)) (rest.drop 1)
      return (a || b, last)
    return (a, last)

def testBoth (p : Process) : Nat → TestWord → List String → Except String (Bool × List String)
  | 0, _, _ => .error "too many arguments"
  | fuel + 1, token, args => do
    let (a, last) ← testNegated p fuel token args
    let rest := last.drop 1
    if TestWord.first rest == .conjunction then
      let (b, last) ← testBoth p fuel (TestWord.first (rest.drop 1)) (rest.drop 1)
      return (a && b, last)
    return (a, last)

def testNegated (p : Process) : Nat → TestWord → List String → Except String (Bool × List String)
  | 0, _, _ => .error "too many arguments"
  | fuel + 1, token, args => do
    if token != .negation then return ← testPrimary p fuel token args
    let rest := args.drop 1
    let next := TestWord.first rest
    let (a, last) ← testNegated p fuel next (if next == .nothing then args else rest)
    return (!a, last)

/-- A condition in parentheses, a property, a comparison or a text, which holds unless it is empty. -/
def testPrimary (p : Process) : Nat → TestWord → List String → Except String (Bool × List String)
  | 0, _, _ => .error "too many arguments"
  | fuel + 1, token, args => do
    let rest := args.drop 1
    match token, args with
    | .nothing, _ => return (false, args)
    | .opening, _ =>
      let next := TestWord.first rest
      if next == .closing then return (false, rest)
      let (a, last) ← testEither p fuel next rest
      if TestWord.first (last.drop 1) != .closing then throw "closing paren expected"
      return (a, last.drop 1)
    | .unary, operator :: _ =>
      match rest with
      | [] => throw s!"{operator}: argument expected"
      | operand :: _ => return (← testUnary p operator operand, rest)
    | _, left :: _ =>
      if TestWord.first rest != .binary then return (left != "", args)
      match rest with
      | operator :: right :: more => return (← testBinary p left operator right, right :: more)
      | operator :: [] => throw s!"{operator}: argument expected"
      | [] => return (left != "", args)
    | _, [] => return (false, [])

end

def testValue (p : Process) (fuel : Nat) (args : List String) : Except String Bool :=
  match fuel with
  | 0 => .error "too many arguments"
  | fuel + 1 => do
    if args.isEmpty then return false
    let comparison := args.length == 3 && (args[1]?.map TestWord.plain) == some .binary
    if (args.length == 3 || args.length == 4) && !comparison then
      if args.head? == some "(" && args.getLast? == some ")" then return ← testValue p fuel (args.drop 1).dropLast
      if args.head? == some "!" then return !(← testValue p fuel (args.drop 1))
    let token := if comparison then .operand else TestWord.first args
    let (a, last) ← testEither p (5 * args.length + 5) token args
    match last with
    | text :: _ :: _ => throw (if text == "" then "unexpected operator" else s!"{text}: unexpected operator")
    | _ => return a

def test : Utility := fun args => do
  match testValue (← get) (args.length + 1) args with
  | .ok true => return 0
  | .ok false => return 1
  | .error message =>
    complain message
    return 2

def bracket : Utility := fun args => do
  if args.getLast?.any fun text => text.toList.head? == some ']' then test args.dropLast
  else
    complain "missing ]"
    return 2

end Acceptance.Shell.Utility
