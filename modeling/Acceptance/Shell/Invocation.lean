import Acceptance.Shell.Process

/-!
# Arguments from the input

Items on the input become arguments of invocations of a program. Blanks and line ends separate items; quotes and
backslashes keep them together.
-/

namespace Acceptance.Shell

/-- How items become arguments. -/
structure Invocation where
  /-- How many items an invocation takes at most. -/
  most : Option Nat
  /-- The mark that each item, which is then a line, is put in the place of. -/
  mark : Option String
  /-- Whether nothing is invoked without items. -/
  sparing : Bool
  /-- Whether items end at NUL characters. -/
  nulEnded : Bool
  command : List String

namespace Invocation

def ofArguments : List String → Invocation
  | [] => ⟨none, none, false, false, ["echo"]⟩
  | "-r" :: args => { ofArguments args with sparing := true }
  | "-0" :: args => { ofArguments args with nulEnded := true }
  | "-n" :: n :: args => { ofArguments args with most := n.toNat? }
  | "-I" :: mark :: args => { ofArguments args with mark := some mark }
  | arg :: args =>
    match arg.toList with
    | '-' :: 'n' :: cs => { ofArguments args with most := (String.ofList cs).toNat? }
    | '-' :: 'I' :: cs => { ofArguments args with mark := some (String.ofList cs) }
    | _ => ⟨none, none, false, false, arg :: args⟩

/-- Divides a text into items. `item` is the item that is being read, if one has begun. -/
def items (item : Option (List Char)) (quote : Option Char) : List Char → List String
  | [] => (item.map String.ofList).toList
  | '\\' :: d :: cs =>
    if quote.isNone then items (some (item.getD [] ++ [d])) none cs
    else items (some (item.getD [] ++ ['\\'])) quote (d :: cs)
  | c :: cs =>
    match quote with
    | some q => if c == q then items item none cs else items (some (item.getD [] ++ [c])) quote cs
    | none =>
      if c == ' ' || c == '\t' || c == '\n' then (item.map String.ofList).toList ++ items none none cs
      else if c == '\'' || c == '"' then items (some (item.getD [])) (some c) cs
      else items (some (item.getD [] ++ [c])) none cs

def portions (n : Nat) : Nat → List String → List (List String)
  | 0, _ => []
  | fuel + 1, xs => if xs.isEmpty then [] else xs.take n :: portions n fuel (xs.drop n)

def invocations (v : Invocation) (text : String) : List (List String) :=
  match v.mark with
  | some mark =>
    let lines := (text.splitOn "\n").map fun l => String.ofList (l.toList.dropWhile fun c => c == ' ' || c == '\t')
    (lines.filter (· != "")).map fun line => v.command.map fun word => line.intercalate (word.splitOn mark)
  | none =>
    let found := if v.nulEnded then (text.splitOn "\x00").filter (· != "") else items none none text.toList
    if found.isEmpty then (if v.sparing then [] else [v.command])
    else (portions (max 1 (v.most.getD found.length)) (found.length + 1) found).map (v.command ++ ·)

end Invocation

end Acceptance.Shell
