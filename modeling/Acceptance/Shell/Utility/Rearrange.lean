import Acceptance.Shell.Utility.Text

/-!
# Rearranging lines and showing bytes

Utilities that turn files around, number their lines, put lines side by side, or show the bytes they are made of.
-/

namespace Acceptance.Shell.Utility

open Process

/-- Writes the lines of files from the last to the first. -/
def tac : Utility := fun args =>
  let message (o : String) (cause : SystemFault) : String :=
    if cause == .isDirectory then s!"{o}: read error: {cause.words}"
    else s!"failed to open {inQuotes o} for reading: {cause.words}"
  overFiles message (options args).2 fun _ bytes => put (endedLines bytes).reverse.flatten

/-- Writes every line from its end to its front. -/
def rev : Utility := fun args =>
  overFiles (fun o cause => s!"cannot open {o}: {cause.words}") (options args).2 fun _ bytes => do
    for line in endedLines bytes do
      let text := decode line
      let ended := text.toList.getLast? == some '\n'
      let body := if ended then text.toList.dropLast else text.toList
      say (String.ofList body.reverse ++ if ended then "\n" else "")

/-- A text with blanks in front of it to a width. -/
def padded (width : Nat) (text : String) : String := String.ofList (List.replicate (width - text.length) ' ') ++ text

/-- Numbers the lines that are not empty, or all of them. -/
def nl : Utility := fun args => do
  let all := args.contains "-ba" || (flagValue? "-b" args) == some "a"
  let mut next := 1
  let mut status := 0
  let operands := operandsWithout ["-b"] args
  for o in if operands.isEmpty then ["-"] else operands do
    match ← read o with
    | .error cause =>
      complain (plainMessage o cause)
      status := 1
    | .ok bytes =>
      for line in bytesLines bytes do
        if line.isEmpty && !all then say "       \n"
        else
          say (padded 6 (toString next) ++ "\t")
          put (line ++ [10])
          next := next + 1
  return status

def sideBySide (separators : List UInt8) (columns : List (List (List UInt8))) : List (List UInt8) :=
  let height := (columns.map List.length).foldl max 0
  (List.range height).map fun n =>
    let cells := columns.map fun column => (column[n]?).getD []
    let marks := (List.range cells.length).map fun k =>
      if k == 0 then [] else (separators[(k - 1) % separators.length]?).toList
    ((marks.zip cells).flatMap fun (m, c) => m ++ c)

/-- Puts the lines of files side by side, or those of each file one after the other. -/
def paste : Utility := fun args => do
  let args := args.flatMap fun a =>
    if "-sd".toList.isPrefixOf a.toList then ["-s", "-d" ++ String.ofList (a.toList.drop 3)] else [a]
  let separators := unescape (encode ((flagValue? "-d" args).getD "\t"))
  let operands := operandsWithout ["-d"] args
  let operands := if operands.isEmpty then ["-"] else operands
  let serial := args.contains "-s"
  let mut columns := []
  for o in operands.eraseDups do
    match ← read o with
    | .error cause =>
      complain (plainMessage o cause)
      return 1
    | .ok bytes => columns := columns ++ [(o, bytesLines bytes)]
  let widths := operands.count "-"
  let mut place := 0
  let mut chosen := []
  for o in operands do
    let lines := (columns.lookup o).getD []
    -- several columns from the input take its lines in turn
    if o == "-" && widths > 1 && !serial then
      let turn := place
      place := place + 1
      chosen := chosen ++ [((lines.zip (List.range lines.length)).filter fun (_, n) => n % widths == turn).map (·.1)]
    else chosen := chosen ++ [lines]
  let rows := if serial then chosen.flatMap fun lines => sideBySide separators (lines.map ([·]))
    else sideBySide separators chosen
  put (unlines rows)
  return 0

/-- How bytes are shown. -/
inductive ByteView where
  | hexadecimal
  | octal
  | decimal
  | character
  /-- Pairs of bytes as octal numbers. -/
  | words
deriving DecidableEq

namespace ByteView

/-- A number in a base with at least so many digits. -/
def digits (base width n : Nat) : String :=
  let text := String.ofList (Nat.toDigits base n)
  String.ofList (List.replicate (width - text.length) '0') ++ text

/-- A byte as a character, or as the name of one that cannot be seen. -/
def characterText (b : UInt8) : String :=
  match b.toNat with
  | 0 => "\\0"
  | 7 => "\\a"
  | 8 => "\\b"
  | 9 => "\\t"
  | 10 => "\\n"
  | 11 => "\\v"
  | 12 => "\\f"
  | 13 => "\\r"
  | n => if 32 ≤ n && n < 127 then String.singleton (Char.ofNat n) else digits 8 3 n

def row : ByteView → List UInt8 → String
  | hexadecimal, bytes => String.join (bytes.map fun b => " " ++ digits 16 2 b.toNat)
  | octal, bytes => String.join (bytes.map fun b => " " ++ digits 8 3 b.toNat)
  | decimal, bytes => String.join (bytes.map fun b => padded 4 (toString b.toNat))
  | character, bytes => String.join (bytes.map fun b => padded 4 (characterText b))
  | words, [] => ""
  | words, [a] => " " ++ digits 8 6 a.toNat
  | words, a :: b :: more => " " ++ digits 8 6 (a.toNat + 256 * b.toNat) ++ row words more

def ofArguments (args : List String) : ByteView :=
  if args.contains "-c" then character
  else if args.contains "-b" then octal
  else match flagValue? "-t" args with
    | some "x1" => hexadecimal
    | some "o1" => octal
    | some "u1" => decimal
    | some "c" => character
    | _ => words

end ByteView

def byteRows : Nat → List UInt8 → List (List UInt8)
  | 0, _ => []
  | fuel + 1, bytes => if bytes.isEmpty then [] else bytes.take 16 :: byteRows fuel (bytes.drop 16)

/-- The lines for rows of bytes, of which the first stands at an offset. Rows equal to the one before are left out. -/
def dumpLines (view : ByteView) (addresses squeezing : Bool) (offset : Nat) (last : Option (List UInt8))
    (starred : Bool) : List (List UInt8) → List String
  | [] => if addresses then [ByteView.digits 8 7 offset] else []
  | bytes :: rows =>
    if squeezing && last == some bytes && !rows.isEmpty then
      (if starred then [] else ["*"]) ++ dumpLines view addresses squeezing (offset + bytes.length) last true rows
    else
      ((if addresses then ByteView.digits 8 7 offset else "") ++ view.row bytes) ::
        dumpLines view addresses squeezing (offset + bytes.length) (some bytes) false rows

def od : Utility := fun args => do
  let view := ByteView.ofArguments args
  let addresses := flagValue? "-A" args != some "n"
  let operands := operandsWithout ["-t", "-A"] args
  let mut bytes := []
  let mut status := 0
  let mut opened := false
  for o in if operands.isEmpty then ["-"] else operands do
    match ← read o with
    | .error cause =>
      complain (plainMessage o cause)
      status := 1
    | .ok more =>
      bytes := bytes ++ more
      opened := true
  if !opened then return status
  for line in dumpLines view addresses (!args.contains "-v") 0 none false (byteRows (bytes.length + 1) bytes) do
    say (line ++ "\n")
  return status

end Acceptance.Shell.Utility
