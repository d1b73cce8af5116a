import Acceptance.Shell.Process

/-!
# Utilities for text

Utilities that read their operands, or their input if there are none, and write a selection or rearrangement of it.
All of them work on bytes.
-/

namespace Acceptance.Shell.Utility

open Process

/-- Reads operands one after the other, and hands each to an action. -/
def overFiles (message : String → SystemFault → String) (operands : List String)
    (f : String → List UInt8 → StateM Process Unit) : StateM Process Nat :=
  each (if operands.isEmpty then ["-"] else operands) fun o => do
    match ← read o with
    | .ok bytes =>
      f o bytes
      return 0
    | .error cause =>
      complain (message o cause)
      return 1

/-- The message for a file that cannot be read. -/
def plainMessage (operand : String) (cause : SystemFault) : String := s!"{operand}: {cause.words}"

/-- The message for a file that cannot be opened. -/
def openMessage (operand : String) (cause : SystemFault) : String :=
  if cause == .isDirectory then s!"error reading {inQuotes operand}: {cause.words}"
  else s!"cannot open {inQuotes operand} for reading: {cause.words}"

def cat : Utility := fun args => do
  let (flags, operands) := options args
  overFiles plainMessage operands fun _ bytes => do
    if flags.contains 'n' then
      let lines := bytesLines bytes
      for (l, n) in lines.zip (List.range lines.length) do
        let digits := toString (n + 1)
        say (String.ofList (List.replicate (6 - digits.length) ' ') ++ digits ++ "\t")
        put (l ++ [10])
    else put bytes

/-- A selection from the front or the end of a file. -/
structure Selection where
  /-- Whether bytes are counted, and not lines. -/
  byBytes : Bool
  count : Nat
  /-- Whether the count is of what is left out. -/
  complement : Bool

/-- Reads the count of a selection; a sign makes it a complement. -/
def Selection.ofCount (byBytes : Bool) (text : String) : Except String Selection :=
  let (signed, digits) := match text.toList with
    | '-' :: cs => (true, cs)
    | '+' :: cs => (true, cs)
    | cs => (false, cs)
  match (String.ofList digits).toNat? with
  | some n => .ok ⟨byBytes, n, signed⟩
  | none => .error ("invalid number of " ++ (if byBytes then "bytes: " else "lines: ") ++ inQuotes text)

def selection : List String → Selection → Except String (Selection × List String)
  | [], s => .ok (s, [])
  | arg :: args, s =>
    if arg == "-n" || arg == "-c" then
      match args with
      | value :: more => do selection more (← Selection.ofCount (arg == "-c") value)
      | [] => .error "option requires an argument"
    else if arg == "--" then .ok (s, args)
    else
      match arg.toList with
      | '-' :: c :: cs => do
        if c == 'n' || c == 'c' then selection args (← Selection.ofCount (c == 'c') (String.ofList cs))
        else if c.isDigit then selection args (← Selection.ofCount false (String.ofList (c :: cs)))
        else selection args s
      | _ => do
        let (s, operands) ← selection args s
        return (s, arg :: operands)

def endedLines (bytes : List UInt8) : List (List UInt8) :=
  let lines := bytesLines bytes
  if bytes.getLast? == some 10 then lines.map (· ++ [10])
  else lines.dropLast.map (· ++ [10]) ++ lines.getLast?.toList

def Selection.front (s : Selection) (bytes : List UInt8) : List UInt8 :=
  if s.byBytes then bytes.take (if s.complement then bytes.length - s.count else s.count)
  else
    let lines := endedLines bytes
    (lines.take (if s.complement then lines.length - s.count else s.count)).flatten

/-- What a selection takes from the end; a complement begins at the given position, counted from 1. -/
def Selection.back (s : Selection) (bytes : List UInt8) : List UInt8 :=
  if s.byBytes then bytes.drop (if s.complement then s.count - 1 else bytes.length - s.count)
  else
    let lines := endedLines bytes
    (lines.drop (if s.complement then s.count - 1 else lines.length - s.count)).flatten

/-- Writes selections from files, with headings if there are several. -/
def excerpt (select : Selection → List UInt8 → List UInt8) : Utility := fun args => do
  match selection args ⟨false, 10, false⟩ with
  | .error message =>
    complain message
    return 1
  | .ok (s, operands) =>
    overFiles openMessage operands fun o bytes => do
      if operands.length > 1 then
        if !(← get).written.isEmpty then say "\n"
        say s!"==> {o} <==\n"
      put (select s bytes)

def head : Utility := excerpt Selection.front

def tail : Utility := excerpt fun s bytes => s.back bytes

def isSpaceByte (b : UInt8) : Bool := b == 32 || (9 ≤ b && b ≤ 13)

def countWords (bytes : List UInt8) : Nat :=
  (bytes.foldl (fun (n, inside) b =>
    if isSpaceByte b then (n, false) else (if inside then n else n + 1, true)) (0, false)).1

def wc : Utility := fun args => do
  let (flags, operands) := options args
  let flags := if flags.isEmpty then ['l', 'w', 'c'] else flags.eraseDups
  let numbers (bytes : List UInt8) : List Nat :=
    (if flags.contains 'l' then [bytes.count 10] else []) ++
      (if flags.contains 'w' then [countWords bytes] else []) ++
      (if flags.contains 'm' then [bytes.length] else []) ++
      (if flags.contains 'c' then [bytes.length] else [])
  let mut status := 0
  let mut rows := []
  let mut sizes := 0
  let inputSize := (← get).inputSize
  for o in if operands.isEmpty then ["-"] else operands do
    match ← read o with
    | .error cause =>
      complain (plainMessage o cause)
      status := 1
    | .ok bytes =>
      rows := rows ++ [(numbers bytes, o)]
      sizes := sizes + (if o == "-" then inputSize.getD 0 else bytes.length)
  let zeros := flags.map fun _ => 0
  let total := rows.foldl (fun sums (ns, _) => sums.zipWith (· + ·) ns) zeros
  let table := if operands.length > 1 then rows ++ [(total, "total")] else rows
  -- the sizes of all files decide on the width, and an input whose size is unknown widens it
  let least := if inputSize.isNone && (operands.isEmpty || operands.contains "-") then 7 else 1
  let width := if flags.length == 1 && operands.length < 2 then 1 else max least (toString sizes).length
  let pad (n : Nat) : String := String.ofList (List.replicate (width - (toString n).length) ' ') ++ toString n
  for (ns, o) in table do
    say (" ".intercalate (ns.map pad) ++ (if operands.isEmpty then "" else " " ++ o) ++ "\n")
  return status

/-! ### Sets of bytes -/

def unescape : List UInt8 → List UInt8
  | [] => []
  | 92 :: bs =>
    let digits := (bs.take 3).takeWhile fun b => 48 ≤ b && b ≤ 55
    if !digits.isEmpty then
      UInt8.ofNat (digits.foldl (fun n b => n * 8 + (b.toNat - 48)) 0) :: unescape (bs.drop digits.length)
    else match bs with
      | [] => [92]
      | b :: rest =>
        (if b == 110 then 10 else if b == 116 then 9 else if b == 114 then 13 else if b == 97 then 7
          else if b == 98 then 8 else if b == 102 then 12 else if b == 118 then 11 else b) :: unescape rest
  | b :: bs => b :: unescape bs
termination_by bs => bs.length

def byteRange (a b : UInt8) : List UInt8 := (List.range (b.toNat + 1 - a.toNat)).map fun n => UInt8.ofNat (a.toNat + n)

def byteClasses : List (String × List UInt8) :=
  let upper := byteRange 65 90
  let lower := byteRange 97 122
  let digits := byteRange 48 57
  [("upper", upper), ("lower", lower), ("digit", digits), ("alpha", upper ++ lower),
   ("alnum", digits ++ upper ++ lower),
   ("space", byteRange 9 13 ++ [32]), ("blank", [9, 32]), ("cntrl", byteRange 0 31 ++ [127]),
   ("print", byteRange 32 126), ("graph", byteRange 33 126),
   ("punct", byteRange 33 47 ++ byteRange 58 64 ++ byteRange 91 96 ++ byteRange 123 126),
   ("xdigit", digits ++ byteRange 65 70 ++ byteRange 97 102)]

/-- The bytes of a set: classes, ranges and single bytes. -/
def byteSet (bytes : List UInt8) : List UInt8 :=
  match bytes with
  | [] => []
  | 91 :: 58 :: rest =>
    let name := decode (rest.takeWhile (· != 58))
    match byteClasses.lookup name with
    | some s => s ++ byteSet (rest.drop (name.length + 2))
    | none => 91 :: 58 :: byteSet rest
  | a :: 45 :: b :: rest => byteRange a b ++ byteSet rest
  | a :: rest => a :: byteSet rest
termination_by bytes.length

def tr : Utility := fun args => do
  let (flags, operands) := options args
  let sets := operands.map fun o => byteSet (unescape (encode o))
  let complement := flags.any (['c', 'C'].contains ·)
  let first := sets.head?.getD []
  let chosen (b : UInt8) : Bool := first.contains b != complement
  let input ← takeInput
  let second := sets[1]?.getD []
  if operands.isEmpty then
    complainOfUse "missing operand"
    return 1
  let deleting := flags.contains 'd'
  if second.isEmpty && !deleting && !flags.contains 's' then
    complainOfUse ("missing operand after " ++ inQuotes (operands.head?.getD "") ++
      "\nTwo strings must be given when translating.")
    return 1
  let replace (b : UInt8) : UInt8 :=
    if !chosen b then b
    else match second.getLast? with
      | none => b
      | some last => if complement then last else second.getD (first.idxOf b) last
  let output := if deleting then input.filter (!chosen ·) else input.map replace
  let squeezed := if flags.contains 's' then
      let set (b : UInt8) := if second.isEmpty then chosen b else second.contains b
      (output.foldl (fun out b => if out.head? == some b && set b then out else b :: out) []).reverse
    else output
  put squeezed
  return 0

/-! ### Rearrangement -/

/-- The value of a number at the front of a line. -/
def leadingNumber (line : List UInt8) : Int :=
  let rest := line.dropWhile isSpaceByte
  let negative := rest.head? == some 45
  let digits := (if negative then rest.drop 1 else rest).takeWhile fun b => 48 ≤ b && b ≤ 57
  let n : Nat := digits.foldl (fun n b => n * 10 + (b.toNat - 48)) 0
  if negative then -n else n

/-- Whether a line comes before another, byte by byte. -/
def lineLe : List UInt8 → List UInt8 → Bool
  | [], _ => true
  | _ :: _, [] => false
  | a :: as, b :: bs => if a == b then lineLe as bs else a < b

def splitBytes (separator : UInt8) (bytes : List UInt8) : List (List UInt8) :=
  let (field, fields) := bytes.foldr (fun b (field, fields) =>
    if b == separator then ([], field :: fields) else (b :: field, fields)) ([], [])
  field :: fields

/-- The fields of a line where nothing is said about separators: each begins with the blanks before it. -/
def blankFields (line : List UInt8) : List (List UInt8) :=
  let (field, fields, _) := line.foldr (fun b (field, fields, inBlank) =>
    let blank := b == 32 || b == 9
    if inBlank && !blank then ([b], field :: fields, false) else (b :: field, fields, blank)) ([], [], false)
  field :: fields

/-- A part of lines by which they are sorted. -/
structure SortKey where
  first : Nat
  last : Option Nat
  numeric : Bool
  reversed : Bool

namespace SortKey

def ofText (text : String) : SortKey :=
  let letters := text.toList.filter Char.isAlpha
  let places := (text.splitOn ",").map fun part => String.ofList (part.toList.takeWhile Char.isDigit)
  ⟨(places.head?.bind String.toNat?).getD 1, places[1]?.bind String.toNat?, letters.contains 'n',
    letters.contains 'r'⟩

/-- The part of a line that a key stands for. -/
def part (separator : Option UInt8) (k : SortKey) (line : List UInt8) : List UInt8 :=
  let fields := match separator with
    | some b => splitBytes b line
    | none => blankFields line
  let chosen := (match k.last with
    | some n => fields.take n
    | none => fields).drop (k.first - 1)
  match separator with
  | some b => List.intercalate [b] chosen
  | none => chosen.flatten

end SortKey

def sort : Utility := fun args => do
  let operands := operandsWithout ["-k", "-t"] args
  let (flags, _) := options (args.filter fun a => ["-k", "-t"].all fun flag => !flag.toList.isPrefixOf a.toList)
  let separator := (flagValue? "-t" args).bind fun d => (encode d).head?
  let keys := (flagValues "-k" args).map SortKey.ofText
  let mut lines := []
  for o in if operands.isEmpty then ["-"] else operands do
    match ← read o with
    | .ok bytes => lines := lines ++ bytesLines bytes
    | .error cause =>
      complain s!"cannot read: {o}: {cause.words}"
      return 2
  let whole : SortKey := ⟨1, none, flags.contains 'n', flags.contains 'r'⟩
  let keys := if keys.isEmpty then [whole]
    else keys.map fun k => { k with numeric := k.numeric || whole.numeric, reversed := k.reversed || whole.reversed }
  let compare (k : SortKey) (a b : List UInt8) : Ordering :=
    let x := k.part separator a
    let y := k.part separator b
    let order := if k.numeric then Ord.compare (leadingNumber x) (leadingNumber y)
      else if x == y then .eq else if lineLe x y then .lt else .gt
    if k.reversed then order.swap else order
  let compareAll (a b : List UInt8) : Ordering := keys.foldl (fun order k => order.then (compare k a b)) .eq
  -- lines that all keys leave equal are ordered as a whole
  let last (a b : List UInt8) : Ordering := if a == b then .eq else if lineLe a b != whole.reversed then .lt else .gt
  let ordered := lines.mergeSort fun a b => (compareAll a b).then (last a b) != .gt
  let kept := if flags.contains 'u' then
      (ordered.foldl (fun out l => if out.head?.any (fun k => compareAll k l == .eq) then out else l :: out) []).reverse
    else ordered
  if flags.contains 'c' then
    match (lines.zip (lines.drop 1)).findIdx? fun (a, b) => (compareAll a b).then (last a b) == .gt with
    | some n =>
      let name := if operands.isEmpty then "-" else operands.head?.getD "-"
      complain s!"{name}:{n + 2}: disorder: {decode (lines.getD (n + 1) [])}"
      return 1
    | none => return 0
  put (unlines kept)
  return 0

/-- Lines with the number of times they follow each other. -/
def runs (lines : List (List UInt8)) : List (Nat × List UInt8) :=
  lines.foldr (fun l rs => match rs with
    | (n, k) :: more => if k == l then (n + 1, k) :: more else (1, l) :: rs
    | [] => [(1, l)]) []

def uniq : Utility := fun args => do
  let (flags, operands) := options args
  overFiles plainMessage operands fun _ bytes => do
    for (n, l) in runs (bytesLines bytes) do
      let wanted := (!flags.contains 'd' || n > 1) && (!flags.contains 'u' || n == 1)
      if wanted then
        if flags.contains 'c' then
          let digits := toString n
          say (String.ofList (List.replicate (7 - digits.length) ' ') ++ digits ++ " ")
        put (l ++ [10])

/-- Whether a position, counted from 1, is in a list of positions and ranges. -/
def inPositions (text : String) (n : Nat) : Bool :=
  (text.splitOn ",").any fun part =>
    match part.splitOn "-" with
    | [a] => a.toNat? == some n
    | [a, b] => a.toNat?.getD 1 ≤ n && (b == "" || n ≤ b.toNat?.getD 0)
    | _ => false

def chosenItems (text : String) (items : List α) : List α :=
  ((items.zip (List.range items.length)).filter fun (_, n) => inPositions text (n + 1)).map (·.1)

def cut : Utility := fun args => do
  let separator := ((flagValue? "-d" args).bind fun d => (encode d).head?).getD 9
  let operands := operandsWithout ["-d", "-f", "-c", "-b"] args
  if (["-f", "-c", "-b"].filterMap fun flag => flagValue? flag args).isEmpty then
    complainOfUse "you must specify a list of bytes, characters, or fields"
    return 1
  let line (l : List UInt8) : List UInt8 :=
    match flagValue? "-f" args, (flagValue? "-c" args).or (flagValue? "-b" args) with
    | some positions, _ =>
      if l.contains separator then List.intercalate [separator] (chosenItems positions (splitBytes separator l)) else l
    | none, some positions => chosenItems positions l
    | none, none => l
  overFiles plainMessage operands fun _ bytes => put (unlines ((bytesLines bytes).map line))

def tee : Utility := fun args => do
  let (flags, operands) := options args
  let input ← takeInput
  put input
  each operands fun o => do
    let s ← get
    match s.files.resolve s.directory o with
    | .error cause =>
      complain (plainMessage o cause)
      return 1
    | .ok p =>
      match s.files.find? p with
      | some .directory =>
        complain (plainMessage o .isDirectory)
        return 1
      | some (.file content x) =>
        change (·.put p (.file (if flags.contains 'a' then content ++ input else input) x))
        return 0
      | some _ => return 0
      | none =>
        if s.files.isDirectory p.dropLast then
          change (·.put p (.file input false))
          return 0
        complain (plainMessage o .noEntry)
        return 1

def seq : Utility := fun args => do
  let operands := operandsOfSeq args
  if operands.isEmpty then
    complainOfUse "missing operand"
    return 1
  for text in operands do
    if text.toInt?.isNone then
      complainOfUse s!"invalid floating point argument: {inQuotes text}"
      return 1
  let (first, step, last) := match operands.filterMap String.toInt? with
    | [b] => (1, 1, b)
    | [a, b] => (a, 1, b)
    | [a, s, b] => (a, s, b)
    | _ => (1, 1, 0)
  if step == 0 then
    complainOfUse ("invalid Zero increment value: " ++ inQuotes "0")
    return 1
  let count := if step > 0 then (last - first) / step + 1 else (first - last) / (-step) + 1
  let numbers := (List.range count.toNat).map fun (n : Nat) => toString (first + step * (n : Int))
  let width := if args.contains "-w" then (numbers.map String.length).foldl max 0 else 0
  let padded := numbers.map fun text => String.ofList (List.replicate (width - text.length) '0') ++ text
  let separator := (flagValue? "-s" args).getD "\n"
  if !numbers.isEmpty then say (separator.intercalate padded ++ "\n")
  return 0
where
  /-- The numbers among the arguments, which can begin with a sign. -/
  operandsOfSeq : List String → List String
    | [] => []
    | "-w" :: args => operandsOfSeq args
    | ["-s"] => []
    | "-s" :: _ :: args => operandsOfSeq args
    | arg :: args => if "-s".toList.isPrefixOf arg.toList then operandsOfSeq args else arg :: operandsOfSeq args

/-- The value of a number that may be followed by a unit. -/
def amount (text : String) : Nat :=
  let n := ((String.ofList (text.toList.takeWhile Char.isDigit)).toNat?).getD 0
  match text.toList.dropWhile Char.isDigit with
  | 'k' :: _ => n * 1024
  | 'K' :: _ => n * 1024
  | 'M' :: _ => n * 1048576
  | 'w' :: _ => n * 2
  | 'b' :: _ => n * 512
  | _ => n

def dd : Utility := fun args => do
  let setting (name : String) : Option String :=
    (args.find? fun a => (name ++ "=").toList.isPrefixOf a.toList).map fun a =>
      String.ofList (a.toList.drop (name.length + 1))
  let size := max 1 (((setting "bs").or (setting "ibs")).elim 512 amount)
  let source := (setting "if").getD "-"
  match ← read source with
  | .error cause =>
    complain s!"failed to open {inQuotes source}: {cause.words}"
    return 1
  | .ok bytes =>
    let bytes := bytes.drop (((setting "skip").elim 0 amount) * size)
    let bytes := (setting "count").elim bytes fun n => bytes.take (amount n * size)
    match setting "of" with
    | none => put bytes
    | some target =>
      match ← resolve target with
      | .error cause =>
        complain s!"failed to open {inQuotes target}: {cause.words}"
        return 1
      | .ok p =>
        match ← writeFile p bytes false with
        | none => pure ()
        | some cause =>
          complain s!"failed to open {inQuotes target}: {cause.words}"
          return 1
    let records := s!"{bytes.length / size}+{if bytes.length % size == 0 then 0 else 1} records "
    let report := records ++ "in\n" ++ records ++ "out\n" ++ s!"{bytes.length} bytes copied, 0 s, Infinity B/s\n"
    if setting "status" != some "none" then
      modify fun s => { s with written := s.written ++ [(.error, encode report)] }
    return 0

def cmp : Utility := fun args => do
  let (flags, operands) := options args
  match operands with
  | [a, b] =>
    match ← read a, ← read b with
    | .ok x, .ok y =>
      if x == y then return 0
      let common := ((x.zip y).takeWhile fun (p, q) => p == q).map (·.1)
      if !flags.contains 's' then
        if common.length == min x.length y.length then
          let shorter := if x.length < y.length then a else b
          complain s!"EOF on {shorter} after byte {common.length}"
        else say s!"{a} {b} differ: char {common.length + 1}, line {common.count 10 + 1}\n"
      return 1
    | .error cause, _ =>
      complain (plainMessage a cause)
      return 2
    | _, .error cause =>
      complain (plainMessage b cause)
      return 2
  | _ =>
    complain "missing operand"
    return 2

end Acceptance.Shell.Utility
