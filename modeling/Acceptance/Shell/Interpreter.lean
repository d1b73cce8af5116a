import Acceptance.Shell.Arithmetic
import Acceptance.Shell.Builtin
import Acceptance.Shell.Invocation
import Acceptance.Shell.Redirection

/-!
# Running shell programs

Words are expanded, redirections are made, and commands are run on the state of the shell. Commands of a pipeline run
one after the other, each on what the one before it has written. Programs are found in the file tree by their names.
The interpreter gives up when its fuel is spent, which no program that ends by itself is meant to reach.
-/

namespace Acceptance.Shell

namespace Exec

def deepestCall : Nat := 1000

/-- Runs one round of a loop; gives nothing if the loop is to be left. -/
def oneRound (action : Exec (Option Nat)) : Exec (Option Nat) := do
  let loops := (← own).loops
  change fun o => { o with loops := loops + 1 }
  let restore : Exec Unit := change fun o => { o with loops }
  let outcome ← tryCatch action fun stop => do
    restore
    match stop with
    | .leave 0 => pure none
    | .leave (n + 1) => throw (.leave n)
    | .again 0 => pure (some 0)
    | .again (n + 1) => throw (.again n)
    | other => throw other
  restore
  return outcome

mutual

def expand : Nat → Word → Exec (List Glyph)
  | 0, _ => throw (.exit 125)
  | _, [] => return []
  | fuel + 1, p :: ps => do
    let first ← expandPiece fuel p
    return first ++ (← expand fuel ps)

def expandPiece : Nat → Piece → Exec (List Glyph)
  | 0, _ => throw (.exit 125)
  | _, .bare text => return Glyph.ofText false text
  | _, .quoted text => return Glyph.ofText true text
  | fuel + 1, .number expression inQuotes => do
    let text := Glyph.text (← expand fuel expression)
    let values := (← own).bindings.map fun (name, v) => (name, v.value)
    match Arithmetic.evaluate text values with
    | .error cause => failWith (cause.message text)
    | .ok (n, after) =>
      for (name, value) in (after.take (after.length - values.length)).reverse do assign name value
      return Glyph.ofValue inQuotes (toString n)
  | fuel + 1, .output program inQuotes => do
    let n ← openChannel (.collector [])
    let status ← child fuel do
      lead 1 n
      runProgram fuel program
    let _ ← setStatus status
    let bytes := (((← get).channels[n]?).elim [] Channel.collected).filter (· != 0)
    let text := decode ((bytes.reverse.dropWhile (· == 10)).reverse)
    return Glyph.ofValue inQuotes text
  | fuel + 1, .parameter name use inQuotes => do
    let o ← own
    if name == "@" || name == "*" then
      match use with
      | .length => return Glyph.ofValue inQuotes (toString o.arguments.length)
      | .orElse _ word => if o.arguments.isEmpty then return ← expand fuel word
      | .ifSet _ word => return ← if o.arguments.isEmpty then pure [] else expand fuel word
      | _ => pure ()
      if name == "*" && inQuotes then
        let joint := ((← separators).toList.head?).elim "" String.singleton
        return Glyph.ofText true (joint.intercalate o.arguments)
      let parts := o.arguments.map fun a => Glyph.ofValue inQuotes a
      return List.intercalate [.fieldEnd] parts
    let value ← parameter? name
    let lacking (orEmpty : Bool) : Bool := value.isNone || (orEmpty && value == some "")
    match use with
    | .value =>
      match value with
      | some v => return Glyph.ofValue inQuotes v
      | none =>
        if o.options.contains 'u' then failWith s!"{name}: parameter not set"
        return Glyph.ofValue inQuotes ""
    | .length => return Glyph.ofValue inQuotes (toString ((value.getD "").utf8ByteSize))
    | .orElse orEmpty word =>
      if lacking orEmpty then expand fuel word else return Glyph.ofValue inQuotes (value.getD "")
    | .orAssign orEmpty word =>
      if lacking orEmpty then
        let text := Glyph.text (← expand fuel word)
        assign name text
        return Glyph.ofValue inQuotes text
      return Glyph.ofValue inQuotes (value.getD "")
    | .orFail orEmpty word =>
      if lacking orEmpty then
        let text := Glyph.text (← expand fuel word)
        let usual := if orEmpty then "parameter not set or null" else "parameter not set"
        failWith (name ++ ": " ++ (if text == "" then usual else text))
      return Glyph.ofValue inQuotes (value.getD "")
    | .ifSet orEmpty word => if lacking orEmpty then return Glyph.ofValue inQuotes "" else expand fuel word
    | .dropFront longest word =>
      return Glyph.ofValue inQuotes (Glyph.trimmed true longest (Glyph.pattern (← expand fuel word)) (value.getD ""))
    | .dropEnd longest word =>
      return Glyph.ofValue inQuotes (Glyph.trimmed false longest (Glyph.pattern (← expand fuel word)) (value.getD ""))

/-- Expands a word that begins with a tilde to a home directory. -/
def expandTilde : Nat → Word → Exec (List Glyph)
  | 0, _ => throw (.exit 125)
  | fuel + 1, word => do
    let home := (← valueOf? "HOME").getD "~"
    match word with
    | .bare text :: rest =>
      match text.toList with
      | '~' :: cs =>
        if (cs.isEmpty && rest.isEmpty) || cs.head? == some '/' then
          return Glyph.ofText true home ++ (← expand fuel (.bare (String.ofList cs) :: rest))
        else expand fuel word
      | _ => expand fuel word
    | _ => expand fuel word

/-- The text of a word that is not split. -/
def expandText : Nat → Word → Exec String
  | 0, _ => throw (.exit 125)
  | fuel + 1, word => do return Glyph.text (← expandTilde fuel word)

def expandFields : Nat → List Word → Exec (List String)
  | 0, _ => throw (.exit 125)
  | _, [] => return []
  | fuel + 1, word :: words => do
    let gs ← expandTilde fuel word
    let fields := Glyph.fields (← separators) none false gs
    let s ← get
    let texts := fields.flatMap fun field =>
      let found := if field.any Glob.isActive && !s.own.options.contains 'f' then
          Glob.paths s.files s.own.directory field
        else []
      if found.isEmpty then [Glob.text field] else found
    return texts ++ (← expandFields fuel words)

def redirect : Nat → List Redirection → Exec Bool
  | 0, _ => throw (.exit 125)
  | _, [] => return true
  | fuel + 1, .mk descriptor target :: rs => do
    let outcome : Except String (Option Nat) ← match target with
      | .readFile w => do pure ((← openToRead (← expandText fuel w)).map some)
      | .readWriteFile w => do pure ((← openToRead (← expandText fuel w)).map some)
      | .writeFile w => do pure ((← openToWrite (← expandText fuel w) false).map some)
      | .appendFile w => do pure ((← openToWrite (← expandText fuel w) true).map some)
      | .hereDocument n => do
        let word := ((← own).documents.lookup n).getD []
        pure (.ok (some (← openChannel (.source (encode (Glyph.text (← expand fuel word))) none))))
      | .duplicate w => do
        let text ← expandText fuel w
        if text == "-" then
          change fun o => { o with descriptors := o.descriptors.filter (·.1 != descriptor) }
          pure (.ok none)
        else
          match text.toNat? with
          | some n =>
            match (← own).descriptors.lookup n with
            | some c => pure (.ok (some c))
            | none => pure (.error s!"{n}: Bad file descriptor")
          | none => pure (.error "Syntax error: Bad fd number")
    match outcome with
    | .error message =>
      complain message
      return false
    | .ok none => redirect fuel rs
    | .ok (some c) =>
      lead descriptor c
      redirect fuel rs

def redirected : Nat → List Redirection → Exec Nat → Exec Nat
  | 0, _, _ => throw (.exit 125)
  | fuel + 1, rs, action => do
    if rs.isEmpty then return ← action
    let saved := (← own).descriptors
    let restore : Exec Unit := change fun o => { o with descriptors := saved }
    if ← redirect fuel rs then
      let status ← tryCatch action fun stop => do
        restore
        throw stop
      restore
      return status
    else
      restore
      setStatus 2

def child : Nat → Exec Nat → Exec Nat
  | 0, _ => throw (.exit 125)
  | fuel + 1, action => do
    let status ← apart do
      change fun o =>
        { o with
          outerTraps := some (o.outerTraps.getD o.traps), loops := 0,
          traps := o.traps.filter fun (n, text) => n != 0 && text == "" }
      let status ← finishing fuel action
      let arrived := (← own).pending
      modify fun s => { s with arrived }
      return status
    modify fun s => { s with arrived := [], own := { s.own with pending := s.own.pending ++ s.arrived } }
    return status

def answerSignals : Nat → Nat → Exec Nat
  | 0, _ => throw (.exit 125)
  | fuel + 1, status => do
    let o ← own
    match o.pending with
    | [] => return status
    | n :: more =>
      if o.outerTraps.isSome then return status
      change fun o => { o with pending := more }
      match o.traps.lookup n with
      | some text =>
        let (program, documents) := Program.ofText text
        let _ ← withDocuments fuel documents program
      | none => pure ()
      let _ ← setStatus status
      answerSignals fuel status

/-- Runs a command, and the commands for signals that have arrived meanwhile. -/
def run : Nat → Command → Exec Nat
  | 0, _ => throw (.exit 125)
  | fuel + 1, c => do answerSignals fuel (← perform fuel c)

def perform : Nat → Command → Exec Nat
  | 0, _ => throw (.exit 125)
  | fuel + 1, c => do
    match c with
    | .simple line assignments words rs =>
      change fun o => { o with line }
      let before := (← own).status
      let _ ← setStatus 0
      let args ← expandTested fuel before words
      let status ← simple fuel assignments args rs
      checkFailure (← setStatus status)
    | .sequence cs =>
      let mut status := 0
      for c in cs do status ← run fuel c
      return status
    | .both a b =>
      let status ← asTest (run fuel a)
      if status == 0 then run fuel b else setStatus status
    | .either a b =>
      let status ← asTest (run fuel a)
      if status != 0 then run fuel b else setStatus status
    | .negated a =>
      let status ← asTest (run fuel a)
      setStatus (if status == 0 then 1 else 0)
    | .background a =>
      let process := (← get).processes + 1
      modify fun s => { s with processes := process }
      let silent ← openChannel (.device .null)
      let status ← child fuel do
        lead 0 silent
        run fuel a
      change fun o => { o with lastBackground := process, jobs := setEntry process status o.jobs }
      setStatus 0
    | .pipeline cs =>
      let status ← piped fuel cs
      checkFailure (← setStatus status)
    | .group body rs =>
      let status ← redirected fuel rs (run fuel body)
      setStatus status
    | .subshell body rs =>
      let status ← redirected fuel rs (child fuel (run fuel body))
      checkFailure (← setStatus status)
    | .conditional test yes no rs =>
      let status ← redirected fuel rs do
        if (← asTest (run fuel test)) == 0 then run fuel yes
        else match no with
          | some no => run fuel no
          | none => pure 0
      setStatus status
    | .loop whileTrue test body rs =>
      let status ← redirected fuel rs (rounds fuel whileTrue test body 0)
      setStatus status
    | .each name words body rs =>
      let items ← match words with
        | some ws => expandFields fuel ws
        | none => pure (← own).arguments
      let status ← redirected fuel rs (eachItem fuel name body items 0)
      setStatus status
    | .choose word branches rs =>
      let text ← expandText fuel word
      let status ← redirected fuel rs (chosen fuel text branches)
      setStatus status
    | .function name body =>
      change fun o => { o with functions := setEntry name body o.functions }
      setStatus 0

/-- Expands the words of a simple command, with the status of the command before it. -/
def expandTested : Nat → Nat → List Word → Exec (List String)
  | 0, _, _ => throw (.exit 125)
  | fuel + 1, before, words => do
    let saved := (← own).status
    change fun o => { o with status := before }
    let args ← expandFields fuel words
    -- without a command the status is that of the last commands whose output was taken
    if !args.isEmpty then change fun o => { o with status := before }
    else if !(words.any fun w => w.any fun p => match p with
      | .output .. => true
      | _ => false) then change fun o => { o with status := saved }
    return args

def piped : Nat → List Command → Exec Nat
  | 0, _ => throw (.exit 125)
  | _, [] => return 0
  | fuel + 1, [c] => child fuel (run fuel c)
  | fuel + 1, c :: cs => do
    let n ← openChannel (.collector [])
    let _ ← child fuel do
      lead 1 n
      run fuel c
    let written := ((← get).channels[n]?).elim [] Channel.collected
    let input ← openChannel (.source written none)
    -- the rest of the pipeline reads what has been written
    apart do
      lead 0 input
      piped fuel cs

def rounds : Nat → Bool → Command → Command → Nat → Exec Nat
  | 0, _, _, _, _ => throw (.exit 125)
  | fuel + 1, whileTrue, test, body, last => do
    let outcome ← oneRound do
      let status ← asTest (run fuel test)
      if (status == 0) == whileTrue then return some (← run fuel body) else return none
    match outcome with
    | some status => rounds fuel whileTrue test body status
    | none => return last

def eachItem : Nat → String → Command → List String → Nat → Exec Nat
  | 0, _, _, _, _ => throw (.exit 125)
  | _, _, _, [], last => return last
  | fuel + 1, name, body, item :: items, _ => do
    assign name item
    match ← oneRound (do return some (← run fuel body)) with
    | some status => eachItem fuel name body items status
    | none => return 0

/-- Runs the first branch with a pattern that matches. -/
def chosen : Nat → String → List (List Word × Command) → Exec Nat
  | 0, _, _ => throw (.exit 125)
  | _, _, [] => return 0
  | fuel + 1, text, (patterns, body) :: branches => do
    for p in patterns do
      if Glob.accepts (Glyph.pattern (← expandTilde fuel p)) text then return ← run fuel body
    chosen fuel text branches

def assignAll : Nat → List (String × Word) → Exec Unit
  | 0, _ => throw (.exit 125)
  | _, [] => return
  | fuel + 1, (name, word) :: more => do
    assign name (← expandText fuel word)
    assignAll fuel more

def simple : Nat → List (String × Word) → List String → List Redirection → Exec Nat
  | 0, _, _, _ => throw (.exit 125)
  | fuel + 1, assignments, [], rs => do
    let status ← redirected fuel rs (return (← own).status)
    if status != 0 && !rs.isEmpty then return status
    assignAll fuel assignments
    return (← own).status
  | fuel + 1, assignments, name :: args, rs => do
    let o ← own
    if o.options.contains 'x' then write 2 (encode ("+ " ++ " ".intercalate (name :: args) ++ "\n"))
    let body := o.functions.lookup name
    if name == "exec" && args.isEmpty then
      assignAll fuel assignments
      if ← redirect fuel rs then return 0
      throw (.exit 2)
    if specialCommands.contains name && body.isNone then
      assignAll fuel assignments
      return ← redirected fuel rs (ownCommand fuel name args)
    let saved := o.bindings
    let kept := o.options
    if !assignments.isEmpty then
      change fun o => { o with options := 'a' :: o.options }
      assignAll fuel assignments
      change fun o =>
        { o with
          options := kept,
          bindings := o.bindings.map fun (n, v) =>
            (n, if assignments.any (·.1 == n) then { v with exported := true } else v) }
    let status ← redirected fuel rs <|
      match body with
      | some body => call fuel body args
      | none => if isOwnCommand name then ownCommand fuel name args else program fuel name args
    change fun o =>
      { o with
        bindings := assignments.foldl (fun vs (n, _) => match saved.lookup n with
          | some v => setEntry n v vs
          | none => vs.filter (·.1 != n)) o.bindings }
    return status

def call : Nat → Command → List String → Exec Nat
  | 0, _, _ => throw (.exit 125)
  | fuel + 1, body, args => do
    let saved ← own
    if deepestCall ≤ saved.hidden.length then failWith s!"Maximum function recursion depth ({deepestCall}) reached"
    change fun o => { o with arguments := args, hidden := [] :: o.hidden, loops := 0 }
    let leave : Exec Unit := change fun o =>
      let bindings := (o.hidden.head?.getD []).foldl (fun vs (name, old) => match old with
        | some v => setEntry name v vs
        | none => vs.filter (·.1 != name)) o.bindings
      { o with arguments := saved.arguments, loops := saved.loops, hidden := o.hidden.drop 1, bindings }
    let status ← tryCatch (run fuel body) fun stop => match stop with
      | .fromFunction status => pure status
      | other => do
        leave
        throw other
    leave
    return status

def ownCommand : Nat → String → List String → Exec Nat
  | 0, _, _ => throw (.exit 125)
  | fuel + 1, name, args => do
    match ordinary? name args, name, args with
    | some command, _, _ => command
    | none, "eval", _ =>
      let (.mk commands failure, documents) := Program.ofText (" ".intercalate args)
      withDocuments fuel documents (.mk commands (failure.map fun (line, message) => (line, "eval: " ++ message)))
    | none, ".", file :: _ => runFile fuel file
    | none, "exec", command :: args => replaceBy fuel command args
    | none, "command", "-v" :: names => pointOut names
    | none, "command", command :: args =>
      if isOwnCommand command then ownCommand fuel command args else program fuel command args
    | none, _, _ => return 0

/-- Runs the commands of a file, which is looked for along the search path unless its name has a slash. -/
def runFile : Nat → String → Exec Nat
  | 0, _ => throw (.exit 125)
  | fuel + 1, file => do
    let s ← get
    let places := ((← valueOf? "PATH").getD "").splitOn ":"
    let found := (places.map (Path.join · file)).find? fun text =>
      (s.files.locate s.own.directory text).toOption.isSome
    let named := file.toList.contains '/'
    if !named && found.isNone then failWith s!".: {file}: not found"
    match s.files.locate s.own.directory (if named then file else found.getD "") with
    | .ok (_, .file content _) =>
      let (program, documents) := Program.ofText (decode content)
      tryCatch (withDocuments fuel documents program) fun stop => match stop with
        | .fromFunction status => pure status
        | other => throw other
    | _ => failWith s!".: cannot open {file}: No such file"

/-- Ends the shell with what a program does in its place. -/
def replaceBy : Nat → String → List String → Exec Nat
  | 0, _, _ => throw (.exit 125)
  | fuel + 1, command, args => do
    match ← lookFor command with
    | .entry path entry =>
      change fun o => { o with traps := [] }
      throw (.exit (← start fuel path entry command args))
    | .missing =>
      complain s!"exec: {command}: not found"
      throw (.exit 127)
    | .forbidden =>
      complain s!"exec: {command}: Permission denied"
      throw (.exit 126)

def withDocuments : Nat → List (Nat × Word) → Program → Exec Nat
  | 0, _, _ => throw (.exit 125)
  | fuel + 1, documents, program => do
    let saved := (← own).documents
    change fun o => { o with documents }
    let status ← runProgram fuel program
    change fun o => { o with documents := saved }
    return status

/-- Runs the commands of a program in order, and reports the error that stopped its reading. -/
def runProgram : Nat → Program → Exec Nat
  | 0, _ => throw (.exit 125)
  | fuel + 1, .mk commands failure => do
    let o ← own
    let mut status ← setStatus (if commands.isEmpty then 0 else o.status)
    for c in commands do status ← run fuel c
    match failure with
    | none => return status
    | some (line, message) =>
      change fun o => { o with line }
      failWith message

/-- Finds a program by its name and runs it. -/
def program : Nat → String → List String → Exec Nat
  | 0, _, _ => throw (.exit 125)
  | fuel + 1, name, args => do
    match ← lookFor name with
    | .missing =>
      complain s!"{name}: not found"
      return 127
    | .forbidden =>
      complain s!"{name}: Permission denied"
      return if name.toList.contains '/' then 126 else 127
    | .entry path entry => start fuel path entry name args

def start : Nat → Path → Entry → String → List String → Exec Nat
  | 0, _, _, _, _ => throw (.exit 125)
  | fuel + 1, path, entry, name, args => do
    match entry with
    | .program p =>
      if p == "sh" then shell fuel name args
      else if p == "env" then withBindings fuel args
      else if p == "which" then whereabouts args
      else if p == "xargs" then overItems fuel args
      else match Utility.programs.lookup p with
        | some u => apart (utility p u args)
        | none => return 127
    | .file content _ =>
      let text := if name.toList.contains '/' then name else path.text
      match interpreter? content with
      | some (interpreter, extra) =>
        match (← get).files.locate [] interpreter with
        | .ok (p, e) =>
          if isRunnable e then start fuel p e interpreter (extra ++ text :: args)
          else
            complain s!"{name}: Permission denied"
            return 126
        | .error _ =>
          complain s!"{name}: not found"
          return 127
      | none => shell fuel name (text :: args)
    | _ => return 126

def withBindings : Nat → List String → Exec Nat
  | 0, _ => throw (.exit 125)
  | fuel + 1, args => do
    let isBinding (a : String) : Bool := a.toList.contains '='
    let cleared := args.head? == some "-i"
    let args := if cleared then args.drop 1 else args
    let bindings := args.takeWhile isBinding
    apart do
      if cleared then change fun o => { o with bindings := o.bindings.filter fun (_, v) => !v.exported }
      for b in bindings do
        let (name, value) := binding b
        change fun o => { o with bindings := setEntry name ⟨value.getD "", true, false⟩ o.bindings }
      match args.dropWhile isBinding with
      | [] =>
        for (name, value) in ← exported do write 1 (encode s!"{name}={value}\n")
        return 0
      | command :: args =>
        let o ← own
        match findProgram (← get).files o.directory ((← valueOf? "PATH").getD defaultSearchPath) command with
        | .entry path entry => start fuel path entry command args
        | .missing =>
          write 2 (encode s!"env: '{command}': No such file or directory\n")
          return 127
        | .forbidden =>
          write 2 (encode s!"env: '{command}': Permission denied\n")
          return 126

/-- Runs a program with the items of the input as further arguments: all at once, so many at a time, or each in the
place of a mark. -/
def overItems : Nat → List String → Exec Nat
  | 0, _ => throw (.exit 125)
  | fuel + 1, args => do
    let options := Invocation.ofArguments args
    let input ← channel? 0
    let available := input.elim [] fun (_, c) => c.available
    let silent ← openChannel (.device .null)
    apart do
      lead 0 silent
      invokeAll fuel 0 (options.invocations (decode available))

/-- Runs programs, and gives 123 if one of them failed. -/
def invokeAll : Nat → Nat → List (List String) → Exec Nat
  | 0, _, _ => throw (.exit 125)
  | _, status, [] => return status
  | _, status, [] :: _ => return status
  | fuel + 1, status, (command :: args) :: more => do
    match ← lookFor command with
    | .entry path entry =>
      let ended ← start fuel path entry command args
      if ended == 255 then
        write 2 (encode s!"xargs: {command}: exited with status 255; aborting\n")
        return 124
      invokeAll fuel (if ended == 0 then status else 123) more
    | .missing =>
      write 2 (encode s!"xargs: {command}: No such file or directory\n")
      return 127
    | .forbidden =>
      write 2 (encode s!"xargs: {command}: Permission denied\n")
      return 126

/-- Runs a shell of its own: commands given as text, in a file, or on the input. -/
def shell : Nat → String → List String → Exec Nat
  | 0, _, _ => throw (.exit 125)
  | fuel + 1, name, args => do
    let s ← get
    let process := s.processes + 1
    modify fun s => { s with processes := process }
    let environment ← exported
    let flags := args.takeWhile fun a => a.toList.head? == some '-' && a.length > 1
    let letters := flags.flatMap fun f => f.toList.drop 1
    let operands := args.drop flags.length
    let input := ((← channel? 0).elim [] fun (_, c) => c.available)
    let (text, title, arguments) : Except String String × String × List String :=
      match letters.contains 'c', operands with
      | true, text :: title :: arguments => (.ok text, title, arguments)
      | true, [text] => (.ok text, name, [])
      | true, [] => (.error s!"{name}: 0: -c requires an argument", name, [])
      | false, [] => (.ok (decode input), name, [])
      | false, file :: arguments =>
        match s.files.locate s.own.directory file with
        | .ok (_, .file content _) => (.ok (decode content), file, arguments)
        | .ok (_, .directory) => (.ok "", file, arguments)
        | _ => (.error s!"{name}: 0: cannot open {file}: No such file", name, arguments)
    match text with
    | .error message =>
      write 2 (encode (message ++ "\n"))
      return 2
    | .ok text =>
      let saved ← own
      change fun o => freshOwn o process environment title arguments
      change fun o => { o with options := letters.filter (['e', 'u', 'f', 'x', 'a'].contains ·) }
      let (program, documents) := Program.ofText text
      let body : Exec Nat := finishing fuel (withDocuments fuel documents program)
      let outcome ← tryCatch (do pure (Sum.inl (← body))) fun stop => match stop with
        | .exit status => pure (Sum.inl status)
        | .fromFunction status => pure (Sum.inl status)
        | .leave _ => pure (Sum.inl 0)
        | .again _ => pure (Sum.inl 0)
        | .killed p signal => pure (Sum.inr (p, signal))
      change fun _ => saved
      match outcome with
      | .inl status => return status
      | .inr (p, signal) =>
        if p != process || saved.process == 0 then throw (.killed p signal)
        let words := signalWords signal
        if words != "" then write 2 (encode (words ++ "\n"))
        return 128 + signal

/-- Runs a shell to its end, with the command that is kept for the end, and those kept for signals. -/
def finishing : Nat → Exec Nat → Exec Nat
  | 0, _ => throw (.exit 125)
  | fuel + 1, body => do
    let outcome : Sum Nat Stop ← tryCatch (do pure (.inl (← body))) fun stop => match stop with
      | .exit status => pure (.inl status)
      | .fromFunction status => pure (.inl status)
      | .leave _ => pure (.inl 0)
      | .again _ => pure (.inl 0)
      | .killed p signal => pure (.inr (.killed p signal))
    match outcome with
    | .inr stop => throw stop
    | .inl status =>
      match (← own).traps.lookup 0 with
      | none => return status
      | some text =>
        change fun o => { o with traps := o.traps.filter (·.1 != 0), status }
        let (program, documents) := Program.ofText text
        let _ ← withDocuments fuel documents program
        return status

end

end Exec

end Acceptance.Shell
