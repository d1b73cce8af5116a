import Acceptance.Run.Runner
import Acceptance.Source.Tally

/-!
# The journal

A record of the work itself, apart from its results: each token when it is made, each scenario when it is parsed, each
command when it is attempted, and the end of each scenario or the fact that it was skipped.
-/

namespace Acceptance

/-- How much an entry matters. -/
inductive Level where
  | debug
  | trace
deriving DecidableEq, Repr

namespace Level

/-- The name of a level. -/
def text : Level → String
  | debug => "DEBUG"
  | trace => "TRACE"

end Level

/-- One entry of the journal. -/
inductive JournalEntry where
  | token (t : Token)
  | parsed (s : Scenario)
  | executing (command : String)
  | skipping (name pattern : String)
  | finished (name : String) (passed : Bool)
deriving Repr

namespace JournalEntry

/-- The level of an entry. -/
def level : JournalEntry → Level
  | token _ => .trace
  | _ => .debug

/-- The text of an entry. -/
def message : JournalEntry → String
  | token t => s!"line {t.line}: {t.text}"
  | parsed s => s!"parsed scenario {quote s.precondition.description} with {s.behaviors.length} behavior(s)"
  | executing command => "exec: " ++ command
  | skipping name pattern => s!"skipping {quote name}: does not match {pattern}"
  | finished name passed => s!"scenario {quote name}: " ++ (if passed then "passed" else "failed")

end JournalEntry

namespace Journal

/-- The entries for the tokens given after the first `known`. -/
def ofTokens (known : Nat) (given : List Token) : List JournalEntry := (given.drop known).map .token

/-- The entries for the scenarios of a parsing whose tokens are recorded, when `known` tokens have been given before,
and for the tokens at its end. -/
def ofParsing {σ : Type} (known : Nat) (rest : Parser (Tally σ Token)) :
    List (Scenario × Parser (Tally σ Token)) → List JournalEntry
  | [] => ofTokens known rest.source.given
  | (s, after) :: completed =>
    let given := after.source.given
    ofTokens known given ++ .parsed s :: ofParsing given.length rest completed

/-- The entries for the commands attempted in a session. -/
def ofHistory (history : List Happening) : List JournalEntry :=
  (history.filterMap Happening.attempted?).map .executing

/-- The entries for a case. -/
def ofCase (filter : Option Filter) (c : Case) : List JournalEntry :=
  if c.skipped then [.skipping c.name (filter.elim "" Filter.pattern)]
  else match c.session with
    | none => []
    | some s => ofHistory s.history ++ [.finished c.name c.passed]

end Journal

end Acceptance
