import Acceptance.Line.Reader
import Acceptance.Source.Filtered
import Acceptance.Token.Basic

/-!
# Classifying lines

An indented line is a command as long as its indentation does not fall below that of the command before it. A line
that is not a command is a directive if it begins with a directive literal, and prose otherwise. After a line that is
not a command any indentation makes a command again.
-/

namespace Acceptance

/-- The directive at the front of a text, and the text after it. -/
def Directive.atFront? (text : String) : Option (Directive × String) :=
  all.findSome? fun d => (dropLiteral? d.literal text).map fun rest => (d, rest)

/-- The kind of a line that is no command, and what it holds. -/
def uncommanded (text : String) : TokenKind × String :=
  match Directive.atFront? text with
  | some (d, rest) => (.directive d, rest)
  | none => (.prose, text)

/-- Whether a line is a command after a command of the given indentation, which is 0 if there was none. -/
def isCommand (last : Nat) (text : String) : Bool := 0 < indentation text && last ≤ indentation text

/-- The token of a line, and the indentation that the next command must have. -/
def classify (last : Nat) (line : Line) : Token × Nat :=
  if isCommand last line.text then (⟨.command, trim line.text, line.number⟩, indentation line.text)
  else (⟨(uncommanded line.text).1, trim (uncommanded line.text).2, line.number⟩, 0)

/-- The tokens of a source of lines. -/
structure Lexer (σ : Type) where
  lines : σ
  /-- The indentation of the last line if it was a command, and 0 otherwise. -/
  last : Nat

namespace Lexer

variable {σ ε : Type} [Source σ Line ε]

/-- The tokens of all lines of a source, blank ones included. -/
def ofSource (lines : σ) : Lexer σ := ⟨lines, 0⟩

/-- The tokens of the lines of a reader that are not blank. -/
def ofLines (lines : Lines) : Lexer (Filtered Lines Unit Line) :=
  ofSource (.ofPredicate lines Line.isNotBlank)

/-- Pulls one line and classifies it. -/
def pull (s : Lexer σ) : Answer Token ε × Lexer σ :=
  match Source.pull s.lines with
  | (.item line, lines) => (.item (classify s.last line).1, ⟨lines, (classify s.last line).2⟩)
  | (.stop, lines) => (.stop, { s with lines })
  | (.failed e, lines) => (.failed e, { s with lines })

theorem size_pull_le (s : Lexer σ) : Source.size (pull s).2.lines ≤ Source.size s.lines := by
  have h := Source.size_le s.lines
  unfold pull
  split <;> rename_i hp <;> rw [hp] at h <;> exact h

theorem size_pull_lt (s : Lexer σ) (t : Token) (ht : (pull s).1 = .item t) :
    Source.size (pull s).2.lines < Source.size s.lines := by
  unfold pull at ht ⊢
  split <;> rename_i hp <;> rw [hp] at ht
  · exact Source.size_lt_of_pull hp
  · cases ht
  · cases ht

end Lexer

instance [Source σ Line ε] : Source (Lexer σ) Token ε where
  pull := Lexer.pull
  size s := Source.size s.lines
  size_le := Lexer.size_pull_le
  size_lt := Lexer.size_pull_lt

end Acceptance
