import Acceptance.Text.Quoted

/-!
# Tokens

A specification is made of directives, the commands indented under them, and prose. Each becomes a token with the
number of its line. Two tokens are equal if their kinds and values are; the line is for information only.
-/

namespace Acceptance

/-- The directives of a specification. -/
inductive Directive where
  /-- Starts a scenario with what must hold before it. -/
  | precondition
  /-- What is done in a behavior. -/
  | action
  /-- What is expected after it. -/
  | expectation
  /-- A further block that must hold too. -/
  | also
  /-- A further block that may hold instead. -/
  | instead
  /-- What is done at the end of a scenario. -/
  | cleanup
deriving DecidableEq, Repr

namespace Directive

/-- All directives, in the order in which a line is compared with them. -/
def all : List Directive := [precondition, action, expectation, also, instead, cleanup]

/-- The text that introduces a directive. -/
def literal : Directive → String
  | precondition => "Given:"
  | action => "When:"
  | expectation => "Then:"
  | also => "And:"
  | instead => "Or:"
  | cleanup => "(finally)"

end Directive

/-- The kinds of tokens. -/
inductive TokenKind where
  /-- A line that is neither a directive nor a command. -/
  | prose
  /-- An indented line under a directive. -/
  | command
  | directive (d : Directive)
deriving DecidableEq, Repr

namespace TokenKind

/-- The directive literal of a kind, if it has one. -/
def literal? : TokenKind → Option String
  | directive d => some d.literal
  | _ => none

/-- The name of a kind. -/
def text : TokenKind → String
  | prose => "<Text>"
  | command => "<Block>"
  | directive d => d.literal

end TokenKind

/-- A line of a specification, classified. -/
structure Token where
  kind : TokenKind
  value : String
  /-- The line of the token, 0 if it was not read from lines. -/
  line : Nat
deriving DecidableEq, Repr

namespace Token

/-- Whether two tokens have the same kind and value. -/
def same (a b : Token) : Bool := a.kind == b.kind && a.value == b.value

instance : BEq Token := ⟨same⟩

/-- Whether a token is not prose. -/
def isSignificant (t : Token) : Bool := t.kind != .prose

/-- The text of a token: its kind in parentheses and its quoted value. -/
def text (t : Token) : String := "(" ++ t.kind.text ++ ")" ++ quote t.value

end Token

end Acceptance
