/-!
# Shell commands

The tree of a shell program: words made of pieces that are expanded in different ways, redirections, and commands from
simple ones to loops. A here-document is kept apart from the redirection that uses it and found by its number.
-/

namespace Acceptance.Shell

mutual

/-- A part of a word. -/
inductive Piece where
  /-- Text outside quotes. -/
  | bare (text : String)
  /-- Text inside quotes, which stands for itself. -/
  | quoted (text : String)
  /-- The value of a parameter; inside double quotes it is not split. -/
  | parameter (name : String) (use : Use) (inQuotes : Bool)
  /-- The output of commands. -/
  | output (program : Program) (inQuotes : Bool)
  /-- The value of an arithmetic expression. -/
  | number (expression : List Piece) (inQuotes : Bool)

/-- What is made of a parameter's value. In the conditional uses, `orEmpty` treats an empty value as an unset one. -/
inductive Use where
  | value
  | length
  | orElse (orEmpty : Bool) (word : List Piece)
  | orAssign (orEmpty : Bool) (word : List Piece)
  | orFail (orEmpty : Bool) (word : List Piece)
  | ifSet (orEmpty : Bool) (word : List Piece)
  /-- Without the shortest or longest matching text at the front. -/
  | dropFront (longest : Bool) (pattern : List Piece)
  /-- Without the shortest or longest matching text at the end. -/
  | dropEnd (longest : Bool) (pattern : List Piece)

/-- Where a redirection leads. -/
inductive Target where
  | readFile (name : List Piece)
  | writeFile (name : List Piece)
  | appendFile (name : List Piece)
  | readWriteFile (name : List Piece)
  /-- The same place as another descriptor, or none for `-`. -/
  | duplicate (descriptor : List Piece)
  | hereDocument (number : Nat)

/-- A redirection of a descriptor. -/
inductive Redirection where
  | mk (descriptor : Nat) (target : Target)

/-- A command. -/
inductive Command where
  | simple (line : Nat) (assignments : List (String × List Piece)) (words : List (List Piece))
      (redirections : List Redirection)
  /-- Commands of which each reads what the one before it writes. -/
  | pipeline (commands : List Command)
  | negated (command : Command)
  | both (first second : Command)
  | either (first second : Command)
  | sequence (commands : List Command)
  | background (command : Command)
  | group (body : Command) (redirections : List Redirection)
  | subshell (body : Command) (redirections : List Redirection)
  | conditional (test yes : Command) (no : Option Command) (redirections : List Redirection)
  | loop (whileTrue : Bool) (test body : Command) (redirections : List Redirection)
  | each (name : String) (words : Option (List (List Piece))) (body : Command) (redirections : List Redirection)
  | choose (word : List Piece) (branches : List (List (List Piece) × Command)) (redirections : List Redirection)
  | function (name : String) (body : Command)

/-- Complete commands in order, and the error that stopped the reading, with its line. -/
inductive Program where
  | mk (commands : List Command) (failure : Option (Nat × String))

end

instance : Inhabited Command := ⟨.sequence []⟩

abbrev Word := List Piece

end Acceptance.Shell
