import Acceptance.Text.Invisible
import Acceptance.Text.Combining

/-!
# Quoted texts

A quoted text stands in double quotes. A backslash and a double quote are written after a backslash, the common
control characters by a letter, and every other character that is invisible or combining as `\u{…}` with its code
point in hexadecimal. All other characters, single quotes among them, stand for themselves.
-/

namespace Acceptance

/-- Whether a character is written by its code point. -/
def needsCodePoint (c : Char) : Bool :=
  if c.toNat < 0x7F then c.toNat < 0x20 else isInvisible c || isCombining c

/-- A code point in braces, in lower case and without padding. -/
def codePointEscape (c : Char) : List Char :=
  '\\' :: 'u' :: '{' :: (Nat.toDigits 16 c.toNat ++ ['}'])

/-- How a character is written inside quotes. -/
def quoteChar (c : Char) : List Char :=
  if c = '"' then ['\\', '"']
  else if c = '\\' then ['\\', '\\']
  else if c = '\n' then ['\\', 'n']
  else if c = '\r' then ['\\', 'r']
  else if c = '\t' then ['\\', 't']
  else if c = '\x00' then ['\\', '0']
  else if needsCodePoint c then codePointEscape c
  else [c]

/-- A text in double quotes. -/
def quote (s : String) : String := String.ofList ('"' :: (s.toList.flatMap quoteChar ++ ['"']))

/-- A bracketed list of quoted texts. -/
def quoteList (texts : List String) : String :=
  "[" ++ ", ".intercalate (texts.map quote) ++ "]"

end Acceptance
