import Acceptance.Shell.Glob

/-!
# Expanded words

An expanded word is a list of glyphs: characters that know whether they are quoted and whether they come from an
expansion, and marks for the ends of fields. Only characters from expansions separate fields, and a quoted character
stands for itself in a pattern.
-/

namespace Acceptance.Shell

/-- A part of an expanded word. -/
inductive Glyph where
  | char (c : Char) (quoted split : Bool)
  /-- The end of a field. -/
  | fieldEnd
  /-- Nothing, but a field even so. -/
  | nothing

namespace Glyph

/-- The characters of a text, which is not split. -/
def ofText (quoted : Bool) (text : String) : List Glyph :=
  if text == "" && quoted then [.nothing] else text.toList.map fun c => .char c quoted false

/-- The characters of a value: split unless it stands in quotes. -/
def ofValue (inQuotes : Bool) (text : String) : List Glyph :=
  if inQuotes then ofText true text else text.toList.map fun c => .char c false true

/-- The text of an expansion that is not split. -/
def text (gs : List Glyph) : String :=
  String.ofList (gs.filterMap fun g => match g with
    | .char c _ _ => some c
    | .fieldEnd => some ' '
    | .nothing => none)

def pattern (gs : List Glyph) : List PatternChar :=
  gs.filterMap fun g => match g with
    | .char c quoted _ => some ⟨c, quoted⟩
    | _ => none

/-- The characters that separate fields when nothing else is said. -/
def defaultSeparators : String := " \t\n"

/-- Splits an expansion into fields. `field` is the field that is being read, if one has begun, and `closed` says that
the last field was ended by a blank only. -/
def fields (separators : String) (field : Option (List PatternChar)) (closed : Bool) :
    List Glyph → List (List PatternChar)
  | [] => field.toList
  | .fieldEnd :: gs => field.toList ++ fields separators none false gs
  | .nothing :: gs => fields separators (some (field.getD [])) false gs
  | .char c quoted split :: gs =>
    if split && separators.toList.contains c then
      if c.isWhitespace then field.toList ++ fields separators none (closed || field.isSome) gs
      else if field.isNone && closed then fields separators none false gs
      else [field.getD []] ++ fields separators none false gs
    else fields separators (some (field.getD [] ++ [⟨c, quoted⟩])) false gs

/-- The texts that begin, or end, a text, with what is left of it, the shortest first. -/
def cuts (front : Bool) (text : List Char) : List (String × String) :=
  (List.range (text.length + 1)).map fun n =>
    if front then (String.ofList (text.take n), String.ofList (text.drop n))
    else (String.ofList (text.drop (text.length - n)), String.ofList (text.take (text.length - n)))

/-- A text without the shortest or longest matching text at one end. -/
def trimmed (front longest : Bool) (pattern : List PatternChar) (text : String) : String :=
  let all := cuts front text.toList
  ((if longest then all.reverse else all).find? fun (cut, _) => Glob.accepts pattern cut).elim text (·.2)

end Glyph

end Acceptance.Shell
