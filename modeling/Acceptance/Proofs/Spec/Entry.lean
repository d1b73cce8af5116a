import Acceptance.Proofs.Line.Reader
import Acceptance.Proofs.Spec.Reading
import Acceptance.Proofs.Token.Lexer

/-!
# Scenarios of bytes and of texts

The scenarios of a text are those that its significant tokens spell (`parseText_greedy`), and the significant tokens
depend only on the outlines of the lines that are not blank.  A reader without failures gives the scenarios of the
text that its bytes stand for (`parseReader_of_smooth`).
-/

namespace Acceptance

/-- Whether some character of a text is not a blank. -/
def isWritten (text : String) : Bool := text.toList.any fun c => !isBlank c

/-- The outlines of the lines that are not blank. -/
def outlines (texts : List String) : List Outline := (texts.filter isWritten).map outline

/-- What the lines with the given outlines become, prose left out. -/
def significant (ps : List Outline) : List Content := (places 0 ps).filter fun c => c.1 != .prose

/-- The tokens of lines that are not blank. -/
theorem contents_filter_tokensFrom (n : Nat) (texts : List String) :
    contents ((tokensFrom 0 ((numbered n texts).filter Line.isNotBlank)).filter Token.isSignificant) =
      significant (outlines texts) := by
  have hlines : ((numbered n texts).filter Line.isNotBlank).map Line.text = texts.filter isWritten := by
    have h := (List.filter_map (f := Line.text) (p := isWritten) (l := numbered n texts)).symm
    rwa [map_text_numbered] at h
  have hcontents :
      contents (tokensFrom 0 ((numbered n texts).filter Line.isNotBlank)) = places 0 (outlines texts) := by
    rw [contents_tokensFrom, outlines, ← hlines, List.map_map]
    rfl
  rw [significant, ← hcontents, contents, contents, List.filter_map]
  rfl

namespace Parser

/-- The parser of a source of lines makes the scenarios that the tokens of the lines spell. -/
private theorem exists_greedy_ofLines {lines : Lines} {n : Nat} {texts : List String}
    (h : Source.Yields lines (numbered n texts) .stops) :
    ∃ ss, (parse (ofTokens (Lexer.ofLines lines))).1 = .ok ss ∧ Greedy (significant (outlines texts)) ss := by
  have hwritten : Source.Yields (Filtered.ofPredicate lines Line.isNotBlank)
      ((numbered n texts).filter Line.isNotBlank) .stops := Filtered.yields_ofPredicate h
  obtain ⟨ss, hss, hg⟩ := exists_greedy (Lexer.yields_tokensFrom 0 hwritten)
  rw [contents_filter_tokensFrom] at hg
  exact ⟨ss, hss, hg⟩

end Parser

private theorem smooth_ofBytes (bs : List UInt8) : (Reader.ofBytes bs).Smooth :=
  ⟨by show 0 < Reader.defaultCapacity; decide, nofun⟩

private theorem bytes_ofBytes (bs : List UInt8) : (Reader.ofBytes bs).bytes = bs := List.append_nil bs

/-- The lines of a text are given one after the other. -/
theorem Lines.yields_ofText (text : String) :
    Source.Yields (Lines.ofText text) (numbered 0 (textLines text)) .stops := by
  have h := yields_ofReader (smooth_ofBytes (encode text))
  rwa [bytes_ofBytes, byteLines_eq_textLines, decode_encode] at h

/-- Parsing a text does not fail, and it gives the scenarios that its tokens spell. -/
theorem parseText_greedy (text : String) :
    (Parser.parse (Parser.ofTokens (Lexer.ofLines (.ofText text)))).1 = .ok (parseText text) ∧
      Parser.Greedy (significant (outlines (textLines text))) (parseText text) := by
  obtain ⟨ss, hss, hg⟩ := Parser.exists_greedy_ofLines (Lines.yields_ofText text)
  have h : parseText text = ss := by rw [parseText, hss]
  rw [h]
  exact ⟨hss, hg⟩

/-- The scenarios of a text are known once they spell what its tokens begin with. -/
theorem parseText_eq_of_greedy {text : String} {ss : List Scenario}
    (h : Parser.Greedy (significant (outlines (textLines text))) ss) : parseText text = ss :=
  (parseText_greedy text).2.unique h

/-- A reader without failures gives the scenarios of the text of its bytes, wherever the bytes are divided. -/
theorem parseReader_of_smooth {r : Reader} (h : r.Smooth) : parseReader r = .ok (parseText (decode r.bytes)) := by
  obtain ⟨ss, hss, hg⟩ := Parser.exists_greedy_ofLines (Lines.yields_ofReader h)
  rw [byteLines_eq_textLines] at hg
  rw [parseText_eq_of_greedy hg]
  exact hss

/-- However its bytes are delivered, a reader without failures gives the lines of their text and the scenarios of
their text, and no text is without a result. -/
theorem parseReader_eq_parseText {r : Reader} (h : r.Smooth) :
    parseReader r = .ok (parseText (decode r.bytes)) ∧
      Source.Yields (Lines.ofReader r) (numbered 0 (textLines (decode r.bytes))) .stops ∧
      byteLines r.bytes = textLines (decode r.bytes) ∧
      ∀ text, (Parser.parse (Parser.ofTokens (Lexer.ofLines (.ofText text)))).1 = .ok (parseText text) := by
  refine ⟨parseReader_of_smooth h, ?_, byteLines_eq_textLines r.bytes, fun text => (parseText_greedy text).1⟩
  rw [← byteLines_eq_textLines]
  exact Lines.yields_ofReader h

/-- A carriage return, a newline and a character cut off by it, in three deliveries with an interruption. -/
theorem parseReader_eq_parseText_divided :
    let r : Reader := .ofDeliveries [.data [71, 105, 118, 101, 110, 58, 13], .fault (.reported .interrupted "again"),
      .data [10, 32, 0xE2], .data [0x82, 10, 0xFF]] 2
    r.Smooth ∧ parseReader r = .ok (parseText (decode r.bytes)) ∧
      Source.Yields (Lines.ofReader r) (numbered 0 (textLines (decode r.bytes))) .stops ∧
      byteLines r.bytes = textLines (decode r.bytes) ∧
      ∀ text, (Parser.parse (Parser.ofTokens (Lexer.ofLines (.ofText text)))).1 = .ok (parseText text) := by
  intro r
  have h : r.Smooth := ⟨by decide, by simp [r, Reader.ofDeliveries, Delivery.Smooth, Fault.kind]⟩
  exact ⟨h, parseReader_eq_parseText h⟩

end Acceptance
