import Acceptance.Proofs.Line.Reader
import Acceptance.Proofs.Token.Classification

/-!
# Tokens and the lines they come from

The tokens of a reader stand for the lines that are not blank, one for each in order, and each tells the number of its
line among all lines (`Lexer.exists_yields_traced`).  Whether a line is blank can be told from its bytes as well as
from its text, and a line that is not blank leaves a text when it is trimmed.
-/

namespace Acceptance

/-! ### Blanks in bytes -/

/-- The byte of a space or of a tab. -/
def isBlankByte (b : UInt8) : Bool := b == 32 || b == 9

theorem isBlankByte_iff {b : UInt8} : isBlankByte b = true ↔ b.toNat = 32 ∨ b.toNat = 9 := by
  simp [isBlankByte, ← UInt8.toNat_inj]

theorem isBlank_iff {c : Char} : isBlank c = true ↔ c.toNat = 32 ∨ c.toNat = 9 := by
  simp [isBlank, ← Char.toNat_inj]

/-- A byte of a blank is read as the blank. -/
private theorem readByte_of_isBlankByte {b : UInt8} (h : isBlankByte b = true) :
    ∃ c, readByte none b = ([c], none) ∧ isBlank c = true := by
  have hb : b = 32 ∨ b = 9 := by simpa [isBlankByte] using h
  rcases hb with rfl | rfl
  · exact ⟨' ', rfl, rfl⟩
  · exact ⟨'\t', rfl, rfl⟩

theorem blanks_readBytes {bs : List UInt8} (h : ∀ b ∈ bs, isBlankByte b = true) : Blanks (readBytes none bs) := by
  induction bs with
  | nil => nofun
  | cons b bs ih =>
    obtain ⟨hb, hbs⟩ := List.forall_mem_cons.1 h
    obtain ⟨c, hc, hblank⟩ := readByte_of_isBlankByte hb
    rw [readBytes_cons, hc]
    exact List.forall_mem_cons.2 ⟨hblank, ih hbs⟩

/-- Any other byte leaves a character that is not a blank. -/
theorem not_blanks_readBytes {bs : List UInt8} {b : UInt8} (hb : b ∈ bs) (h : isBlankByte b = false) :
    ¬ Blanks (readBytes none bs) := by
  intro hblanks
  by_cases hlt : b.toNat < 0x80
  · obtain ⟨before, after, rfl⟩ := List.append_of_mem hb
    rw [readBytes_append_ascii sound_none before hlt] at hblanks
    have hc : isBlank (Char.ofNat b.toNat) = true := hblanks _ (List.mem_append_right _ List.mem_cons_self)
    rw [isBlank_iff, toNat_charOfNat_of_lt hlt, ← isBlankByte_iff, h] at hc
    cases hc
  · obtain ⟨c, hc, hrange⟩ := exists_mem_readBytes_of_le sound_none hb (Nat.not_lt.1 hlt)
    have hblank := isBlank_iff.1 (hblanks c hc)
    omega

/-- Whether a line is blank can be told from its bytes. -/
theorem isNotBlank_decode (n : Nat) (bs : List UInt8) :
    Line.isNotBlank ⟨n, decode bs⟩ = bs.any fun b => !isBlankByte b := by
  have htext : Line.isNotBlank ⟨n, decode bs⟩ = true ↔ ¬ Blanks (readBytes none bs) := by
    simp [Line.isNotBlank, decode, Blanks]
  have hbytes : (bs.any fun b => !isBlankByte b) = true ↔ ¬ ∀ b ∈ bs, isBlankByte b = true := by
    simp
  rw [Bool.eq_iff_iff, htext, hbytes, not_iff_not]
  constructor
  · intro hblanks b hb
    by_contra h
    exact not_blanks_readBytes hb (by simpa using h) hblanks
  · exact blanks_readBytes

theorem trim_ne_empty {line : Line} (h : line.isNotBlank = true) : trim line.text ≠ "" := by
  intro hempty
  have hnil : trimBlanks line.text.toList = [] := by rw [← toList_trim, hempty]; rfl
  have hblanks := trimBlanks_eq_nil_iff.1 hnil
  obtain ⟨c, hc, hnot⟩ := List.any_eq_true.1 h
  rw [hblanks c hc] at hnot
  cases hnot

/-! ### Lines of bytes -/

/-- The lines of bytes without the newlines that end them and without one carriage return at the end of each. -/
def rawLines (bs : List UInt8) : List (List UInt8) := (splitLines newline bs).map (dropFinal carriageReturn)

/-- The lines of a reader's bytes that are not blank, each with its number among all lines. -/
def writtenLines (bs : List UInt8) : List (List UInt8 × Nat) :=
  ((rawLines bs).zipIdx 1).filter fun p => p.1.any fun b => !isBlankByte b

theorem filter_numbered_byteLines (bs : List UInt8) :
    (numbered 0 (byteLines bs)).filter Line.isNotBlank =
      (writtenLines bs).map fun p => ⟨p.2, decode p.1⟩ := by
  have hlines : numbered 0 (byteLines bs) = ((rawLines bs).zipIdx 1).map fun p => ⟨p.2, decode p.1⟩ := by
    rw [numbered, byteLines, ← Function.comp_def, ← List.map_map, ← rawLines, List.zipIdx_map, List.map_map]
    rfl
  rw [hlines, writtenLines, List.filter_map]
  congr 1
  exact List.filter_congr fun p _ => isNotBlank_decode p.2 p.1

/-- The numbers of lines rise. -/
theorem pairwise_lt_writtenLines (bs : List UInt8) : ((writtenLines bs).map Prod.snd).Pairwise (· < ·) := by
  have hall : (((rawLines bs).zipIdx 1).map Prod.snd).Pairwise (· < ·) := by
    rw [List.zipIdx_map_snd]
    exact List.pairwise_lt_range'
  exact hall.sublist (List.filter_sublist.map _)

/-! ### What becomes of a line -/

/-- The token is what becomes of a line with these bytes and this number. -/
structure Token.Traces (p : List UInt8 × Nat) (t : Token) : Prop where
  line : t.line = p.2
  /-- Of a directive the literal is taken away. -/
  directive : ∀ d, t.kind = .directive d → ∃ rest, decode p.1 = d.literal ++ rest ∧ t.value = trim rest
  other : (∀ d, t.kind ≠ .directive d) → t.value = trim (decode p.1) ∧ t.value ≠ ""
  oneLine : OneLine t.value
  trimmed : Trimmed t.value

theorem Token.Renders.trimmed {l : Line} {t : Token} (h : t.Renders l) : Trimmed t.value := by
  by_cases hc : t.kind = .command
  · rw [strips_iff.1 (h.command hc)]
    exact trimmed_trim _
  · rcases h.uncommanded hc with ⟨d, rest, -, -, hvalue, -⟩ | ⟨-, -, hvalue⟩ <;> rw [strips_iff.1 hvalue]
    · exact trimmed_trim _
    · exact trimmed_trim _

theorem Token.Renders.directive {l : Line} {t : Token} (h : t.Renders l) {d : Directive} (hd : t.kind = .directive d) :
    ∃ rest, l.text = d.literal ++ rest ∧ t.value = trim rest := by
  rcases h.uncommanded (by simp [hd]) with ⟨d', rest, htext, hkind, hvalue, -⟩ | ⟨-, hkind, -⟩
  · obtain rfl : d' = d := TokenKind.directive.inj (hkind.symm.trans hd)
    exact ⟨rest, htext, strips_iff.1 hvalue⟩
  · cases hkind.symm.trans hd

theorem Token.Renders.other {l : Line} {t : Token} (h : t.Renders l) (hd : ∀ d, t.kind ≠ .directive d) :
    t.value = trim l.text := by
  by_cases hc : t.kind = .command
  · exact strips_iff.1 (h.command hc)
  · rcases h.uncommanded hc with ⟨d, -, -, hkind, -⟩ | ⟨-, -, hvalue⟩
    · exact absurd hkind (hd d)
    · exact strips_iff.1 hvalue

theorem oneLine_decode_of_mem_writtenLines {bs : List UInt8} {p : List UInt8 × Nat} (hp : p ∈ writtenLines bs) :
    OneLine (decode p.1) := by
  obtain ⟨-, -, hraw⟩ := List.mem_zipIdx (List.mem_filter.1 hp).1
  have hmem : p.1 ∈ rawLines bs := hraw ▸ List.getElem_mem _
  obtain ⟨l, hl, hdrop⟩ := List.mem_map.1 hmem
  have hnot : newline ∉ p.1 := by
    rw [← hdrop]
    exact fun hn => not_mem_of_mem_splitLines hl ((dropFinal_isPrefix carriageReturn l).subset hn)
  exact oneLine_ofList.2 (newline_not_mem_readBytes hnot)

/-- What a line becomes that is not blank. -/
theorem Token.Renders.traces {bs : List UInt8} {p : List UInt8 × Nat} (hp : p ∈ writtenLines bs) {t : Token}
    (h : t.Renders ⟨p.2, decode p.1⟩) : t.Traces p := by
  have hline := oneLine_decode_of_mem_writtenLines hp
  have hwritten : Line.isNotBlank ⟨p.2, decode p.1⟩ = true := by
    rw [isNotBlank_decode]
    exact (List.mem_filter.1 hp).2
  refine ⟨h.line, fun d hd => h.directive hd, fun hd => ?_, ?_, h.trimmed⟩
  · have hvalue := h.other hd
    exact ⟨hvalue, hvalue ▸ trim_ne_empty hwritten⟩
  · by_cases hd : ∃ d, t.kind = .directive d
    · obtain ⟨d, hd⟩ := hd
      obtain ⟨rest, htext, hvalue⟩ := h.directive hd
      have htext : decode p.1 = d.literal ++ rest := htext
      rw [htext, oneLine_append] at hline
      rw [hvalue]
      exact hline.2.trim
    · rw [h.other (not_exists.1 hd)]
      exact hline.trim

namespace Lexer

/-- A reader without failures gives one token for each of its lines that is not blank, in order.  Each token tells the
number of its line among all lines, so the numbers rise, and holds what is left of the line when the directive is taken
away and the blanks at both ends; of a line without a directive something is left.  A line is blank if its bytes are. -/
theorem exists_yields_traced {r : Reader} (h : r.Smooth) :
    ∃ ts, Source.Yields (ofLines (.ofReader r)) ts .stops ∧ List.Forall₂ Token.Traces (writtenLines r.bytes) ts ∧
      (ts.map Token.line).Pairwise (· < ·) ∧
      ∀ n bs, Line.isNotBlank ⟨n, decode bs⟩ = bs.any fun b => !isBlankByte b := by
  have hwritten := Filtered.yields_ofPredicate (p := Line.isNotBlank) (Lines.yields_ofReader h)
  have hrenders := renders_tokensFrom 0 ((numbered 0 (byteLines r.bytes)).filter Line.isNotBlank)
  rw [filter_numbered_byteLines] at hwritten hrenders
  have htraces : List.Forall₂ Token.Traces (writtenLines r.bytes) _ :=
    ((List.forall₂_and_left _ _).2 ⟨fun p hp => hp, List.forall₂_map_left_iff.1 hrenders⟩).imp
      fun p t hpt => hpt.2.traces hpt.1
  refine ⟨_, yields_tokensFrom 0 hwritten, htraces, ?_, isNotBlank_decode⟩
  have hlines : List.Forall₂ (· = ·) ((writtenLines r.bytes).map Prod.snd) (List.map Token.line _) :=
    List.forall₂_map_left_iff.2 (List.forall₂_map_right_iff.2 (htraces.imp fun p t ht => ht.line.symm))
  rw [List.forall₂_eq_eq_eq] at hlines
  rw [← hlines]
  exact pairwise_lt_writtenLines r.bytes

/-- Lines of blanks between others, carriage returns, a character cut off by a newline and a delivery in the middle. -/
theorem exists_yields_traced_torn :
    let r : Reader := .ofDeliveries [.data [32, 9, 13, 10, 71, 105, 118, 101, 110, 58, 9],
      .fault (.reported .interrupted ""), .data [0xE2, 10, 13, 10, 9, 13, 13, 10], .data [32, 97, 32, 13]] 2
    (r.Smooth ∧ writtenLines r.bytes = [([71, 105, 118, 101, 110, 58, 9, 0xE2], 2), ([9, 13], 4), ([32, 97, 32], 5)]) ∧
    ∃ ts, Source.Yields (ofLines (.ofReader r)) ts .stops ∧ List.Forall₂ Token.Traces (writtenLines r.bytes) ts ∧
      (ts.map Token.line).Pairwise (· < ·) ∧
      ∀ n bs, Line.isNotBlank ⟨n, decode bs⟩ = bs.any fun b => !isBlankByte b := by
  intro r
  have h : r.Smooth := ⟨by decide, by simp [r, Reader.ofDeliveries, Delivery.Smooth, Fault.kind]⟩
  exact ⟨⟨h, by decide +kernel⟩, exists_yields_traced h⟩

end Lexer

end Acceptance
