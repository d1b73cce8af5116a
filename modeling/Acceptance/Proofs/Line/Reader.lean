import Acceptance.Proofs.Line.Splitting
import Acceptance.Proofs.Source.Yields
import Acceptance.Proofs.Text.OneLine

/-!
# Lines from deliveries

If no delivery is empty and nothing worse than an interruption happens, then the lines of a reader depend only on its
bytes: not on where they are divided into deliveries, on the interruptions in between, nor on the capacity
(`Lines.yields_ofReader`).  Whatever happens, no line holds a newline (`Lines.exists_yields`).
-/

namespace Acceptance

namespace Delivery

/-- The bytes of a delivery. -/
def bytes : Delivery → List UInt8
  | data bytes => bytes
  | fault _ => []

/-- Some bytes, or an interruption. -/
def Smooth : Delivery → Prop
  | data bytes => bytes ≠ []
  | fault cause => cause.kind = .interrupted

end Delivery

/-! ### The next line of bytes -/

theorem splitLine?_append {bs line rest : List UInt8} (h : splitLine? bs = some (line, rest)) (cs : List UInt8) :
    splitLine? (bs ++ cs) = some (line, rest ++ cs) := by
  induction bs generalizing line with
  | nil => cases h
  | cons b bs ih =>
    rw [splitLine?] at h
    rw [List.cons_append, splitLine?]
    by_cases hb : b = newline
    · rw [if_pos hb] at h ⊢
      cases h
      rfl
    · rw [if_neg hb] at h ⊢
      obtain ⟨⟨l, r⟩, hl, he⟩ := Option.map_eq_some_iff.1 h
      cases he
      rw [ih hl]
      rfl

theorem splitLine?_concat {l : List UInt8} (h : newline ∉ l) (rest : List UInt8) :
    splitLine? (l ++ newline :: rest) = some (l ++ [newline], rest) := by
  induction l with
  | nil => rw [List.nil_append, splitLine?, if_pos rfl, List.nil_append]
  | cons b l ih =>
    rw [List.mem_cons, not_or] at h
    rw [List.cons_append, splitLine?, if_neg (Ne.symm h.1), ih h.2]
    rfl

theorem splitLine?_eq_none {l : List UInt8} (h : newline ∉ l) : splitLine? l = none := by
  induction l with
  | nil => rfl
  | cons b l ih =>
    rw [List.mem_cons, not_or] at h
    rw [splitLine?, if_neg (Ne.symm h.1), ih h.2]
    rfl

theorem dropTerminator_subset (bs : List UInt8) : dropTerminator bs ⊆ bs := fun _ h =>
  (dropFinal_isPrefix newline bs).subset ((dropFinal_isPrefix carriageReturn _).subset h)

/-- A line that is split off ends at the first newline. -/
theorem exists_of_splitLine?_eq_some {bs line rest : List UInt8} (h : splitLine? bs = some (line, rest)) :
    ∃ l, newline ∉ l ∧ line = l ++ [newline] ∧ bs = l ++ newline :: rest := by
  by_cases hm : newline ∈ bs
  · obtain ⟨l, after, rfl, hl⟩ := List.eq_append_cons_of_mem hm
    rw [splitLine?_concat hl] at h
    cases h
    exact ⟨l, hl, rfl, rfl⟩
  · rw [splitLine?_eq_none hm] at h
    cases h

theorem not_mem_of_splitLine?_eq_none {bs : List UInt8} (h : splitLine? bs = none) : newline ∉ bs := by
  intro hm
  obtain ⟨l, rest, rfl, hl⟩ := List.eq_append_cons_of_mem hm
  rw [splitLine?_concat hl] at h
  cases h

/-- A line has no newline but the one that ends it. -/
private theorem newline_not_mem_splitLine? {bs line rest : List UInt8} (h : splitLine? bs = some (line, rest)) :
    newline ∉ dropTerminator line := by
  obtain ⟨l, hl, rfl, -⟩ := exists_of_splitLine?_eq_some h
  rw [dropTerminator, dropFinal_concat]
  exact fun hn => hl ((dropFinal_isPrefix carriageReturn l).subset hn)

private theorem newline_not_mem_of_splitLine?_eq_none {bs : List UInt8} (h : splitLine? bs = none) :
    newline ∉ dropTerminator bs :=
  fun hn => not_mem_of_splitLine?_eq_none h (dropTerminator_subset bs hn)

/-- The first line of bytes with its newline, and the bytes after it. -/
def nextLine (bs : List UInt8) : List UInt8 × List UInt8 := (splitLine? bs).getD (bs, [])

private theorem nextLine_concat {l : List UInt8} (h : newline ∉ l) (rest : List UInt8) :
    nextLine (l ++ newline :: rest) = (l ++ [newline], rest) := by
  rw [nextLine, splitLine?_concat h]
  rfl

private theorem nextLine_of_not_mem {l : List UInt8} (h : newline ∉ l) : nextLine l = (l, []) := by
  rw [nextLine, splitLine?_eq_none h]
  rfl

/-- Up to the first newline there is one line, and the other lines come after it. -/
theorem byteLines_append {l : List UInt8} (h : newline ∉ l) (rest : List UInt8) :
    byteLines (l ++ newline :: rest) = decode (dropTerminator (l ++ [newline])) :: byteLines rest := by
  rw [dropTerminator, dropFinal_concat, byteLines, splitLines_append h, List.map_cons, byteLines]

/-- Bytes without a newline are one line. -/
theorem byteLines_of_not_mem {l : List UInt8} (h : newline ∉ l) (hne : l ≠ []) :
    byteLines l = [decode (dropTerminator l)] := by
  rw [dropTerminator, dropFinal_of_ne (getLast?_ne_of_not_mem h), byteLines, splitLines_of_not_mem h hne]
  rfl

/-- The lines of some bytes are the first line without its terminator and the lines of the other bytes. -/
private theorem byteLines_nextLine {bs : List UInt8} (h : bs ≠ []) :
    (nextLine bs).1 ≠ [] ∧ (nextLine bs).2.length < bs.length ∧
      byteLines bs = decode (dropTerminator (nextLine bs).1) :: byteLines (nextLine bs).2 := by
  by_cases hm : newline ∈ bs
  · obtain ⟨l, rest, rfl, hl⟩ := List.eq_append_cons_of_mem hm
    rw [nextLine_concat hl]
    exact ⟨by simp, by simp; omega, byteLines_append hl rest⟩
  · rw [nextLine_of_not_mem hm]
    exact ⟨h, List.length_pos_iff.2 h, byteLines_of_not_mem hm h⟩

/-! ### Taking it from deliveries -/

namespace Reader

/-- All bytes of a reader. -/
def bytes (r : Reader) : List UInt8 := r.held ++ r.deliveries.flatMap Delivery.bytes

/-- A reader without failures, whose portions are not empty. -/
structure Smooth (r : Reader) : Prop where
  capacity : 0 < r.capacity
  deliveries : ∀ d ∈ r.deliveries, d.Smooth

/-- A portion taken from a delivery leaves the other bytes. -/
private theorem flatMap_leave (capacity : Nat) (bs : List UInt8) (rest : List Delivery) :
    bs.take capacity ++ (leave capacity bs rest).flatMap Delivery.bytes = bs ++ rest.flatMap Delivery.bytes := by
  unfold leave
  split
  · rename_i h
    rw [List.take_of_length_le h]
  · rw [List.flatMap_cons, Delivery.bytes, ← List.append_assoc, List.take_append_drop]

private theorem smooth_leave {capacity : Nat} {bs : List UInt8} {rest : List Delivery}
    (h : ∀ d ∈ rest, d.Smooth) : ∀ d ∈ leave capacity bs rest, d.Smooth := by
  unfold leave
  split
  · exact h
  · rename_i hlen
    intro d hd
    rcases List.mem_cons.1 hd with rfl | hd
    · intro hnil
      have := List.drop_eq_nil_iff.1 hnil
      omega
    · exact h d hd

/-- A reader takes the first line of its bytes, whatever its deliveries. -/
theorem takeLine_of_smooth {r : Reader} (h : r.Smooth) :
    ∃ t : Reader, takeLine r = (.ok (nextLine r.bytes).1, t) ∧ t.bytes = (nextLine r.bytes).2 ∧ t.Smooth := by
  fun_induction takeLine r with
  | case1 r line rest hs =>
    -- the line is complete, whatever follows it
    have hn : nextLine r.bytes = (line, rest ++ r.deliveries.flatMap Delivery.bytes) := by
      rw [nextLine, bytes, splitLine?_append hs]
      rfl
    rw [hn]
    exact ⟨_, rfl, rfl, h.capacity, h.deliveries⟩
  | case2 r hs hd =>
    -- there are no more bytes than those held
    have hb : r.bytes = r.held := by
      rw [bytes, hd]
      exact List.append_nil _
    have hn : nextLine r.held = (r.held, []) := by
      rw [nextLine, hs]
      rfl
    rw [hb, hn]
    refine ⟨_, rfl, ?_, h.capacity, h.deliveries⟩
    rw [bytes, hd]
    rfl
  | case3 r hs cause rest hd hk ih =>
    have hb : bytes { r with deliveries := rest } = r.bytes := by
      rw [bytes, bytes, hd]
      rfl
    rw [← hb]
    exact ih ⟨h.capacity, fun d hmem => h.deliveries d (by rw [hd]; exact List.mem_cons_of_mem _ hmem)⟩
  | case4 r hs cause rest hd hk =>
    exact absurd (h.deliveries (.fault cause) (by rw [hd]; exact List.mem_cons_self)) hk
  | case5 r hs bs rest hd he =>
    have hne : bs ≠ [] := h.deliveries (.data bs) (by rw [hd]; exact List.mem_cons_self)
    have hc := h.capacity
    rcases List.take_eq_nil_iff.1 he with h₀ | h₀
    · omega
    · exact absurd h₀ hne
  | case6 r hs bs rest hd he ih =>
    -- a portion is moved to the bytes held, so the bytes of the reader are the same
    have hb : bytes { r with held := r.held ++ bs.take r.capacity, deliveries := leave r.capacity bs rest } =
        r.bytes := by
      rw [bytes, bytes, hd, List.append_assoc, flatMap_leave]
      rfl
    rw [← hb]
    exact ih ⟨h.capacity, smooth_leave fun d hmem => h.deliveries d (by rw [hd]; exact List.mem_cons_of_mem _ hmem)⟩

/-- Without its terminator, what a reader takes as a line holds no newline. -/
theorem newline_not_mem_takeLine {r t : Reader} {line : List UInt8} (h : takeLine r = (.ok line, t)) :
    newline ∉ dropTerminator line := by
  fun_induction takeLine r with
  | case1 r line rest hs =>
    cases h
    exact newline_not_mem_splitLine? hs
  | case2 r hs hd =>
    cases h
    exact newline_not_mem_of_splitLine?_eq_none hs
  | case3 r hs cause rest hd hk ih => exact ih h
  | case4 => cases h
  | case5 r hs bs rest hd he =>
    cases h
    exact newline_not_mem_of_splitLine?_eq_none hs
  | case6 r hs bs rest hd he ih => exact ih h

end Reader

/-! ### All lines -/

/-- Texts as lines with the numbers from `n + 1` on. -/
def numbered (n : Nat) (texts : List String) : List Line := (texts.zipIdx (n + 1)).map fun p => ⟨p.2, p.1⟩

theorem map_text_numbered (n : Nat) (texts : List String) : (numbered n texts).map Line.text = texts := by
  rw [numbered, List.map_map]
  exact List.zipIdx_map_fst (n + 1) texts

namespace Lines

private theorem stopped_of_finished {s : Lines} (h : s.finished = true) : Source.Stopped s := by
  refine Source.stopped_of_invariant (P := fun s : Lines => s.finished = true) (fun t ht => ⟨t, ?_, ht⟩) h
  show pull t = _
  rw [pull, if_pos ht]

private theorem yields_of_smooth {s : Lines} (hf : s.finished = false) (h : s.reader.Smooth) :
    Source.Yields s (numbered s.number (byteLines s.reader.bytes)) .stops := by
  induction hn : s.reader.bytes.length using Nat.strongRecOn generalizing s with
  | ind n ih =>
    obtain ⟨t, ht, htb, hts⟩ := Reader.takeLine_of_smooth h
    have hnot : ¬ s.finished = true := by simp [hf]
    -- every line takes some of the bytes left, and with none left the reading is finished
    by_cases hb : s.reader.bytes = []
    · have hp : Source.pull s = (.stop, { s with reader := t, finished := true }) := by
        show pull s = _
        rw [pull, if_neg hnot, ht, hb]
        rfl
      rw [hb]
      exact Source.stopped_of_pull hp (stopped_of_finished rfl)
    · obtain ⟨hne, hlen, hlines⟩ := byteLines_nextLine hb
      have hp : Source.pull s = (.item ⟨s.number + 1, decode (dropTerminator (nextLine s.reader.bytes).1)⟩,
          { s with reader := t, number := s.number + 1 }) := by
        show pull s = _
        obtain ⟨b, l, hl⟩ := List.exists_cons_of_ne_nil hne
        rw [pull, if_neg hnot, ht, hl]
      rw [hlines]
      refine ⟨_, hp, ?_⟩
      have := ih t.bytes.length (by rw [htb]; omega) (s := { s with reader := t, number := s.number + 1 }) hf hts rfl
      rw [htb] at this
      exact this

/-- A reader gives lines without newlines, and then it stops for good or fails. -/
theorem exists_yields (s : Lines) : ∃ ls x, Source.Yields s ls x ∧ ∀ l ∈ ls, OneLine l.text := by
  induction hn : Source.size s using Nat.strongRecOn generalizing s with
  | ind n ih =>
    subst hn
    by_cases hf : s.finished = true
    · exact ⟨[], .stops, stopped_of_finished hf, nofun⟩
    have hpull : Source.pull s = pull s := rfl
    rw [pull, if_neg hf] at hpull
    cases ht : Reader.takeLine s.reader with
    | mk taken t =>
      rw [ht] at hpull
      match taken with
      | .error cause => exact ⟨[], .fails cause _, hpull, nofun⟩
      | .ok [] => exact ⟨[], .stops, Source.stopped_of_pull hpull (stopped_of_finished rfl), nofun⟩
      | .ok (b :: bytes) =>
        obtain ⟨ls, x, hy, hls⟩ := ih _ (Source.size_lt_of_pull hpull) _ rfl
        refine ⟨_ :: ls, x, ⟨_, hpull, hy⟩, List.forall_mem_cons.2 ⟨?_, hls⟩⟩
        exact oneLine_ofList.2 (newline_not_mem_readBytes (Reader.newline_not_mem_takeLine ht))

/-- A reader without failures gives the lines of its bytes and stops. -/
theorem yields_ofReader {r : Reader} (h : r.Smooth) :
    Source.Yields (ofReader r) (numbered 0 (byteLines r.bytes)) .stops :=
  yields_of_smooth rfl h

end Lines

end Acceptance
