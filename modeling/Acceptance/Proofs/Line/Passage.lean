import Acceptance.Proofs.Line.Reader
import Acceptance.Proofs.Source.Simulation
import Mathlib.Data.List.DropRight

/-!
# Lines of any reader

A passage is what deliveries come to when interruptions are left out and bytes that follow each other are joined:
bytes up to the end of the input, up to a delivery of no bytes or up to a failure, and what comes after that.  The
answers of a reader are the transcript of its passage, whatever the deliveries and the capacity, and after the first
answer that is not a line the reader is not asked again (`Lines.answers_transcript`).
-/

namespace Acceptance

/-! ### Passages -/

/-- Deliveries without interruptions, bytes joined. -/
inductive Passage where
  /-- Bytes up to the end of the input. -/
  | ends (bytes : List UInt8)
  /-- Bytes up to a delivery of no bytes, and what comes after it. -/
  | pauses (bytes : List UInt8) (rest : Passage)
  /-- Bytes up to a failure, and what comes after it. -/
  | breaks (bytes : List UInt8) (cause : Fault) (rest : Passage)

namespace Passage

/-- The bytes before anything else. -/
def bytes : Passage → List UInt8
  | ends bs | pauses bs _ | breaks bs _ _ => bs

/-- The same passage with other bytes before anything else. -/
def withBytes (bs : List UInt8) : Passage → Passage
  | ends _ => ends bs
  | pauses _ rest => pauses bs rest
  | breaks _ cause rest => breaks bs cause rest

/-- More bytes and then a passage. -/
def prepend (bs : List UInt8) (p : Passage) : Passage := p.withBytes (bs ++ p.bytes)

/-- The passage that deliveries come to. -/
def ofDeliveries : List Delivery → Passage
  | [] => ends []
  | .data [] :: ds => pauses [] (ofDeliveries ds)
  | .data (b :: bs) :: ds => (ofDeliveries ds).prepend (b :: bs)
  | .fault cause :: ds => if cause.kind = .interrupted then ofDeliveries ds else breaks [] cause (ofDeliveries ds)

@[simp] theorem bytes_withBytes (bs : List UInt8) (p : Passage) : (p.withBytes bs).bytes = bs := by
  cases p <;> rfl

@[simp] theorem withBytes_withBytes (bs cs : List UInt8) (p : Passage) :
    (p.withBytes cs).withBytes bs = p.withBytes bs := by
  cases p <;> rfl

@[simp] theorem bytes_prepend (bs : List UInt8) (p : Passage) : (p.prepend bs).bytes = bs ++ p.bytes :=
  bytes_withBytes _ p

@[simp] theorem withBytes_prepend (bs cs : List UInt8) (p : Passage) :
    (p.prepend cs).withBytes bs = p.withBytes bs :=
  withBytes_withBytes bs _ p

theorem prepend_nil (p : Passage) : p.prepend [] = p := by
  cases p <;> rfl

theorem prepend_append (bs cs : List UInt8) (p : Passage) : p.prepend (bs ++ cs) = (p.prepend cs).prepend bs := by
  rw [prepend, prepend, withBytes_prepend, bytes_prepend, List.append_assoc]

theorem ofDeliveries_data {bs : List UInt8} (h : bs ≠ []) (ds : List Delivery) :
    ofDeliveries (.data bs :: ds) = (ofDeliveries ds).prepend bs := by
  obtain ⟨b, bs, rfl⟩ := List.exists_cons_of_ne_nil h
  rfl

/-- All bytes before anything else, or the failure that breaks them off, and the passage after it. -/
def takeAll : Passage → Except Fault (List UInt8) × Passage
  | ends bs => (.ok bs, ends [])
  | pauses bs rest => (.ok bs, rest)
  | breaks _ cause rest => (.error cause, rest)

/-- The first line of a passage with its newline, or what comes before anything else if there is no newline in it. -/
def takeLine (p : Passage) : Except Fault (List UInt8) × Passage :=
  match splitLine? p.bytes with
  | some (line, rest) => (.ok line, p.withBytes rest)
  | none => p.takeAll

theorem takeLine_of_some {p : Passage} {line rest : List UInt8} (h : splitLine? p.bytes = some (line, rest)) :
    p.takeLine = (.ok line, p.withBytes rest) := by
  rw [takeLine, h]

theorem takeLine_of_none {p : Passage} (h : splitLine? p.bytes = none) : p.takeLine = p.takeAll := by
  rw [takeLine, h]

end Passage

namespace Reader

/-- What a reader holds and what the device has still to hand over. -/
def passage (r : Reader) : Passage := (Passage.ofDeliveries r.deliveries).prepend r.held

/-- A portion moved to the bytes held leaves the passage as it is. -/
private theorem prepend_leave (capacity : Nat) {bs : List UInt8} (h : bs ≠ []) (ds : List Delivery) :
    (Passage.ofDeliveries (leave capacity bs ds)).prepend (bs.take capacity) =
      Passage.ofDeliveries (.data bs :: ds) := by
  rw [Passage.ofDeliveries_data h, leave]
  split
  · rename_i hlen
    rw [List.take_of_length_le hlen]
  · rename_i hlen
    have hdrop : bs.drop capacity ≠ [] := by
      rw [Ne, List.drop_eq_nil_iff]
      exact hlen
    rw [Passage.ofDeliveries_data hdrop, ← Passage.prepend_append, List.take_append_drop]

/-- A reader takes the first line of its passage, and its capacity does not matter. -/
theorem takeLine_passage {r : Reader} (h : 0 < r.capacity) :
    (takeLine r).1 = r.passage.takeLine.1 ∧ (takeLine r).2.passage = r.passage.takeLine.2 ∧
      (takeLine r).2.capacity = r.capacity := by
  fun_induction takeLine r with
  | case1 r line rest hs =>
    -- the line is complete, whatever follows it
    have hp : splitLine? r.passage.bytes = some (line, rest ++ (Passage.ofDeliveries r.deliveries).bytes) := by
      rw [passage, Passage.bytes_prepend]
      exact splitLine?_append hs _
    rw [Passage.takeLine_of_some hp]
    exact ⟨rfl, (Passage.withBytes_prepend _ _ _).symm, rfl⟩
  | case2 r hs hd =>
    have hp : r.passage = .ends r.held := by
      rw [passage, hd]
      exact congrArg Passage.ends (List.append_nil _)
    have hnil : passage { r with held := [] } = .ends [] := by rw [passage, hd]; rfl
    rw [hp, Passage.takeLine_of_none (p := .ends r.held) hs]
    exact ⟨rfl, hnil, rfl⟩
  | case3 r hs cause rest hd hk ih =>
    have hp : passage { r with deliveries := rest } = r.passage := by
      rw [passage, passage, hd, Passage.ofDeliveries, if_pos hk]
    rw [← hp]
    exact ih h
  | case4 r hs cause rest hd hk =>
    have hp : r.passage = .breaks r.held cause (Passage.ofDeliveries rest) := by
      rw [passage, hd, Passage.ofDeliveries, if_neg hk]
      exact congrArg (Passage.breaks · cause _) (List.append_nil _)
    rw [hp, Passage.takeLine_of_none (p := .breaks r.held cause _) hs]
    exact ⟨rfl, Passage.prepend_nil _, rfl⟩
  | case5 r hs bs rest hd he =>
    -- the capacity is not 0, so an empty portion comes from an empty delivery
    have hnil : bs = [] := (List.take_eq_nil_iff.1 he).resolve_left (by omega)
    have hp : r.passage = .pauses r.held (Passage.ofDeliveries rest) := by
      rw [passage, hd, hnil]
      exact congrArg (Passage.pauses · _) (List.append_nil _)
    have hleave : leave r.capacity bs rest = rest := by
      rw [leave, hnil]
      exact if_pos (Nat.zero_le _)
    rw [hp, Passage.takeLine_of_none (p := .pauses r.held _) hs, hleave]
    exact ⟨rfl, Passage.prepend_nil _, rfl⟩
  | case6 r hs bs rest hd he ih =>
    have hne : bs ≠ [] := fun hnil => he (by rw [hnil, List.take_nil])
    have hp : passage { r with held := r.held ++ bs.take r.capacity, deliveries := leave r.capacity bs rest } =
        r.passage := by
      rw [passage, Passage.prepend_append, prepend_leave _ hne, passage, hd]
    rw [← hp]
    exact ih h

end Reader

/-! ### The transcript of a passage -/

/-- The bytes up to the last newline. -/
def terminatedPart (bs : List UInt8) : List UInt8 := bs.rdropWhile (· != newline)

/-- The bytes after the last newline. -/
def unterminatedPart (bs : List UInt8) : List UInt8 := bs.rtakeWhile (· != newline)

private theorem terminatedPart_line (l rest : List UInt8) :
    terminatedPart (l ++ newline :: rest) = l ++ newline :: terminatedPart rest := by
  rw [terminatedPart, terminatedPart]
  induction rest using List.reverseRecOn with
  | nil => exact List.rdropWhile_concat_neg _ _ _ (by simp)
  | append_singleton rest b ih =>
    rw [← List.cons_append, ← List.append_assoc, List.rdropWhile_concat, List.rdropWhile_concat, ih]
    split
    · rfl
    · simp

private theorem unterminatedPart_line (l rest : List UInt8) :
    unterminatedPart (l ++ newline :: rest) = unterminatedPart rest := by
  rw [unterminatedPart, unterminatedPart]
  induction rest using List.reverseRecOn with
  | nil => exact List.rtakeWhile_concat_neg _ _ _ (by simp)
  | append_singleton rest b ih =>
    rw [← List.cons_append, ← List.append_assoc, List.rtakeWhile_concat, List.rtakeWhile_concat, ih]

namespace Passage

/-- The answers that a passage calls for when `n` lines have been given.  At the end and at a delivery of no bytes,
bytes after the last newline are one more line, and without such bytes the reading has ended; at a failure they are
lost. -/
def transcript (n : Nat) : Passage → Script Line Fault
  | ends bs => (numbered n (byteLines bs)).map .item
  | pauses bs rest =>
    (numbered n (byteLines bs)).map .item ++
      if unterminatedPart bs = [] then [] else rest.transcript (n + (byteLines bs).length)
  | breaks bs cause _ => (numbered n (byteLines (terminatedPart bs))).map .item ++ [.failed cause]

theorem numbered_cons (n : Nat) (text : String) (texts : List String) :
    numbered n (text :: texts) = ⟨n + 1, text⟩ :: numbered (n + 1) texts := by
  rw [numbered, List.zipIdx_cons, List.map_cons, numbered]

private theorem transcript_line (n : Nat) (p : Passage) {l rest : List UInt8} (hl : newline ∉ l)
    (hp : p.bytes = l ++ newline :: rest) :
    p.transcript n = .item ⟨n + 1, decode (dropTerminator (l ++ [newline]))⟩ ::
      (p.withBytes rest).transcript (n + 1) := by
  cases p with
  | ends bs =>
    obtain rfl : bs = l ++ newline :: rest := hp
    rw [transcript, byteLines_append hl, numbered_cons]
    rfl
  | pauses bs after =>
    obtain rfl : bs = l ++ newline :: rest := hp
    rw [transcript, byteLines_append hl, numbered_cons, unterminatedPart_line, List.length_cons, withBytes, transcript,
      Nat.add_right_comm]
    rfl
  | breaks bs cause after =>
    obtain rfl : bs = l ++ newline :: rest := hp
    rw [transcript, terminatedPart_line, byteLines_append hl, numbered_cons]
    rfl

private theorem unterminatedPart_of_not_mem {bs : List UInt8} (h : newline ∉ bs) : unterminatedPart bs = bs := by
  rw [unterminatedPart, List.rtakeWhile_eq_self_iff]
  intro b hb
  simpa using fun he : b = newline => h (he ▸ hb)

private theorem terminatedPart_of_not_mem {bs : List UInt8} (h : newline ∉ bs) : terminatedPart bs = [] := by
  rw [terminatedPart, List.rdropWhile_eq_nil_iff]
  intro b hb
  simpa using fun he : b = newline => h (he ▸ hb)

/-- The answers begin with what comes of the first line. -/
theorem transcript_eq (n : Nat) (p : Passage) :
    p.transcript n =
      match p.takeLine with
      | (.error cause, _) => [.failed cause]
      | (.ok [], _) => []
      | (.ok (b :: bs), rest) => .item ⟨n + 1, decode (dropTerminator (b :: bs))⟩ :: rest.transcript (n + 1) := by
  cases hs : splitLine? p.bytes with
  | some split =>
    obtain ⟨line, rest⟩ := split
    obtain ⟨l, hl, rfl, hp⟩ := exists_of_splitLine?_eq_some hs
    obtain ⟨b, bs, hline⟩ := List.exists_cons_of_ne_nil (show l ++ [newline] ≠ [] by simp)
    rw [transcript_line n p hl hp, takeLine_of_some hs, hline]
  | none =>
    have hn : newline ∉ p.bytes := not_mem_of_splitLine?_eq_none hs
    rw [takeLine_of_none hs]
    -- without a newline, everything up to the event is the line
    cases p with
    | ends bs =>
      cases bs with
      | nil => rfl
      | cons b bs =>
        have hbs : newline ∉ b :: bs := hn
        rw [takeAll, transcript, byteLines_of_not_mem hbs (by simp), numbered_cons]
        rfl
    | pauses bs rest =>
      cases bs with
      | nil => rfl
      | cons b bs =>
        have hbs : newline ∉ b :: bs := hn
        rw [takeAll, transcript, byteLines_of_not_mem hbs (by simp), unterminatedPart_of_not_mem hbs, numbered_cons]
        rfl
    | breaks bs cause rest =>
      have hbs : newline ∉ bs := hn
      rw [takeAll, transcript, terminatedPart_of_not_mem hbs]
      rfl

end Passage

/-! ### Lines and their transcript -/

namespace Lines

/-- The script is what is still to be answered. -/
private inductive Answers : Lines → Script Line Fault → Prop
  | finished {s : Lines} : s.finished = true → Answers s []
  | reading {s : Lines} : s.finished = false → 0 < s.reader.capacity →
      Answers s (s.reader.passage.transcript s.number)

private theorem simulates_answers : Source.Simulates Answers := by
  intro s script h
  cases h with
  | finished hf =>
    have hp : Source.pull s = (.stop, s) := if_pos hf
    rw [hp]
    exact ⟨rfl, .finished hf⟩
  | reading hf hc =>
    obtain ⟨hline, hpassage, hcapacity⟩ := Reader.takeLine_passage hc
    have hp : Source.pull s = pull s := rfl
    rw [hp, pull, if_neg (by simp [hf]), Passage.transcript_eq]
    cases ht : Reader.takeLine s.reader with
    | mk taken t =>
      cases hq : s.reader.passage.takeLine with
      | mk taken' q =>
        rw [ht, hq] at hline hpassage
        rw [ht] at hcapacity
        obtain rfl : taken = taken' := hline
        obtain rfl : t.passage = q := hpassage
        cases taken with
        | error cause => exact ⟨rfl, .finished rfl⟩
        | ok bs =>
          cases bs with
          | nil => exact ⟨rfl, .finished rfl⟩
          | cons b bs =>
            refine ⟨rfl, .reading hf ?_⟩
            show 0 < t.capacity
            rw [hcapacity]
            exact hc

/-- After an answer that is not a line the reading has ended. -/
private theorem finished_of_not_item {s : Lines} (h : ∀ line, (Source.pull s).1 ≠ .item line) :
    (Source.pull s).2.finished = true := by
  revert h
  show (∀ line, (pull s).1 ≠ .item line) → (pull s).2.finished = true
  rw [pull]
  split
  · exact fun _ => ‹_›
  · split
    · exact fun _ => rfl
    · exact fun _ => rfl
    · exact fun h => absurd rfl (h _)

/-- The answers of a reader are the transcript of its passage, so neither where bytes are divided nor interruptions nor
the capacity matter.  After an answer that is not a line, every further pull stops and leaves the reader alone,
whatever it could still give. -/
theorem answers_transcript {capacity : Nat} (h : 0 < capacity) (deliveries : List Delivery) :
    let s := ofReader (.ofDeliveries deliveries capacity)
    (∀ n, Source.answers n s = Source.answers n ((Passage.ofDeliveries deliveries).transcript 0)) ∧
      ∀ n, (∀ line, (Source.pull (Source.after n s)).1 ≠ .item line) →
        ∀ reader, let t : Lines := { Source.after (n + 1) s with reader }
          Source.pull t = (.stop, t) := by
  intro s
  constructor
  · intro n
    have hpassage : s.reader.passage = Passage.ofDeliveries deliveries := Passage.prepend_nil _
    have hanswers : Answers s (s.reader.passage.transcript 0) := .reading rfl h
    rw [hpassage] at hanswers
    exact simulates_answers.answers_eq hanswers n
  · intro n hn reader
    have hafter : Source.after (n + 1) s = (Source.pull (Source.after n s)).2 := Source.after_succ n s
    rw [hafter]
    exact if_pos (finished_of_not_item hn)

/-- Lines cut in the middle, one of them by an empty delivery, and a failure that a character is lost in. -/
theorem answers_transcript_torn :
    let deliveries : List Delivery := [.data [97, 13], .fault (.reported .interrupted "again"), .data [10, 98], .data [],
      .data [99, 13, 13, 10, 0xE2], .fault (.reported .timedOut "late"), .data [100, 10]]
    let s := ofReader (.ofDeliveries deliveries 1)
    (Passage.ofDeliveries deliveries).transcript 0 =
        [.item ⟨1, "a"⟩, .item ⟨2, "b"⟩, .item ⟨3, "c\r"⟩, .failed (.reported .timedOut "late")] ∧
      0 < 1 ∧
      (∀ n, Source.answers n s = Source.answers n ((Passage.ofDeliveries deliveries).transcript 0)) ∧
      ∀ n, (∀ line, (Source.pull (Source.after n s)).1 ≠ .item line) →
        ∀ reader, let t : Lines := { Source.after (n + 1) s with reader }
          Source.pull t = (.stop, t) :=
  ⟨by decide +kernel, by decide, answers_transcript (by decide) _⟩

end Lines

end Acceptance
