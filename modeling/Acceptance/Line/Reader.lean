import Acceptance.Fault
import Acceptance.Line.Basic
import Acceptance.Source.Basic
import Acceptance.Text.Lossy

/-!
# Reading lines

Bytes arrive in deliveries, which a reader takes in portions no larger than its capacity. A line ends at a newline;
the newline is dropped, and with it one carriage return before it or at the very end of the input. Interruptions are
retried. Any other failure ends the reading for good and loses the part of a line read so far. A portion of no bytes
counts as the end of the input: the part of a line before it is given as a line, and only a portion of no bytes with
no such part ends the reading.
-/

namespace Acceptance

/-- What a device hands over at one time. -/
inductive Delivery where
  | data (bytes : List UInt8)
  | fault (cause : Fault)
deriving Repr

namespace Delivery

/-- The number of bytes of a delivery, and one for the delivery itself. -/
def weight : Delivery → Nat
  | data bytes => bytes.length + 1
  | fault _ => 1

end Delivery

/-- The byte that ends a line. -/
def newline : UInt8 := 10

/-- The byte that is dropped at the end of a line. -/
def carriageReturn : UInt8 := 13

/-- Divides bytes after the first newline. -/
def splitLine? : List UInt8 → Option (List UInt8 × List UInt8)
  | [] => none
  | b :: bs =>
    if b = newline then some ([b], bs) else (splitLine? bs).map fun p => (b :: p.1, p.2)

/-- A buffered reader. -/
structure Reader where
  /-- The largest portion taken at one time. -/
  capacity : Nat
  /-- Bytes taken but not yet given in a line. -/
  held : List UInt8
  /-- What the device has still to hand over. -/
  deliveries : List Delivery

namespace Reader

/-- The capacity of a reader when nothing else is asked for. -/
def defaultCapacity : Nat := 8192

/-- A reader of the given deliveries. -/
def ofDeliveries (deliveries : List Delivery) (capacity : Nat := defaultCapacity) : Reader :=
  ⟨capacity, [], deliveries⟩

/-- A reader that holds all its bytes. -/
def ofBytes (bytes : List UInt8) : Reader := ⟨defaultCapacity, bytes, []⟩

/-- The weight of what the device has still to hand over. -/
def pending : List Delivery → Nat
  | [] => 0
  | d :: deliveries => d.weight + pending deliveries

/-- The bytes and deliveries left. -/
def size (r : Reader) : Nat := r.held.length + pending r.deliveries

/-- The deliveries left when a portion has been taken from `bytes`, the first of them. -/
def leave (capacity : Nat) (bytes : List UInt8) (rest : List Delivery) : List Delivery :=
  if bytes.length ≤ capacity then rest else .data (bytes.drop capacity) :: rest

theorem pending_leave (capacity : Nat) (bytes : List UInt8) (rest : List Delivery) :
    (bytes.take capacity).length + pending (leave capacity bytes rest) ≤ pending (.data bytes :: rest) := by
  unfold leave
  split <;> simp only [pending, Delivery.weight, List.length_take, List.length_drop] <;> omega

/-- Takes the next line with its newline, the bytes before the end if there is none, and no bytes at the end. -/
def takeLine (r : Reader) : Except Fault (List UInt8) × Reader :=
  match splitLine? r.held with
  | some (line, rest) => (.ok line, { r with held := rest })
  | none =>
    match _h : r.deliveries with
    | [] => (.ok r.held, { r with held := [] })
    | .fault cause :: rest =>
      if cause.kind = .interrupted then takeLine { r with deliveries := rest }
      else (.error cause, { r with held := [], deliveries := rest })
    | .data bytes :: rest =>
      if bytes.take r.capacity = [] then
        (.ok r.held, { r with held := [], deliveries := leave r.capacity bytes rest })
      else takeLine { r with held := r.held ++ bytes.take r.capacity, deliveries := leave r.capacity bytes rest }
termination_by pending r.deliveries
decreasing_by
  · simp [_h, pending, Delivery.weight]
  · rename_i hne
    have hle := pending_leave r.capacity bytes rest
    have hpos := List.length_pos_iff.2 hne
    rw [_h]
    omega

theorem length_splitLine? {bytes line rest : List UInt8} (h : splitLine? bytes = some (line, rest)) :
    line.length + rest.length = bytes.length ∧ 0 < line.length := by
  induction bytes generalizing line rest with
  | nil => simp [splitLine?] at h
  | cons b bs ih =>
    unfold splitLine? at h
    split at h
    · cases h
      exact ⟨by simp; omega, by simp⟩
    · obtain ⟨⟨l, r⟩, hp, he⟩ := Option.map_eq_some_iff.1 h
      cases he
      have := (ih hp).1
      exact ⟨by simp only [List.length_cons]; omega, by simp⟩

/-- A line is taken from what is left. -/
theorem size_takeLine (r : Reader) :
    size (takeLine r).2 + (match (takeLine r).1 with | .ok line => line.length | .error _ => 0) ≤ size r := by
  fun_induction takeLine r with
  | case1 r line rest h =>
    have := (length_splitLine? h).1
    simp only [size]
    omega
  | case2 r hs hd => simp [size, hd, pending]
  | case3 r hs cause rest hd hk ih =>
    refine Nat.le_trans ih ?_
    simp [size, hd, pending]
  | case4 r hs cause rest hd hk => simp [size, hd, pending]; omega
  | case5 r hs bytes rest hd he =>
    have := pending_leave r.capacity bytes rest
    simp only [size, hd, List.length_nil]
    omega
  | case6 r hs bytes rest hd he ih =>
    refine Nat.le_trans ih ?_
    have := pending_leave r.capacity bytes rest
    simp only [size, hd, List.length_append]
    omega

end Reader

/-- Drops the last element if it is `a`. -/
def dropFinal [DecidableEq α] (a : α) (l : List α) : List α :=
  if l.getLast? = some a then l.dropLast else l

/-- The bytes of a line without its newline and one carriage return before it. -/
def dropTerminator (bytes : List UInt8) : List UInt8 :=
  dropFinal carriageReturn (dropFinal newline bytes)

/-- The lines of a reader, numbered from 1. -/
structure Lines where
  reader : Reader
  /-- The number of lines given so far. -/
  number : Nat
  /-- Whether the reading has ended for good. -/
  finished : Bool

namespace Lines

/-- All lines of a reader. -/
def ofReader (reader : Reader) : Lines := ⟨reader, 0, false⟩

/-- All lines of a text. -/
def ofText (text : String) : Lines := ofReader (.ofBytes (encode text))

def pull (s : Lines) : Answer Line Fault × Lines :=
  if s.finished then (.stop, s)
  else
    match Reader.takeLine s.reader with
    | (.error cause, reader) => (.failed cause, { s with reader, finished := true })
    | (.ok [], reader) => (.stop, { s with reader, finished := true })
    | (.ok (b :: bytes), reader) =>
      (.item ⟨s.number + 1, decode (dropTerminator (b :: bytes))⟩, { s with reader, number := s.number + 1 })

theorem size_pull_le (s : Lines) : Reader.size (pull s).2.reader ≤ Reader.size s.reader := by
  have h := Reader.size_takeLine s.reader
  unfold pull
  split
  · exact Nat.le_refl _
  · split <;> rename_i hr <;> rw [hr] at h <;> exact Nat.le_trans (Nat.le_add_right _ _) h

theorem size_pull_lt (s : Lines) (line : Line) (hl : (pull s).1 = .item line) :
    Reader.size (pull s).2.reader < Reader.size s.reader := by
  have h := Reader.size_takeLine s.reader
  unfold pull at hl ⊢
  split
  · rename_i hf; simp [hf] at hl
  · rename_i hf
    rw [if_neg hf] at hl
    split <;> rename_i hr <;> rw [hr] at h hl
    · cases hl
    · cases hl
    · simp only [List.length_cons] at h
      simp only
      omega

end Lines

instance : Source Lines Line Fault where
  pull := Lines.pull
  size s := Reader.size s.reader
  size_le := Lines.size_pull_le
  size_lt := Lines.size_pull_lt

end Acceptance
