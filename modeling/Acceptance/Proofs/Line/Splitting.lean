import Acceptance.Line.Reader
import Acceptance.Proofs.Text.Lossy

/-!
# Splitting into lines

Bytes and characters are split into lines in the same way: at newlines, with what follows the last newline as one
more line if it is not empty, and with one carriage return dropped at the end of each line.  The main result is
`byteLines_eq_textLines`: reading UTF-8 and splitting into lines can be done in either order.
-/

namespace Acceptance

variable {α : Type} [DecidableEq α]

/-- The lines of a list without the newlines that end them. -/
def splitLines (nl : α) : List α → List (List α)
  | [] => []
  | a :: as =>
    if a = nl then [] :: splitLines nl as
    else
      match splitLines nl as with
      | [] => [[a]]
      | l :: ls => (a :: l) :: ls

/-- The lines of a text. -/
def textLines (s : String) : List String := (splitLines '\n' s.toList).map fun l => String.ofList (dropFinal '\r' l)

/-- The lines of bytes, read one by one. -/
def byteLines (bs : List UInt8) : List String :=
  (splitLines newline bs).map fun l => decode (dropFinal carriageReturn l)

theorem splitLines_of_not_mem {nl : α} {l : List α} (h : nl ∉ l) (hne : l ≠ []) : splitLines nl l = [l] := by
  induction l with
  | nil => exact absurd rfl hne
  | cons a l ih =>
    rw [List.mem_cons, not_or] at h
    rw [splitLines, if_neg (Ne.symm h.1)]
    by_cases hl : l = []
    · subst hl
      rfl
    · rw [ih h.2 hl]

theorem splitLines_ne_nil (nl : α) {l : List α} (h : l ≠ []) : splitLines nl l ≠ [] := by
  cases l with
  | nil => exact absurd rfl h
  | cons a l =>
    rw [splitLines]
    split
    · simp
    · split <;> simp

theorem splitLines_append {nl : α} {l : List α} (h : nl ∉ l) (rest : List α) :
    splitLines nl (l ++ nl :: rest) = l :: splitLines nl rest := by
  induction l with
  | nil => rw [List.nil_append, splitLines, if_pos rfl]
  | cons a l ih =>
    rw [List.mem_cons, not_or] at h
    rw [List.cons_append, splitLines, if_neg (Ne.symm h.1), ih h.2]

/-- Lists are split separately at the beginning of a line. -/
theorem splitLines_append_of_getLast? {nl : α} {l : List α} (h : ∀ a ∈ l.getLast?, a = nl) (rest : List α) :
    splitLines nl (l ++ rest) = splitLines nl l ++ splitLines nl rest := by
  induction l with
  | nil => rfl
  | cons a l ih =>
    by_cases ha : a = nl
    · have hl : ∀ b ∈ l.getLast?, b = nl := by
        intro b hb
        exact h b (by rw [List.getLast?_cons, Option.mem_def.1 hb]; rfl)
      rw [List.cons_append, splitLines, if_pos ha, ih hl, splitLines, if_pos ha, List.cons_append]
    · cases l with
      | nil => exact absurd (h a rfl) ha
      | cons b l =>
        have hl : ∀ c ∈ (b :: l).getLast?, c = nl := fun c hc => h c (by rwa [List.getLast?_cons_cons])
        obtain ⟨m, ms, hs⟩ := List.exists_cons_of_ne_nil (splitLines_ne_nil nl (List.cons_ne_nil b l))
        have hcons : splitLines nl (a :: b :: l) = (a :: m) :: ms := by rw [splitLines, if_neg ha, hs]
        rw [List.cons_append, splitLines, if_neg ha, ih hl, hs, hcons]
        rfl

theorem not_mem_of_mem_splitLines {nl : α} {l m : List α} (h : m ∈ splitLines nl l) : nl ∉ m := by
  induction l generalizing m with
  | nil => cases h
  | cons a l ih =>
    rw [splitLines] at h
    split at h
    · rcases List.mem_cons.1 h with rfl | h
      · exact List.not_mem_nil
      · exact ih h
    · rename_i ha
      split at h
      · obtain rfl := List.mem_singleton.1 h
        simpa using Ne.symm ha
      · rename_i k ks hs
        rcases List.mem_cons.1 h with rfl | h
        · have hk := ih (hs ▸ List.mem_cons_self)
          simpa using ⟨Ne.symm ha, hk⟩
        · exact ih (hs ▸ List.mem_cons_of_mem _ h)

/-- Lines that are each ended by a newline are found again. -/
theorem splitLines_flatMap {nl : α} {ls : List (List α)} (h : ∀ l ∈ ls, nl ∉ l) :
    splitLines nl (ls.flatMap (· ++ [nl])) = ls := by
  induction ls with
  | nil => rfl
  | cons l ls ih =>
    obtain ⟨hl, hls⟩ := List.forall_mem_cons.1 h
    rw [List.flatMap_cons, List.append_assoc, List.singleton_append, splitLines_append hl, ih hls]

theorem dropFinal_concat (a : α) (l : List α) : dropFinal a (l ++ [a]) = l := by
  simp [dropFinal]

theorem dropFinal_of_ne {a : α} {l : List α} (h : l.getLast? ≠ some a) : dropFinal a l = l := if_neg h

theorem dropFinal_isPrefix (a : α) (l : List α) : dropFinal a l <+: l := by
  unfold dropFinal
  split
  · exact List.dropLast_prefix l
  · exact List.prefix_rfl

omit [DecidableEq α] in
theorem getLast?_ne_of_not_mem {a : α} {l : List α} (h : a ∉ l) : l.getLast? ≠ some a :=
  fun hl => h (List.mem_of_getLast? hl)

/-! ### Lines of bytes and lines of the text -/

theorem newline_not_mem_readBytes {bs : List UInt8} (h : newline ∉ bs) : '\n' ∉ readBytes none bs := by
  intro hm
  obtain ⟨b, hb, he⟩ := toNat_mem_of_mem_readBytes sound_none hm (by decide) (by decide)
  rw [show b = newline from UInt8.toNat_inj.1 he] at hb
  exact h hb

/-- A carriage return at the end can be dropped before or after reading. -/
private theorem readBytes_dropFinal (bs : List UInt8) :
    readBytes none (dropFinal carriageReturn bs) = dropFinal '\r' (readBytes none bs) := by
  by_cases h : bs.getLast? = some carriageReturn
  · obtain ⟨l, rfl⟩ := List.getLast?_eq_some_iff.1 h
    rw [dropFinal_concat, readBytes_append_ascii sound_none l (by decide)]
    exact (dropFinal_concat '\r' _).symm
  · rw [dropFinal_of_ne h, dropFinal_of_ne]
    intro hr
    obtain ⟨b, hb, he⟩ := toNat_getLast?_readBytes sound_none hr (by decide) (by decide)
    rw [show b = carriageReturn from UInt8.toNat_inj.1 he] at hb
    exact h hb

/-- The lines read one by one are the lines of the whole text. -/
theorem byteLines_eq_textLines (bs : List UInt8) : byteLines bs = textLines (decode bs) := by
  have hread (l : List UInt8) :
      decode (dropFinal carriageReturn l) = String.ofList (dropFinal '\r' (readBytes none l)) :=
    congrArg String.ofList (readBytes_dropFinal l)
  suffices h : splitLines '\n' (readBytes none bs) = (splitLines newline bs).map (readBytes none) by
    rw [byteLines, textLines, decode, String.toList_ofList, h, List.map_map]
    exact List.map_congr_left fun l _ => hread l
  induction hn : bs.length using Nat.strongRecOn generalizing bs with
  | ind n ih =>
    -- a newline cannot be inside of a character, so both sides are divided at the first one
    by_cases hm : newline ∈ bs
    · obtain ⟨l, rest, rfl, hl⟩ := List.eq_append_cons_of_mem hm
      have hlen : rest.length < n := by
        simp at hn
        omega
      rw [readBytes_append_ascii sound_none l (by decide), splitLines_append hl, List.map_cons, ← ih _ hlen rest rfl]
      exact splitLines_append (newline_not_mem_readBytes hl) _
    · by_cases hb : bs = []
      · subst hb
        rfl
      · rw [splitLines_of_not_mem hm hb, List.map_singleton]
        exact splitLines_of_not_mem (newline_not_mem_readBytes hm) (readBytes_ne_nil sound_none (.inr hb))

end Acceptance
