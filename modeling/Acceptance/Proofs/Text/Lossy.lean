import Acceptance.Text.Lossy

/-!
# Facts about lossy reading

What was written as UTF-8 is read back (`decode_encode`).  A byte below 0x80 ends whatever was begun before it and
stands for itself, so bytes can be divided at it before or after they are read (`readBytes_append_ascii`), and the
text has no such character that the bytes do not have (`toNat_mem_of_mem_readBytes`,
`toNat_getLast?_readBytes`).  No other byte is lost either (`exists_mem_readBytes_of_le`).
-/

namespace Acceptance

theorem readBytes_cons (state : Option Begun) (b : UInt8) (bs : List UInt8) :
    readBytes state (b :: bs) = (readByte state b).1 ++ readBytes (readByte state b).2 bs := by
  cases state <;> rfl

/-! ### What was written is read back -/

private theorem toNat_ofNat {n : Nat} (h : n < 256) : (UInt8.ofNat n).toNat = n := by
  rw [UInt8.toNat_ofNat']
  omega

/-- A byte in range that is not the last one of a character. -/
private theorem readBytes_more {m bits : Nat} {low high b : UInt8}
    (h : low.toNat ≤ b.toNat ∧ b.toNat ≤ high.toNat) (bs : List UInt8) :
    readBytes (some ⟨m + 2, low, high, bits⟩) (b :: bs) =
      readBytes (some ⟨m + 1, 0x80, 0xBF, bits * 64 + (b.toNat - 0x80)⟩) bs := by
  rw [← UInt8.le_iff_toNat_le, ← UInt8.le_iff_toNat_le] at h
  rw [readBytes_cons, readByte, if_pos h]
  simp

/-- A byte in range that is the last one of a character. -/
private theorem readBytes_last {bits : Nat} {low high b : UInt8}
    (h : low.toNat ≤ b.toNat ∧ b.toNat ≤ high.toNat) (bs : List UInt8) :
    readBytes (some ⟨1, low, high, bits⟩) (b :: bs) =
      Char.ofNat (bits * 64 + (b.toNat - 0x80)) :: readBytes none bs := by
  rw [← UInt8.le_iff_toNat_le, ← UInt8.le_iff_toNat_le] at h
  rw [readBytes_cons, readByte, if_pos h]
  simp

/-- The four kinds of first bytes that may begin a character, in numbers. -/
private theorem readFirst_one {b : UInt8} (h : b.toNat < 0x80) : readFirst b = ([Char.ofNat b.toNat], none) := by
  rw [readFirst, if_pos (UInt8.lt_iff_toNat_lt.2 h)]

private theorem readFirst_two {b : UInt8} (h : 0xC2 ≤ b.toNat ∧ b.toNat < 0xE0) :
    readFirst b = ([], some ⟨1, 0x80, 0xBF, b.toNat - 0xC0⟩) := by
  simp only [readFirst, UInt8.lt_iff_toNat_lt, UInt8.reduceToNat]
  rw [if_neg (by omega), if_neg (by omega), if_pos h.2]

private theorem readFirst_three {b : UInt8} (h : 0xE0 ≤ b.toNat ∧ b.toNat < 0xF0) :
    readFirst b = ([], some ⟨2, if b = 0xE0 then 0xA0 else 0x80, if b = 0xED then 0x9F else 0xBF,
      b.toNat - 0xE0⟩) := by
  simp only [readFirst, UInt8.lt_iff_toNat_lt, UInt8.reduceToNat]
  rw [if_neg (by omega), if_neg (by omega), if_neg (by omega), if_pos h.2]

private theorem readFirst_four {b : UInt8} (h : 0xF0 ≤ b.toNat ∧ b.toNat < 0xF5) :
    readFirst b = ([], some ⟨3, if b = 0xF0 then 0x90 else 0x80, if b = 0xF4 then 0x8F else 0xBF,
      b.toNat - 0xF0⟩) := by
  simp only [readFirst, UInt8.lt_iff_toNat_lt, UInt8.reduceToNat]
  rw [if_neg (by omega), if_neg (by omega), if_neg (by omega), if_neg (by omega), if_pos h.2]

/-- A continuation byte carries six bits. -/
private theorem toNat_continuation (n : Nat) : (UInt8.ofNat (n % 0x40 + 0x80)).toNat = n % 0x40 + 0x80 :=
  toNat_ofNat (by omega)

private theorem readBytes_two {v : Nat} (h : 0x80 ≤ v ∧ v ≤ 0x7FF) (bs : List UInt8) :
    readBytes none (UInt8.ofNat (v / 64 % 0x20 + 0xC0) :: UInt8.ofNat (v % 0x40 + 0x80) :: bs) =
      Char.ofNat v :: readBytes none bs := by
  have h₁ : (UInt8.ofNat (v / 64 % 0x20 + 0xC0)).toNat = v / 64 % 0x20 + 0xC0 := toNat_ofNat (by omega)
  have h₂ := toNat_continuation v
  have e₁ : readByte none (UInt8.ofNat (v / 64 % 0x20 + 0xC0)) = _ := readFirst_two (by omega)
  have hv : (v / 64 % 0x20 + 0xC0 - 0xC0) * 64 + (v % 0x40 + 0x80 - 0x80) = v := by omega
  rw [readBytes_cons, e₁, List.nil_append, readBytes_last (by rw [h₂]; simp; omega), h₁, h₂, hv]

/-- After some first bytes the second byte is restricted from below. -/
private theorem low_le {b x low : UInt8} {n : Nat} (h : b.toNat = x.toNat → low.toNat ≤ n) (hn : 0x80 ≤ n) :
    (if b = x then low else 0x80 : UInt8).toNat ≤ n := by
  split
  · rename_i hb
    exact h (by rw [hb])
  · exact hn

/-- After some first bytes the second byte is restricted from above. -/
private theorem le_high {b x high : UInt8} {n : Nat} (h : b.toNat = x.toNat → n ≤ high.toNat) (hn : n ≤ 0xBF) :
    n ≤ (if b = x then high else 0xBF : UInt8).toNat := by
  split
  · rename_i hb
    exact h (by rw [hb])
  · exact hn

private theorem readBytes_three {v : Nat} (h : 0x800 ≤ v ∧ v ≤ 0xFFFF) (hs : v < 0xD800 ∨ 0xDFFF < v)
    (bs : List UInt8) :
    readBytes none (UInt8.ofNat (v / 4096 % 0x10 + 0xE0) :: UInt8.ofNat (v / 64 % 0x40 + 0x80) ::
      UInt8.ofNat (v % 0x40 + 0x80) :: bs) = Char.ofNat v :: readBytes none bs := by
  have h₁ : (UInt8.ofNat (v / 4096 % 0x10 + 0xE0)).toNat = v / 4096 % 0x10 + 0xE0 := toNat_ofNat (by omega)
  have h₂ := toNat_continuation (v / 64)
  have h₃ := toNat_continuation v
  generalize UInt8.ofNat (v / 4096 % 0x10 + 0xE0) = b₁ at h₁
  have hlow : (if b₁ = 0xE0 then 0xA0 else 0x80 : UInt8).toNat ≤ v / 64 % 0x40 + 0x80 :=
    low_le (fun hb => by rw [h₁] at hb; simp at hb ⊢; omega) (by omega)
  have hhigh : v / 64 % 0x40 + 0x80 ≤ (if b₁ = 0xED then 0x9F else 0xBF : UInt8).toNat :=
    le_high (fun hb => by rw [h₁] at hb; simp at hb ⊢; omega) (by omega)
  have e₁ : readByte none b₁ = _ := readFirst_three (by omega)
  have hv : ((v / 4096 % 0x10 + 0xE0 - 0xE0) * 64 + (v / 64 % 0x40 + 0x80 - 0x80)) * 64 +
      (v % 0x40 + 0x80 - 0x80) = v := by omega
  rw [readBytes_cons, e₁, List.nil_append, readBytes_more (by rw [h₂]; exact ⟨hlow, hhigh⟩),
    readBytes_last (by rw [h₃]; simp; omega), h₁, h₂, h₃, hv]

private theorem readBytes_four {v : Nat} (h : 0x10000 ≤ v ∧ v < 0x110000) (bs : List UInt8) :
    readBytes none (UInt8.ofNat (v / 262144 % 0x08 + 0xF0) :: UInt8.ofNat (v / 4096 % 0x40 + 0x80) ::
      UInt8.ofNat (v / 64 % 0x40 + 0x80) :: UInt8.ofNat (v % 0x40 + 0x80) :: bs) =
      Char.ofNat v :: readBytes none bs := by
  have h₁ : (UInt8.ofNat (v / 262144 % 0x08 + 0xF0)).toNat = v / 262144 % 0x08 + 0xF0 := toNat_ofNat (by omega)
  have h₂ := toNat_continuation (v / 4096)
  have h₃ := toNat_continuation (v / 64)
  have h₄ := toNat_continuation v
  generalize UInt8.ofNat (v / 262144 % 0x08 + 0xF0) = b₁ at h₁
  have hlow : (if b₁ = 0xF0 then 0x90 else 0x80 : UInt8).toNat ≤ v / 4096 % 0x40 + 0x80 :=
    low_le (fun hb => by rw [h₁] at hb; simp at hb ⊢; omega) (by omega)
  have hhigh : v / 4096 % 0x40 + 0x80 ≤ (if b₁ = 0xF4 then 0x8F else 0xBF : UInt8).toNat :=
    le_high (fun hb => by rw [h₁] at hb; simp at hb ⊢; omega) (by omega)
  have e₁ : readByte none b₁ = _ := readFirst_four (by omega)
  have hv : (((v / 262144 % 0x08 + 0xF0 - 0xF0) * 64 + (v / 4096 % 0x40 + 0x80 - 0x80)) * 64 +
      (v / 64 % 0x40 + 0x80 - 0x80)) * 64 + (v % 0x40 + 0x80 - 0x80) = v := by omega
  rw [readBytes_cons, e₁, List.nil_append, readBytes_more (by rw [h₂]; exact ⟨hlow, hhigh⟩),
    readBytes_more (by rw [h₃]; simp; omega), readBytes_last (by rw [h₄]; simp; omega), h₁, h₂, h₃, h₄, hv]

theorem readBytes_utf8EncodeChar (c : Char) (bs : List UInt8) :
    readBytes none (String.utf8EncodeChar c ++ bs) = c :: readBytes none bs := by
  have hc : Char.ofNat c.val.toNat = c := Char.ofNat_toNat c
  have hv : c.val.toNat < 0xD800 ∨ 0xDFFF < c.val.toNat ∧ c.val.toNat < 0x110000 := c.valid
  unfold String.utf8EncodeChar
  generalize c.val.toNat = v at hc hv ⊢
  subst hc
  dsimp only
  split
  · rename_i h
    have h₁ : (UInt8.ofNat v).toNat = v := toNat_ofNat (by omega)
    have e₁ : readByte none (UInt8.ofNat v) = _ := readFirst_one (by omega)
    rw [List.singleton_append, readBytes_cons, e₁, h₁]
    rfl
  · split
    · exact readBytes_two (by omega) bs
    · split
      · exact readBytes_three (by omega) (by omega) bs
      · exact readBytes_four (by omega) bs

theorem readBytes_flatMap_utf8EncodeChar (cs : List Char) :
    readBytes none (cs.flatMap String.utf8EncodeChar) = cs := by
  induction cs with
  | nil => rfl
  | cons c cs ih => rw [List.flatMap_cons, readBytes_utf8EncodeChar, ih]

/-- What is written is read back. -/
theorem decode_encode (s : String) : decode (encode s) = s := by
  rw [decode, encode, readBytes_flatMap_utf8EncodeChar, String.ofList_toList]

/-! ### Bytes below 0x80 -/

/-- The bits `n` after `k` more bytes that add none. -/
def shiftBits : Nat → Nat → Nat
  | 0, n => n
  | k + 1, n => shiftBits k (n * 64)

private theorem shiftBits_le {k n m : Nat} (h : n ≤ m) : shiftBits k n ≤ shiftBits k m := by
  induction k generalizing n m with
  | zero => exact h
  | succ k ih => exact ih (Nat.mul_le_mul_right 64 h)

/-- A beginning that only a byte from 0x80 on continues, and only to a character from 0x80 on. -/
def Begun.Sound (g : Begun) : Prop :=
  0x80 ≤ g.low.toNat ∧ 0x80 ≤ shiftBits (g.missing - 1) (g.bits * 64 + (g.low.toNat - 0x80))

theorem sound_none : ∀ g ∈ (none : Option Begun), g.Sound := by simp

/-- What the first byte of a character can do. -/
private theorem readFirst_cases (b : UInt8) :
    (b.toNat < 0x80 ∧ readFirst b = ([Char.ofNat b.toNat], none)) ∨ readFirst b = ([replacement], none) ∨
      ∃ g : Begun, g.Sound ∧ readFirst b = ([], some g) := by
  by_cases h₁ : b.toNat < 0x80
  · exact .inl ⟨h₁, readFirst_one h₁⟩
  right
  by_cases h₂ : 0xC2 ≤ b.toNat ∧ b.toNat < 0xE0
  · exact .inr ⟨_, ⟨by simp, by simp [shiftBits]; omega⟩, readFirst_two h₂⟩
  by_cases h₃ : 0xE0 ≤ b.toNat ∧ b.toNat < 0xF0
  · refine .inr ⟨_, ?_, readFirst_three h₃⟩
    by_cases hb : b = 0xE0
    · subst hb
      exact ⟨by decide, by decide⟩
    · have hne : b.toNat ≠ 0xE0 := fun h => hb (UInt8.toNat_inj.1 h)
      exact ⟨by simp [hb], by simp [hb, shiftBits]; omega⟩
  by_cases h₄ : 0xF0 ≤ b.toNat ∧ b.toNat < 0xF5
  · refine .inr ⟨_, ?_, readFirst_four h₄⟩
    by_cases hb : b = 0xF0
    · subst hb
      exact ⟨by decide, by decide⟩
    · have hne : b.toNat ≠ 0xF0 := fun h => hb (UInt8.toNat_inj.1 h)
      exact ⟨by simp [hb], by simp [hb, shiftBits]; omega⟩
  left
  simp only [readFirst, UInt8.lt_iff_toNat_lt, UInt8.reduceToNat]
  rw [if_neg h₁]
  by_cases h₅ : b.toNat < 0xC2
  · rw [if_pos h₅]
  · rw [if_neg h₅, if_neg (by omega), if_neg (by omega), if_neg (by omega)]

/-- The bits after one more byte are enough for a character from 0x80 on. -/
private theorem le_bits {g : Begun} (hg : g.Sound) {b : UInt8} (hb : g.low ≤ b) :
    0x80 ≤ shiftBits (g.missing - 1) (g.bits * 64 + (b.toNat - 0x80)) := by
  refine Nat.le_trans hg.2 (shiftBits_le ?_)
  have := UInt8.le_iff_toNat_le.1 hb
  omega

/-- What a byte can do after the beginning of a character: it ends it, goes on with it or breaks it off. -/
private theorem readByte_cases {g : Begun} (hg : g.Sound) (b : UInt8) :
    (∃ n, 0x80 ≤ n ∧ readByte (some g) b = ([Char.ofNat n], none)) ∨
      (∃ g' : Begun, g'.Sound ∧ readByte (some g) b = ([], some g')) ∨
      readByte (some g) b = (replacement :: (readFirst b).1, (readFirst b).2) := by
  by_cases hb : g.low ≤ b ∧ b ≤ g.high
  · have hbits := le_bits hg hb.1
    by_cases hm : g.missing ≤ 1
    · have hm₁ : g.missing - 1 = 0 := by omega
      rw [hm₁, shiftBits] at hbits
      exact .inl ⟨_, hbits, by simp [readByte, hb, hm]⟩
    · have hm₁ : g.missing - 1 = g.missing - 1 - 1 + 1 := by omega
      rw [hm₁, shiftBits] at hbits
      exact .inr (.inl ⟨⟨g.missing - 1, 0x80, 0xBF, g.bits * 64 + (b.toNat - 0x80)⟩,
        ⟨by simp, by simpa using hbits⟩, by simp [readByte, hb, hm]⟩)
  · exact .inr (.inr (by simp [readByte, hb]))

private theorem sound_readFirst (b : UInt8) : ∀ g ∈ (readFirst b).2, g.Sound := by
  rcases readFirst_cases b with ⟨-, h⟩ | h | ⟨g, hg, h⟩ <;> rw [h]
  · nofun
  · nofun
  · rintro g' ⟨⟩
    exact hg

private theorem sound_readByte {state : Option Begun} (hs : ∀ g ∈ state, g.Sound) (b : UInt8) :
    ∀ g ∈ (readByte state b).2, g.Sound := by
  cases state with
  | none => exact sound_readFirst b
  | some g =>
    rcases readByte_cases (hs g rfl) b with ⟨n, -, h⟩ | ⟨g', hg', h⟩ | h <;> rw [h]
    · nofun
    · rintro g'' ⟨⟩
      exact hg'
    · exact sound_readFirst b

theorem toNat_charOfNat_of_lt {n : Nat} (hn : n < 0x80) : (Char.ofNat n).toNat = n := by
  rw [Char.ofNat, dif_pos (.inl (by omega))]
  rfl

/-- A number from 0x80 on is not read as one of the characters below, save that an invalid one is read as 0. -/
private theorem toNat_charOfNat_of_le {n : Nat} (hn : 0x80 ≤ n) :
    (Char.ofNat n).toNat = 0 ∨ 0x80 ≤ (Char.ofNat n).toNat := by
  unfold Char.ofNat
  by_cases h : n.isValidChar
  · rw [dif_pos h]
    exact .inr hn
  · rw [dif_neg h]
    exact .inl rfl

private theorem toNat_replacement : ¬ replacement.toNat < 0x80 := by decide

private theorem toNat_of_mem_readFirst {b : UInt8} {a : Char} (ha : a ∈ (readFirst b).1) (h : a.toNat < 0x80) :
    a.toNat = b.toNat := by
  rcases readFirst_cases b with ⟨hb, hr⟩ | hr | ⟨g, -, hr⟩ <;> rw [hr] at ha
  · rw [List.mem_singleton.1 ha, toNat_charOfNat_of_lt hb]
  · rw [List.mem_singleton.1 ha] at h
    exact absurd h toNat_replacement
  · cases ha

/-- A byte finishes no character below 0x80 but itself. -/
private theorem toNat_of_mem_readByte {state : Option Begun} (hs : ∀ g ∈ state, g.Sound) {b : UInt8} {a : Char}
    (ha : a ∈ (readByte state b).1) (h₀ : 0 < a.toNat) (h : a.toNat < 0x80) : a.toNat = b.toNat := by
  cases state with
  | none => exact toNat_of_mem_readFirst ha h
  | some g =>
    rcases readByte_cases (hs g rfl) b with ⟨n, hn, hr⟩ | ⟨g', -, hr⟩ | hr <;> rw [hr] at ha
    · rw [List.mem_singleton.1 ha] at h₀ h
      rcases toNat_charOfNat_of_le hn with h' | h' <;> omega
    · cases ha
    · rcases List.mem_cons.1 ha with ha | ha
      · rw [ha] at h
        exact absurd h toNat_replacement
      · exact toNat_of_mem_readFirst ha h

/-- A character below 0x80 in a text comes from that byte. -/
theorem toNat_mem_of_mem_readBytes {state : Option Begun} (hs : ∀ g ∈ state, g.Sound) {bs : List UInt8} {a : Char}
    (ha : a ∈ readBytes state bs) (h₀ : 0 < a.toNat) (h : a.toNat < 0x80) : ∃ b ∈ bs, b.toNat = a.toNat := by
  induction bs generalizing state with
  | nil =>
    cases state with
    | none => cases ha
    | some g =>
      rw [readBytes, List.mem_singleton] at ha
      rw [ha] at h
      exact absurd h toNat_replacement
  | cons b bs ih =>
    rw [readBytes_cons, List.mem_append] at ha
    rcases ha with ha | ha
    · exact ⟨b, by simp, (toNat_of_mem_readByte hs ha h₀ h).symm⟩
    · obtain ⟨b', hb', he⟩ := ih (sound_readByte hs b) ha
      exact ⟨b', by simp [hb'], he⟩

/-- A byte that finishes no character leaves a beginning. -/
private theorem readByte_ne_nil {state : Option Begun} (hs : ∀ g ∈ state, g.Sound) (b : UInt8) :
    (readByte state b).1 ≠ [] ∨ (readByte state b).2 ≠ none := by
  cases state with
  | none =>
    show (readFirst b).1 ≠ [] ∨ (readFirst b).2 ≠ none
    rcases readFirst_cases b with ⟨-, h⟩ | h | ⟨g, -, h⟩ <;> simp [h]
  | some g => rcases readByte_cases (hs g rfl) b with ⟨n, -, h⟩ | ⟨g', -, h⟩ | h <;> simp [h]

/-- Nothing is lost: what is read of some bytes, or of a beginning, is not empty. -/
theorem readBytes_ne_nil {state : Option Begun} (hs : ∀ g ∈ state, g.Sound) {bs : List UInt8}
    (h : state ≠ none ∨ bs ≠ []) : readBytes state bs ≠ [] := by
  induction bs generalizing state with
  | nil =>
    cases state with
    | none => simp at h
    | some g => simp [readBytes]
  | cons b bs ih =>
    rw [readBytes_cons]
    intro hnil
    obtain ⟨h₁, h₂⟩ := List.append_eq_nil_iff.1 hnil
    rcases readByte_ne_nil hs b with hb | hb
    · exact hb h₁
    · exact ih (sound_readByte hs b) (.inl hb) h₂

/-- A beginning becomes a character that is no byte below 0x80, save that an invalid one is read as 0. -/
private theorem exists_mem_readBytes_of_begun {g : Begun} (hg : g.Sound) (bs : List UInt8) :
    ∃ c ∈ readBytes (some g) bs, c.toNat = 0 ∨ 0x80 ≤ c.toNat := by
  induction bs generalizing g with
  | nil => exact ⟨replacement, List.mem_singleton_self _, .inr (Nat.not_lt.1 toNat_replacement)⟩
  | cons b bs ih =>
    rw [readBytes_cons]
    rcases readByte_cases hg b with ⟨n, hn, h⟩ | ⟨g', hg', h⟩ | h <;> rw [h]
    · exact ⟨_, List.mem_cons_self, toNat_charOfNat_of_le hn⟩
    · exact ih hg'
    · exact ⟨replacement, List.mem_cons_self, .inr (Nat.not_lt.1 toNat_replacement)⟩

/-- A byte from 0x80 on leaves such a character too, whatever stands before it and after it. -/
theorem exists_mem_readBytes_of_le {state : Option Begun} (hs : ∀ g ∈ state, g.Sound) {bs : List UInt8} {b : UInt8}
    (hb : b ∈ bs) (h : 0x80 ≤ b.toNat) : ∃ c ∈ readBytes state bs, c.toNat = 0 ∨ 0x80 ≤ c.toNat := by
  induction bs generalizing state with
  | nil => cases hb
  | cons b' bs ih =>
    cases state with
    | some g => exact exists_mem_readBytes_of_begun (hs g rfl) (b' :: bs)
    | none =>
      rw [readBytes_cons, show readByte none b' = readFirst b' from rfl]
      rcases List.mem_cons.1 hb with rfl | hb
      · rcases readFirst_cases b with ⟨hlt, -⟩ | hr | ⟨g, hg, hr⟩
        · omega
        · rw [hr]
          exact ⟨replacement, List.mem_cons_self, .inr (Nat.not_lt.1 toNat_replacement)⟩
        · rw [hr]
          exact exists_mem_readBytes_of_begun hg bs
      · obtain ⟨c, hc, hrange⟩ := ih (sound_readFirst b') hb
        exact ⟨c, List.mem_append_right _ hc, hrange⟩

/-- A character below 0x80 at the end of a text comes from that byte at the end. -/
theorem toNat_getLast?_readBytes {state : Option Begun} (hs : ∀ g ∈ state, g.Sound) {bs : List UInt8} {a : Char}
    (ha : (readBytes state bs).getLast? = some a) (h₀ : 0 < a.toNat) (h : a.toNat < 0x80) :
    ∃ b, bs.getLast? = some b ∧ b.toNat = a.toNat := by
  induction bs generalizing state with
  | nil =>
    obtain ⟨b, hb, -⟩ := toNat_mem_of_mem_readBytes hs (List.mem_of_getLast? ha) h₀ h
    cases hb
  | cons b bs ih =>
    by_cases hbs : bs = []
    · subst hbs
      obtain ⟨b', hb', he⟩ := toNat_mem_of_mem_readBytes hs (List.mem_of_getLast? ha) h₀ h
      rw [List.mem_singleton] at hb'
      exact ⟨b, rfl, hb' ▸ he⟩
    · have hne := readBytes_ne_nil (sound_readByte hs b) (.inr hbs)
      have hlast : (readBytes (readByte state b).2 bs).getLast? = some a := by
        rw [readBytes_cons, List.getLast?_append, List.getLast?_eq_some_getLast hne, Option.some_or] at ha
        rw [List.getLast?_eq_some_getLast hne, ha]
      obtain ⟨b', hb', he⟩ := ih (sound_readByte hs b) hlast
      exact ⟨b', by rw [List.getLast?_cons, hb']; rfl, he⟩

/-- Bytes can be divided at a byte below 0x80 before they are read. -/
theorem readBytes_append_ascii {state : Option Begun} (hs : ∀ g ∈ state, g.Sound) (bs : List UInt8) {b : UInt8}
    (hb : b.toNat < 0x80) (cs : List UInt8) :
    readBytes state (bs ++ b :: cs) = readBytes state bs ++ Char.ofNat b.toNat :: readBytes none cs := by
  induction bs generalizing state with
  | nil =>
    cases state with
    | none =>
      have h : readByte none b = _ := readFirst_one hb
      rw [List.nil_append, readBytes_cons, h]
      rfl
    | some g =>
      have hlow : ¬ (g.low ≤ b ∧ b ≤ g.high) := by
        rw [UInt8.le_iff_toNat_le]
        have := (hs g rfl).1
        omega
      have h : readByte (some g) b = ([replacement, Char.ofNat b.toNat], none) := by
        simp [readByte, hlow, readFirst_one hb]
      rw [List.nil_append, readBytes_cons, h]
      rfl
  | cons b' bs ih =>
    rw [List.cons_append, readBytes_cons, readBytes_cons, ih (sound_readByte hs b'), List.append_assoc]

end Acceptance
