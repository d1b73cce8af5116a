import Mathlib.Data.List.Basic
import Acceptance.Proofs.Text.OneLine
import Acceptance.Text.Quoted

/-!
# Texts that can be told apart

Two texts are told apart if none of them with something behind it can be taken for the other with something else
behind it.  Lists of such texts are told apart as well, whether their items follow one another or stand between
separators, as long as a character that none of them begins with comes last.  So a quoted text shows where it ends and
what it quotes, whichever characters are written by their code points (`toldApart_quoteBy`).
-/

namespace Acceptance

variable {α : Type}

/-- Whatever follows, a text of `a` is not taken for one of `b`. -/
def ToldApart (f : α → List Char) (a b : α) : Prop := ∀ r r', f a ++ r = f b ++ r' → a = b ∧ r = r'

/-- The text begins with a character other than `c`. -/
def BeginsOther (c : Char) (cs : List Char) : Prop := ∃ x rest, cs = x :: rest ∧ x ≠ c

theorem BeginsOther.ne {c : Char} {cs : List Char} (h : BeginsOther c cs) (r r' : List Char) : cs ++ r ≠ c :: r' := by
  obtain ⟨x, rest, rfl, hx⟩ := h
  exact fun heq => hx (List.cons.inj heq).1

theorem BeginsOther.append {c : Char} {cs : List Char} (h : BeginsOther c cs) (r : List Char) :
    BeginsOther c (cs ++ r) := by
  obtain ⟨x, rest, rfl, hx⟩ := h
  exact ⟨x, rest ++ r, rfl, hx⟩

/-- A text before the first of the characters that are not in it. -/
theorem append_cons_inj {c : Char} {cs ds r r' : List Char} (hc : c ∉ cs) (hd : c ∉ ds)
    (h : cs ++ c :: r = ds ++ c :: r') : cs = ds ∧ r = r' := by
  rcases List.append_eq_append_iff.1 h with ⟨xs, rfl, hxs⟩ | ⟨xs, rfl, hxs⟩
  · cases xs with
    | nil => exact ⟨(List.append_nil cs).symm, (List.cons.inj hxs).2⟩
    | cons x xs =>
      obtain rfl : c = x := (List.cons.inj hxs).1
      exact absurd (List.mem_append_right cs List.mem_cons_self) hd
  · cases xs with
    | nil => exact ⟨List.append_nil ds, (List.cons.inj hxs).2.symm⟩
    | cons x xs =>
      obtain rfl : c = x := (List.cons.inj hxs).1
      exact absurd (List.mem_append_right ds List.mem_cons_self) hc

/-- Texts that follow one another up to a character that none of them begins with. -/
theorem flatMap_append_inj {f : α → List Char} {c : Char} (hc : ∀ a, BeginsOther c (f a)) {as bs : List α}
    (hf : ∀ a ∈ as, ∀ b ∈ bs, ToldApart f a b) {r r' : List Char}
    (h : as.flatMap f ++ c :: r = bs.flatMap f ++ c :: r') : as = bs ∧ r = r' := by
  induction as generalizing bs with
  | nil =>
    cases bs with
    | nil => exact ⟨rfl, (List.cons.inj h).2⟩
    | cons b bs =>
      rw [List.flatMap_cons, List.append_assoc] at h
      exact absurd h.symm ((hc b).ne _ _)
  | cons a as ih =>
    cases bs with
    | nil =>
      -- the first text would begin with the character that ends the other list
      rw [List.flatMap_cons, List.append_assoc] at h
      exact absurd h ((hc a).ne _ _)
    | cons b bs =>
      rw [List.flatMap_cons, List.flatMap_cons, List.append_assoc, List.append_assoc] at h
      obtain ⟨rfl, hrest⟩ := hf a List.mem_cons_self b List.mem_cons_self _ _ h
      obtain ⟨rfl, hr⟩ := ih (fun a ha b hb => hf a (List.mem_cons_of_mem _ ha) b (List.mem_cons_of_mem _ hb)) hrest
      exact ⟨rfl, hr⟩

theorem intercalate_cons_eq_flatMap (sep : List Char) (f : α → List Char) (a : α) (as : List α) :
    sep.intercalate ((a :: as).map f) = f a ++ as.flatMap fun b => sep ++ f b := by
  induction as generalizing a with
  | nil => simp
  | cons b as ih =>
    rw [List.map_cons, List.map_cons, List.intercalate_cons_cons, ← List.map_cons, ih, List.flatMap_cons]
    simp only [List.append_assoc]

/-- Texts between separators, up to a character that neither they nor the separators begin with. -/
theorem intercalate_append_inj {f : α → List Char} {sep : List Char} {c : Char} (hsep : BeginsOther c sep)
    (hc : ∀ a, BeginsOther c (f a)) {as bs : List α} (hf : ∀ a ∈ as, ∀ b ∈ bs, ToldApart f a b) {r r' : List Char}
    (h : sep.intercalate (as.map f) ++ c :: r = sep.intercalate (bs.map f) ++ c :: r') : as = bs ∧ r = r' := by
  cases as with
  | nil =>
    cases bs with
    | nil => exact ⟨rfl, (List.cons.inj h).2⟩
    | cons b bs =>
      rw [intercalate_cons_eq_flatMap, List.append_assoc] at h
      exact absurd h.symm ((hc b).ne _ _)
  | cons a as =>
    cases bs with
    | nil =>
      rw [intercalate_cons_eq_flatMap, List.append_assoc] at h
      exact absurd h ((hc a).ne _ _)
    | cons b bs =>
      rw [intercalate_cons_eq_flatMap, intercalate_cons_eq_flatMap, List.append_assoc, List.append_assoc] at h
      obtain ⟨rfl, hrest⟩ := hf a List.mem_cons_self b List.mem_cons_self _ _ h
      have happart : ∀ a ∈ as, ∀ b ∈ bs, ToldApart (fun b => sep ++ f b) a b := by
        intro a ha b hb r r' h
        rw [List.append_assoc, List.append_assoc, List.append_cancel_left_eq] at h
        exact hf a (List.mem_cons_of_mem _ ha) b (List.mem_cons_of_mem _ hb) r r' h
      obtain ⟨rfl, hr⟩ := flatMap_append_inj (fun b => hsep.append (f b)) happart hrest
      exact ⟨rfl, hr⟩

/-! ### Hexadecimal numbers -/

theorem exists_digitChar_of_mem_toDigits {n : Nat} {c : Char} (h : c ∈ Nat.toDigits 16 n) :
    ∃ d, c = Nat.digitChar d := by
  induction n using Nat.strongRecOn with
  | ind n ih =>
    rw [Nat.toDigits_eq_if (by omega)] at h
    split at h
    · exact ⟨n, List.mem_singleton.1 h⟩
    · rcases List.mem_append.1 h with h | h
      · exact ih (n / 16) (by omega) h
      · exact ⟨n % 16, List.mem_singleton.1 h⟩

theorem digitChar_injective {m n : Nat} (hm : m < 16) (hn : n < 16) (h : Nat.digitChar m = Nat.digitChar n) :
    m = n := by
  have hall : ∀ i : Fin 16, ∀ j : Fin 16, Nat.digitChar i = Nat.digitChar j → i = j := by decide
  exact congrArg Fin.val (hall ⟨m, hm⟩ ⟨n, hn⟩ h)

/-- A number is told by its digits. -/
theorem toDigits_injective {m n : Nat} (h : Nat.toDigits 16 m = Nat.toDigits 16 n) : m = n := by
  induction m using Nat.strongRecOn generalizing n with
  | ind m ih =>
    rw [Nat.toDigits_eq_if (by omega), Nat.toDigits_eq_if (n := n) (by omega)] at h
    split at h <;> split at h
    · exact digitChar_injective ‹_› ‹_› (List.cons.inj h).1
    · have hlength := congrArg List.length h
      simp at hlength
    · have hlength := congrArg List.length h
      simp at hlength
    · obtain ⟨hfront, hlast⟩ := List.append_singleton_inj.1 h
      have hdiv := ih (m / 16) (by omega) hfront
      have hmod := digitChar_injective (Nat.mod_lt m (by omega)) (Nat.mod_lt n (by omega)) hlast
      omega

/-! ### Quoting -/

/-- The letter that stands for a character after a backslash. -/
def escapeLetter? (c : Char) : Option Char :=
  if c = '"' then some '"'
  else if c = '\\' then some '\\'
  else if c = '\n' then some 'n'
  else if c = '\r' then some 'r'
  else if c = '\t' then some 't'
  else if c = '\x00' then some '0'
  else none

/-- How a character is written inside quotes if those for which `byCode` holds are written by their code points. -/
def quoteCharBy (byCode : Char → Bool) (c : Char) : List Char :=
  if byCode c then codePointEscape c
  else match escapeLetter? c with
    | some letter => ['\\', letter]
    | none => [c]

theorem escapeLetter?_injective {c d letter : Char} (hc : escapeLetter? c = some letter)
    (hd : escapeLetter? d = some letter) : c = d := by
  fun_cases escapeLetter? c <;> grind [escapeLetter?]

theorem escapeLetter?_ne_u (c : Char) : escapeLetter? c ≠ some 'u' := by
  unfold escapeLetter?
  grind

theorem ne_backslash_of_escapeLetter? {c : Char} (h : escapeLetter? c = none) : c ≠ '\\' := by
  rintro rfl
  cases h

theorem quoteCharBy_cases (byCode : Char → Bool) (c : Char) :
    quoteCharBy byCode c = codePointEscape c ∨
      (∃ letter, escapeLetter? c = some letter ∧ quoteCharBy byCode c = ['\\', letter]) ∨
      (escapeLetter? c = none ∧ quoteCharBy byCode c = [c]) := by
  fun_cases quoteCharBy byCode c with
  | case1 => exact .inl rfl
  | case2 _ letter h => exact .inr (.inl ⟨letter, h, rfl⟩)
  | case3 _ h => exact .inr (.inr ⟨h, rfl⟩)

theorem toldApart_codePointEscape (c d : Char) : ToldApart codePointEscape c d := by
  intro r r' h
  have hclose (x : Char) : '}' ∉ Nat.toDigits 16 x.toNat := by
    intro hx
    obtain ⟨n, hn⟩ := exists_digitChar_of_mem_toDigits hx
    exact Nat.digitChar_ne '}' (by decide) hn.symm
  simp only [codePointEscape, List.cons_append, List.append_assoc, List.cons.injEq, true_and, List.nil_append] at h
  obtain ⟨hdigits, hr⟩ := append_cons_inj (hclose c) (hclose d) h
  exact ⟨Char.toNat_inj.1 (toDigits_injective hdigits), hr⟩

/-- A character shows how far it goes and which one it is. -/
theorem toldApart_quoteCharBy (byCode : Char → Bool) (c d : Char) : ToldApart (quoteCharBy byCode) c d := by
  intro r r' h
  rcases quoteCharBy_cases byCode c with hc | ⟨x, hx, hc⟩ | ⟨hx, hc⟩ <;>
    rcases quoteCharBy_cases byCode d with hd | ⟨y, hy, hd⟩ | ⟨hy, hd⟩ <;> rw [hc, hd] at h
  -- no letter is the mark of a code point, and no character that stands for itself is a backslash
  · exact toldApart_codePointEscape c d r r' h
  · obtain rfl : 'u' = y := (List.cons.inj (List.cons.inj h).2).1
    exact absurd hy (escapeLetter?_ne_u d)
  · exact absurd (List.cons.inj h).1.symm (ne_backslash_of_escapeLetter? hy)
  · obtain rfl : x = 'u' := (List.cons.inj (List.cons.inj h).2).1
    exact absurd hx (escapeLetter?_ne_u c)
  · obtain ⟨rfl, hr⟩ := List.cons.inj (List.cons.inj h).2
    exact ⟨escapeLetter?_injective hx hy, hr⟩
  · exact absurd (List.cons.inj h).1.symm (ne_backslash_of_escapeLetter? hy)
  · exact absurd (List.cons.inj h).1 (ne_backslash_of_escapeLetter? hx)
  · exact absurd (List.cons.inj h).1 (ne_backslash_of_escapeLetter? hx)
  · exact List.cons.inj h

/-- A text in double quotes, with the characters for which `byCode` holds written by their code points. -/
def quoteBy (byCode : Char → Bool) (s : String) : String :=
  String.ofList ('"' :: (s.toList.flatMap (quoteCharBy byCode) ++ ['"']))

/-- The characters that are written by their code points when there is no letter for them. -/
def writtenByCode (c : Char) : Bool := (escapeLetter? c).isNone && needsCodePoint c

theorem quoteChar_eq_quoteCharBy (c : Char) : quoteChar c = quoteCharBy writtenByCode c := by
  fun_cases quoteChar c <;> simp_all [quoteCharBy, writtenByCode, escapeLetter?]

theorem quote_eq_quoteBy : quote = quoteBy writtenByCode := by
  funext s
  rw [quote, quoteBy, funext quoteChar_eq_quoteCharBy]

theorem beginsOther_quoteCharBy (byCode : Char → Bool) (c : Char) : BeginsOther '"' (quoteCharBy byCode c) := by
  rcases quoteCharBy_cases byCode c with h | ⟨x, -, h⟩ | ⟨hc, h⟩ <;> rw [h]
  · exact ⟨'\\', _, rfl, by decide⟩
  · exact ⟨'\\', _, rfl, by decide⟩
  · refine ⟨c, _, rfl, ?_⟩
    rintro rfl
    cases hc

/-- A quoted text shows where it ends and what it quotes. -/
theorem toldApart_quoteBy (byCode : Char → Bool) (s t : String) :
    ToldApart (fun s => (quoteBy byCode s).toList) s t := by
  intro r r' h
  simp only [quoteBy, String.toList_ofList, List.cons_append, List.append_assoc, List.nil_append, List.cons.injEq,
    true_and] at h
  obtain ⟨hs, hr⟩ := flatMap_append_inj (beginsOther_quoteCharBy byCode)
    (fun c _ d _ => toldApart_quoteCharBy byCode c d) h
  exact ⟨String.toList_inj.1 hs, hr⟩

theorem oneLine_quoteBy (byCode : Char → Bool) (s : String) : OneLine (quoteBy byCode s) := by
  have hcode (c : Char) : '\n' ∉ codePointEscape c := by
    have hdigits : '\n' ∉ Nat.toDigits 16 c.toNat := by
      intro h
      obtain ⟨d, hd⟩ := exists_digitChar_of_mem_toDigits h
      exact Nat.digitChar_ne '\n' (by decide) hd.symm
    simpa [codePointEscape] using hdigits
  have hchar (c : Char) : '\n' ∉ quoteCharBy byCode c := by
    rcases quoteCharBy_cases byCode c with h | ⟨letter, hletter, h⟩ | ⟨hnone, h⟩ <;> rw [h]
    · exact hcode c
    · have hne : '\n' ≠ letter := by
        rintro rfl
        revert hletter
        unfold escapeLetter?
        grind
      simpa using hne
    · have hne : '\n' ≠ c := by
        rintro rfl
        cases hnone
      simpa using hne
  rw [quoteBy, oneLine_ofList]
  simp [hchar]

/-- A quoted text is on one line. -/
theorem oneLine_quote (s : String) : OneLine (quote s) := by
  rw [quote_eq_quoteBy]
  exact oneLine_quoteBy writtenByCode s

end Acceptance
