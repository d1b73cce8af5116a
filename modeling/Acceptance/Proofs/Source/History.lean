import Acceptance.Source.Rewind
import Mathlib.Data.List.Induction

/-!
# Going back one item

What a source with one step back does can be told from the history of its calls alone.  A pull gives an item again if
there was a step back since the last pull and, when it was made, the last pull of the source underneath that did not
fail had given that item; every other pull is passed on to the source underneath, once (`Rewind.calls_faithful`).  The
source underneath may be pulled in any way, with or without an end.
-/

namespace Acceptance

/-! ### What has held since -/

section Since

variable {β : Type} {P : β → Prop}

/-- After `earlier` came `x`, and `P` has held of everything since. -/
def Since (P : β → Prop) (xs earlier : List β) (x : β) : Prop := ∃ later, xs = earlier ++ x :: later ∧ ∀ y ∈ later, P y

theorem not_since_nil (earlier : List β) (x : β) : ¬ Since P [] earlier x := by
  rintro ⟨later, h, -⟩
  exact absurd h (by simp)

theorem since_concat_iff {xs earlier : List β} {x y : β} :
    Since P (xs ++ [y]) earlier x ↔ earlier = xs ∧ x = y ∨ P y ∧ Since P xs earlier x := by
  constructor
  · rintro ⟨later, h, hlater⟩
    rcases List.eq_nil_or_concat later with rfl | ⟨later, z, rfl⟩
    · obtain ⟨rfl, rfl⟩ := List.append_singleton_inj.1 h
      exact .inl ⟨rfl, rfl⟩
    · rw [List.concat_eq_append, ← List.cons_append, ← List.append_assoc] at h
      obtain ⟨rfl, rfl⟩ := List.append_singleton_inj.1 h
      rw [List.concat_eq_append, List.forall_mem_append, List.forall_mem_singleton] at hlater
      exact .inr ⟨hlater.2, later, rfl, hlater.1⟩
  · rintro (⟨rfl, rfl⟩ | ⟨hy, later, rfl, hlater⟩)
    · exact ⟨[], rfl, nofun⟩
    · refine ⟨later ++ [y], by rw [List.append_assoc, List.cons_append], ?_⟩
      rw [List.forall_mem_append, List.forall_mem_singleton]
      exact ⟨hlater, hy⟩

end Since

namespace Rewind

variable {σ α ε : Type}

/-! ### Calls -/

/-- The calls of a source with one step back. -/
inductive Call where
  | pull
  | rewind
deriving DecidableEq, Repr

section Calls

variable (inner : σ → Answer α ε × σ)

/-- One pull, where the source underneath is pulled by `inner`. -/
def pullOver (s : Rewind σ α) : Answer α ε × Rewind σ α :=
  match s.memory with
  | .replaying a => (.item a, { s with memory := .holding a })
  | m => ((inner s.source).1, ⟨(inner s.source).2, m.after (inner s.source).1⟩)

/-- Does a call; to go back gives no answer. -/
def call : Call → Rewind σ α → Option (Answer α ε) × Rewind σ α
  | .pull, s => (some (pullOver inner s).1, (pullOver inner s).2)
  | .rewind, s => (none, s.rewind)

def afterCalls (calls : List Call) (s : Rewind σ α) : Rewind σ α := calls.foldl (fun s c => (call inner c s).2) s

/-- What calls give, one after the other. -/
def replies : List Call → Rewind σ α → List (Option (Answer α ε))
  | [], _ => []
  | c :: calls, s => (call inner c s).1 :: replies calls (call inner c s).2

/-- The source underneath after pulls. -/
def innerAfter (s : σ) : Nat → σ
  | 0 => s
  | n + 1 => (inner (innerAfter s n)).2

/-- The results of the source underneath. -/
def innerAnswers (s : σ) (n : Nat) : List (Answer α ε) := (List.range n).map fun i => (inner (innerAfter inner s i)).1

theorem afterCalls_concat (calls : List Call) (c : Call) (s : Rewind σ α) :
    afterCalls inner (calls ++ [c]) s = (call inner c (afterCalls inner calls s)).2 := by
  rw [afterCalls, List.foldl_append]
  rfl

theorem replies_concat (calls : List Call) (c : Call) (s : Rewind σ α) :
    replies inner (calls ++ [c]) s = replies inner calls s ++ [(call inner c (afterCalls inner calls s)).1] := by
  induction calls generalizing s with
  | nil => rfl
  | cons d calls ih => exact congrArg _ (ih (call inner d s).2)

theorem innerAnswers_succ (s : σ) (n : Nat) :
    innerAnswers inner s (n + 1) = innerAnswers inner s n ++ [(inner (innerAfter inner s n)).1] := by
  rw [innerAnswers, List.range_succ, List.map_append]
  rfl

theorem pullOver_of_idle {s : Rewind σ α} (h : s.memory.waiting = 0) :
    pullOver inner s = ((inner s.source).1, ⟨(inner s.source).2, s.memory.after (inner s.source).1⟩) := by
  obtain ⟨s, m⟩ := s
  cases m with
  | replaying a => simp [Memory.waiting] at h
  | empty | holding a => rfl

end Calls

/-- A source is pulled as it pulls. -/
theorem pullOver_pull [Source σ α ε] (s : Rewind σ α) : pullOver Source.pull s = Source.pull s := rfl

theorem rewind_rewind (s : Rewind σ α) : s.rewind.rewind = s.rewind := by
  obtain ⟨s, m⟩ := s
  cases m <;> rfl

/-! ### Histories -/

/-- What comes of a call. -/
inductive Event (α ε : Type) where
  /-- A step back. -/
  | rewound
  /-- An item is given again. -/
  | replayed (a : α)
  /-- The source underneath is pulled. -/
  | pulled (x : Answer α ε)

namespace Event

def call : Event α ε → Call
  | rewound => .rewind
  | _ => .pull

def reply : Event α ε → Option (Answer α ε)
  | rewound => none
  | replayed a => some (.item a)
  | pulled x => some x

/-- What the source underneath gives. -/
def pulled? : Event α ε → Option (Answer α ε)
  | pulled x => some x
  | _ => none

end Event

/-- The results of the source underneath in a history. -/
def given (es : List (Event α ε)) : List (Answer α ε) := es.filterMap Event.pulled?

/-- The last result that was no failure is the item `a`. -/
def LastGave (xs : List (Answer α ε)) (a : α) : Prop :=
  ∃ earlier, Since (fun x => ∃ e, x = .failed e) xs earlier (.item a)

/-- There was a step back since the last pull, and when it was made, `a` was the last that the source underneath had
given without a failure. -/
def Due (es : List (Event α ε)) (a : α) : Prop :=
  ∃ earlier, Since (· = .rewound) es earlier .rewound ∧ LastGave (given earlier) a

/-- A pull gives an item again exactly if it is due. -/
def Apt (es : List (Event α ε)) : Event α ε → Prop
  | .rewound => True
  | .replayed a => Due es a
  | .pulled _ => ∀ a, ¬ Due es a

/-- Every event of a history is apt after those before it. -/
inductive Faithful : List (Event α ε) → Prop
  | nil : Faithful []
  | concat {es : List (Event α ε)} {e : Event α ε} : Faithful es → Apt es e → Faithful (es ++ [e])

theorem given_pulled (es : List (Event α ε)) (x : Answer α ε) : given (es ++ [.pulled x]) = given es ++ [x] :=
  List.filterMap_append

/-- Only a pull of the source underneath gives a result of it. -/
theorem given_of_pulled?_eq_none (es : List (Event α ε)) {e : Event α ε} (h : e.pulled? = none) :
    given (es ++ [e]) = given es := by
  rw [given, List.filterMap_append, List.filterMap_cons_none h, List.filterMap_nil, List.append_nil, given]

theorem not_lastGave_nil (a : α) : ¬ LastGave ([] : List (Answer α ε)) a := fun ⟨_, h⟩ => not_since_nil _ _ h

theorem lastGave_item_iff {xs : List (Answer α ε)} {a b : α} : LastGave (xs ++ [.item b]) a ↔ a = b := by
  simp [LastGave, since_concat_iff]

theorem not_lastGave_stop (xs : List (Answer α ε)) (a : α) : ¬ LastGave (xs ++ [.stop]) a := by
  simp [LastGave, since_concat_iff]

theorem lastGave_failed_iff {xs : List (Answer α ε)} {a : α} {e : ε} :
    LastGave (xs ++ [.failed e]) a ↔ LastGave xs a := by
  simp [LastGave, since_concat_iff]

theorem due_rewound_iff {es : List (Event α ε)} {a : α} : Due (es ++ [.rewound]) a ↔ LastGave (given es) a := by
  simp only [Due, since_concat_iff, true_and, and_true]
  constructor
  · rintro ⟨earlier, rfl | ⟨later, rfl, hlater⟩, h⟩
    · exact h
    · -- nothing was pulled between two steps back
      have hnone : given (.rewound :: later) = [] := by
        refine List.filterMap_eq_nil_iff.2 (List.forall_mem_cons.2 ⟨rfl, fun e he => ?_⟩)
        rw [hlater e he]
        rfl
      rwa [given, List.filterMap_append, ← given, ← given, hnone, List.append_nil]
  · exact fun h => ⟨es, .inl rfl, h⟩

/-- Right after a pull nothing is due. -/
theorem not_due_of_call_eq_pull {es : List (Event α ε)} {e : Event α ε} (h : e.call = .pull) (a : α) :
    ¬ Due (es ++ [e]) a := by
  rintro ⟨earlier, hsince, -⟩
  rcases since_concat_iff.1 hsince with ⟨-, rfl⟩ | ⟨rfl, -⟩ <;> cases h

/-! ### What is remembered -/

/-- The memory that a history leaves. -/
def Remembers (es : List (Event α ε)) : Memory α → Prop
  | .empty => ∀ a, ¬ LastGave (given es) a
  | .holding a => (∀ b, LastGave (given es) b ↔ b = a) ∧ ∀ b, ¬ Due es b
  | .replaying a => (∀ b, LastGave (given es) b ↔ b = a) ∧ ∀ b, Due es b ↔ b = a

/-- What is due was given. -/
theorem Due.lastGave {es : List (Event α ε)} {a : α} (h : Due es a) : LastGave (given es) a := by
  rcases List.eq_nil_or_concat es with rfl | ⟨es, e, rfl⟩
  · obtain ⟨_, hsince, -⟩ := h
    exact absurd hsince (not_since_nil _ _)
  · rw [List.concat_eq_append] at h ⊢
    cases e with
    | rewound =>
      rw [given_of_pulled?_eq_none es rfl]
      exact due_rewound_iff.1 h
    | replayed b => exact absurd h (not_due_of_call_eq_pull rfl a)
    | pulled x => exact absurd h (not_due_of_call_eq_pull rfl a)

/-- The memory is empty, or it has the item that was the last to be given. -/
theorem Remembers.cases {es : List (Event α ε)} {m : Memory α} (h : Remembers es m) :
    m = .empty ∧ (∀ a, ¬ LastGave (given es) a) ∨
      ∃ a, m.rewind = .replaying a ∧ ∀ b, LastGave (given es) b ↔ b = a := by
  cases m with
  | empty => exact .inl ⟨rfl, h⟩
  | holding a => exact .inr ⟨a, rfl, h.1⟩
  | replaying a => exact .inr ⟨a, rfl, h.1⟩

theorem Remembers.rewound {es : List (Event α ε)} {m : Memory α} (h : Remembers es m) :
    Remembers (es ++ [.rewound]) m.rewind := by
  rcases h.cases with ⟨rfl, hnone⟩ | ⟨a, hholds, hlast⟩
  · intro a
    rw [given_of_pulled?_eq_none es rfl]
    exact hnone a
  · rw [hholds]
    refine ⟨fun b => ?_, fun b => ?_⟩
    · rw [given_of_pulled?_eq_none es rfl, hlast]
    · rw [due_rewound_iff, hlast]

theorem Remembers.replayed {es : List (Event α ε)} {a : α} (h : Remembers es (.replaying a)) :
    Apt es (.replayed a) ∧ Remembers (es ++ [.replayed a]) (.holding a) := by
  obtain ⟨hlast, hdue⟩ := h
  refine ⟨(hdue a).2 rfl, fun b => ?_, not_due_of_call_eq_pull rfl⟩
  rw [given_of_pulled?_eq_none es rfl, hlast]

theorem Remembers.pulled {es : List (Event α ε)} {m : Memory α} (h : Remembers es m) (hm : m.waiting = 0)
    (x : Answer α ε) : Apt es (.pulled x) ∧ Remembers (es ++ [.pulled x]) (m.after x) := by
  have hnone : ∀ a, ¬ Due es a := by
    cases m with
    | empty => exact fun a hdue => h a hdue.lastGave
    | holding a => exact h.2
    | replaying a => cases hm
  refine ⟨hnone, ?_⟩
  cases x with
  | item a =>
    refine ⟨fun b => ?_, not_due_of_call_eq_pull rfl⟩
    rw [given_pulled, lastGave_item_iff]
  | stop =>
    intro a
    rw [given_pulled]
    exact not_lastGave_stop _ a
  | failed e =>
    -- a failure leaves what is remembered as it is
    cases m with
    | empty =>
      intro a
      rw [given_pulled, lastGave_failed_iff]
      exact h a
    | holding a =>
      refine ⟨fun b => ?_, not_due_of_call_eq_pull rfl⟩
      rw [given_pulled, lastGave_failed_iff]
      exact h.1 b
    | replaying a => cases hm

/-! ### The history of calls -/

section History

variable (inner : σ → Answer α ε × σ)

/-- A source with one step back and the history that has led to it. -/
structure Recorded (s : σ) (es : List (Event α ε)) (t : Rewind σ α) : Prop where
  memory : Remembers es t.memory
  source : t.source = innerAfter inner s (given es).length
  given_eq : given es = innerAnswers inner s (given es).length

/-- A call is one apt event. -/
theorem Recorded.call {s : σ} {es : List (Event α ε)} {t : Rewind σ α} (h : Recorded inner s es t) (c : Call) :
    ∃ e : Event α ε, e.call = c ∧ Apt es e ∧ (call inner c t).1 = e.reply ∧
      Recorded inner s (es ++ [e]) (call inner c t).2 := by
  obtain ⟨hmemory, hsource, hgiven⟩ := h
  cases c with
  | rewind =>
    refine ⟨.rewound, rfl, trivial, rfl, hmemory.rewound, ?_, ?_⟩
    · rw [given_of_pulled?_eq_none es rfl]
      exact hsource
    · rw [given_of_pulled?_eq_none es rfl]
      exact hgiven
  | pull =>
    by_cases hm : t.memory.waiting = 0
    · have hpull := pullOver_of_idle inner hm
      obtain ⟨hapt, hnext⟩ := hmemory.pulled hm (inner t.source).1
      refine ⟨.pulled (inner t.source).1, rfl, hapt, ?_, ?_, ?_, ?_⟩
      · rw [Rewind.call, hpull]
        rfl
      · rw [Rewind.call, hpull]
        exact hnext
      · rw [Rewind.call, hpull, given_pulled, List.length_append, hsource]
        rfl
      · rw [given_pulled, List.length_append, List.length_singleton, innerAnswers_succ, ← hgiven, ← hsource]
    · obtain ⟨t, m⟩ := t
      cases m with
      | empty | holding => simp [Memory.waiting] at hm
      | replaying a =>
        obtain ⟨hapt, hnext⟩ := Remembers.replayed hmemory
        refine ⟨.replayed a, rfl, hapt, rfl, hnext, ?_, ?_⟩
        · rw [given_of_pulled?_eq_none es rfl]
          exact hsource
        · rw [given_of_pulled?_eq_none es rfl]
          exact hgiven

/-- Calls have a faithful history. -/
theorem exists_history (s : σ) (calls : List Call) :
    ∃ es : List (Event α ε), es.map Event.call = calls ∧ Faithful es ∧
      replies inner calls (ofSource s) = es.map Event.reply ∧
      ∀ i, Recorded inner s (es.take i) (afterCalls inner (calls.take i) (ofSource s)) := by
  induction calls using List.reverseRecOn with
  | nil =>
    refine ⟨[], rfl, .nil, rfl, fun i => ?_⟩
    rw [List.take_nil, List.take_nil]
    exact ⟨not_lastGave_nil, rfl, rfl⟩
  | append_singleton calls c ih =>
    obtain ⟨es, hcalls, hfaithful, hreplies, hrecorded⟩ := ih
    have hlength : calls.length = es.length := by rw [← hcalls, List.length_map]
    have hwhole := hrecorded calls.length
    rw [List.take_length, hlength, List.take_length] at hwhole
    obtain ⟨e, hcall, hapt, hreply, hnext⟩ := hwhole.call inner c
    refine ⟨es ++ [e], ?_, .concat hfaithful hapt, ?_, fun i => ?_⟩
    · rw [List.map_append, hcalls, List.map_singleton, hcall]
    · rw [replies_concat, hreplies, hreply, List.map_append, List.map_singleton]
    · by_cases hi : i ≤ es.length
      · rw [List.take_append_of_le_length hi, List.take_append_of_le_length (hlength ▸ hi)]
        exact hrecorded i
      · rw [List.take_of_length_le (by simp; omega), List.take_of_length_le (by simp; omega), afterCalls_concat]
        exact hnext

/-- Pulls and steps back, in any order, over any source: the pulls that find an item due give it again and ask nothing
of the source underneath; every other pull asks it once and gives its result, so these are its results in order.  To go
back twice is to go back once; if the last result that was no failure is an item, then a step back leads to it, and if
there is none, then a step back does nothing. -/
theorem calls_faithful (s : σ) (calls : List Call) :
    (∀ [Source σ α ε] (t : Rewind σ α), Source.pull t = pullOver Source.pull t) ∧
    ∃ es : List (Event α ε), es.map Event.call = calls ∧ Faithful es ∧
      replies inner calls (ofSource s) = es.map Event.reply ∧
      given es = innerAnswers inner s (given es).length ∧
      (∀ i, (afterCalls inner (calls.take i) (ofSource s)).source = innerAfter inner s (given (es.take i)).length) ∧
      let t := afterCalls inner calls (ofSource s)
      t.rewind.rewind = t.rewind ∧
        (∀ a, LastGave (given es) a → (call inner .pull t.rewind).1 = some (.item a) ∧
          (call inner .pull t.rewind).2.source = t.source) ∧
        ((∀ a, ¬ LastGave (given es) a) → t.rewind = t) := by
  refine ⟨fun t => by rw [pullOver_pull], ?_⟩
  obtain ⟨es, hcalls, hfaithful, hreplies, hrecorded⟩ := exists_history inner s calls
  have hwhole := hrecorded calls.length
  have hlength : calls.length = es.length := by rw [← hcalls, List.length_map]
  rw [List.take_length, hlength, List.take_length] at hwhole
  obtain ⟨hmemory, -, hgiven⟩ := hwhole
  refine ⟨es, hcalls, hfaithful, hreplies, hgiven, fun i => (hrecorded i).source, rewind_rewind _, ?_⟩
  rcases hmemory.cases with ⟨hempty, hnone⟩ | ⟨a, hholds, hlast⟩
  · refine ⟨fun a ha => absurd ha (hnone a), fun _ => ?_⟩
    rw [rewind, hempty]
    exact congrArg (Rewind.mk _) hempty.symm
  · refine ⟨fun b hb => ?_, fun hnone => absurd ((hlast a).2 rfl) (hnone a)⟩
    rw [(hlast b).1 hb, rewind, hholds]
    exact ⟨rfl, rfl⟩

end History

end Rewind

end Acceptance
