import QueryGate.Pattern
import QueryGate.Proofs.Text.Words

/-! # What a pattern reads

`Pattern.ends` lists where matches end.  `Pattern.Matches` says that a pattern reads a text between
two characters, and the search finds exactly these matches (`mem_ends_iff`).  The characters beside a
match count only as belonging to words or not (`Matches.congr`); `Pattern.Reads` leaves them and the
boundaries aside. -/

namespace QueryGate

open Text

namespace Place

/-! ## From place to place -/

/-- Reading the text `t` leads from the place `a` to the place `b`. -/
def Reaches (a : Place) (t : Text) (b : Place) : Prop :=
  a.rest = t ++ b.rest ∧ b.before = t.getLast?.or a.before

variable {a b : Place} {before : Option Char} {c d : Char} {s t u v : Text}

theorem reaches_nil_iff : a.Reaches [] b ↔ b = a := by
  obtain ⟨before, rest⟩ := a
  obtain ⟨before', rest'⟩ := b
  rw [Reaches, Place.mk.injEq, and_comm, List.nil_append, eq_comm (a := rest)]
  rfl

theorem reaches_cons_iff : (⟨before, c :: s⟩ : Place).Reaches (d :: t) b ↔
    c = d ∧ (⟨some c, s⟩ : Place).Reaches t b := by
  rw [Reaches, Reaches, getLast?_cons_or, List.cons_append, List.cons.injEq]
  constructor
  · rintro ⟨⟨rfl, hs⟩, hb⟩
    exact ⟨rfl, hs, hb⟩
  · rintro ⟨rfl, hs, hb⟩
    exact ⟨⟨rfl, hs⟩, hb⟩

theorem eq_nil_of_reaches (h : (⟨before, []⟩ : Place).Reaches t b) : t = [] :=
  (List.append_eq_nil_iff.mp h.1.symm).1

theorem reaches_append_iff : a.Reaches (u ++ v) b ↔ ∃ m, a.Reaches u m ∧ m.Reaches v b := by
  constructor
  · rintro ⟨hs, hb⟩
    rw [List.append_assoc] at hs
    rw [getLast?_append_or] at hb
    exact ⟨⟨u.getLast?.or a.before, v ++ b.rest⟩, ⟨hs, rfl⟩, rfl, hb⟩
  · rintro ⟨m, ⟨hs, hm⟩, hrest, hb⟩
    exact ⟨by rw [hs, hrest, List.append_assoc], by rw [hb, hm, getLast?_append_or]⟩

theorem keyword?_eq_some_iff {word : Text} :
    a.keyword? word = some b ↔ ∃ t, a.Reaches t b ∧ IsForm word t := by
  induction word generalizing a with
  | nil =>
    constructor
    · intro h
      obtain rfl := Option.some.inj h
      exact ⟨[], reaches_nil_iff.mpr rfl, .nil⟩
    · rintro ⟨_, ht, ⟨⟩⟩
      rw [reaches_nil_iff.mp ht]
      rfl
  | cons x word ih =>
    obtain ⟨before, _ | ⟨c, s⟩⟩ := a
    · constructor
      · intro h
        cases h
      · rintro ⟨_, ht, hform⟩
        cases hform with
        | cons _ _ => cases eq_nil_of_reaches ht
    · constructor
      · intro h
        simp only [keyword?] at h
        split at h
        · rename_i hc
          obtain ⟨t, ht, hform⟩ := ih.mp h
          exact ⟨c :: t, reaches_cons_iff.mpr ⟨rfl, ht⟩, .cons hc hform⟩
        · cases h
      · rintro ⟨_, ht, hform⟩
        cases hform with
        | cons hc hform =>
          obtain ⟨rfl, hreach⟩ := reaches_cons_iff.mp ht
          rw [keyword?, if_pos hc]
          exact ih.mpr ⟨_, hreach, hform⟩

theorem mem_runEnds_iff {k : CharClass} : b ∈ runEnds k before s ↔
    ∃ t, (⟨before, s⟩ : Place).Reaches t b ∧ ∀ c ∈ t, k.has c = true := by
  induction s generalizing before with
  | nil =>
    rw [runEnds, List.mem_singleton, ← reaches_nil_iff]
    constructor
    · intro h
      exact ⟨[], h, by simp⟩
    · rintro ⟨t, ht, -⟩
      obtain rfl := eq_nil_of_reaches ht
      exact ht
  | cons c s ih =>
    rw [runEnds]
    constructor
    · intro h
      split at h
      · rename_i hc
        rcases List.mem_append.mp h with h | h
        · obtain ⟨t, ht, hall⟩ := ih.mp h
          exact ⟨c :: t, reaches_cons_iff.mpr ⟨rfl, ht⟩, List.forall_mem_cons.mpr ⟨hc, hall⟩⟩
        · exact ⟨[], reaches_nil_iff.mpr (List.mem_singleton.mp h), by simp⟩
      · exact ⟨[], reaches_nil_iff.mpr (List.mem_singleton.mp h), by simp⟩
    · rintro ⟨t, ht, hall⟩
      cases t with
      | nil =>
        have hmem := List.mem_singleton.mpr (reaches_nil_iff.mp ht)
        split
        · exact List.mem_append_right _ hmem
        · exact hmem
      | cons d t =>
        obtain ⟨rfl, hreach⟩ := reaches_cons_iff.mp ht
        obtain ⟨hc, hall⟩ := List.forall_mem_cons.mp hall
        rw [if_pos hc]
        exact List.mem_append_left _ (ih.mpr ⟨t, hreach, hall⟩)

end Place

namespace Pattern

/-! ## Texts and matches -/

/-- The texts that a pattern reads, whatever stands beside them. -/
def Reads : Pattern → Text → Prop
  | keyword word, t => IsForm word t
  | run k, t => ∀ c ∈ t, k.has c = true
  | run1 k, t => t ≠ [] ∧ ∀ c ∈ t, k.has c = true
  | boundary, t => t = []
  | seq p q, t => ∃ u v, t = u ++ v ∧ p.Reads u ∧ q.Reads v
  | alt p q, t => p.Reads t ∨ q.Reads t
  | opt p, t => p.Reads t ∨ t = []

/-- The pattern reads the text `t` between the characters `before` and `after`. -/
def Matches : Pattern → Option Char → Text → Option Char → Prop
  | keyword word, _, t, _ => IsForm word t
  | run k, _, t, _ => ∀ c ∈ t, k.has c = true
  | run1 k, _, t, _ => t ≠ [] ∧ ∀ c ∈ t, k.has c = true
  | boundary, before, t, after => t = [] ∧ isBoundary before after = true
  | seq p q, before, t, after => ∃ u v, t = u ++ v ∧
      p.Matches before u (v.head?.or after) ∧ q.Matches (u.getLast?.or before) v after
  | alt p q, before, t, after => p.Matches before t after ∨ q.Matches before t after
  | opt p, before, t, after => p.Matches before t after ∨ t = []

theorem Matches.reads {p : Pattern} {before after : Option Char} {t : Text}
    (h : p.Matches before t after) : p.Reads t := by
  induction p generalizing before t after with
  | keyword word => exact h
  | run k => exact h
  | run1 k => exact h
  | boundary => exact h.1
  | seq p q ihp ihq =>
    obtain ⟨u, v, rfl, hu, hv⟩ := h
    exact ⟨u, v, rfl, ihp hu, ihq hv⟩
  | alt p q ihp ihq => exact h.imp ihp ihq
  | opt p ih => exact h.imp_left ih

/-- Of the characters beside a match it matters only whether they belong to words. -/
theorem Matches.congr {p : Pattern} {before before' after after' : Option Char} {t : Text}
    (hbefore : before.any isWord = before'.any isWord) (hafter : after.any isWord = after'.any isWord)
    (h : p.Matches before t after) : p.Matches before' t after' := by
  induction p generalizing before before' t after after' with
  | keyword word => exact h
  | run k => exact h
  | run1 k => exact h
  | boundary => exact ⟨h.1, by rw [isBoundary, ← hbefore, ← hafter]; exact h.2⟩
  | seq p q ihp ihq =>
    obtain ⟨u, v, rfl, hu, hv⟩ := h
    exact ⟨u, v, rfl, ihp hbefore (any_or_congr _ hafter) hu,
      ihq (any_or_congr _ hbefore) hafter hv⟩
  | alt p q ihp ihq => exact h.imp (ihp hbefore hafter) (ihq hbefore hafter)
  | opt p ih => exact h.imp_left (ih hbefore hafter)

/-! ## The search finds the matches -/

theorem mem_ends_run1_iff {k : CharClass} {a b : Place} :
    b ∈ (run1 k).ends a ↔ ∃ t, a.Reaches t b ∧ t ≠ [] ∧ ∀ c ∈ t, k.has c = true := by
  obtain ⟨before, _ | ⟨c, s⟩⟩ := a
  · constructor
    · intro h
      cases h
    · rintro ⟨t, ht, hne, -⟩
      exact absurd (Place.eq_nil_of_reaches ht) hne
  · rw [ends]
    constructor
    · intro h
      split at h
      · rename_i hc
        obtain ⟨t, ht, hall⟩ := Place.mem_runEnds_iff.mp h
        exact ⟨c :: t, Place.reaches_cons_iff.mpr ⟨rfl, ht⟩, by simp,
          List.forall_mem_cons.mpr ⟨hc, hall⟩⟩
      · cases h
    · rintro ⟨t, ht, hne, hall⟩
      cases t with
      | nil => exact absurd rfl hne
      | cons d t =>
        obtain ⟨rfl, hreach⟩ := Place.reaches_cons_iff.mp ht
        obtain ⟨hc, hall⟩ := List.forall_mem_cons.mp hall
        rw [if_pos hc]
        exact Place.mem_runEnds_iff.mpr ⟨t, hreach, hall⟩

/-- The ends of the search are the ends of the matches. -/
theorem mem_ends_iff {p : Pattern} {a b : Place} :
    b ∈ p.ends a ↔ ∃ t, a.Reaches t b ∧ p.Matches a.before t b.rest.head? := by
  induction p generalizing a b with
  | keyword word =>
    rw [ends, Option.mem_toList, Place.keyword?_eq_some_iff]
    rfl
  | run k => exact Place.mem_runEnds_iff
  | run1 k => exact mem_ends_run1_iff
  | boundary =>
    rw [ends]
    constructor
    · intro h
      split at h
      · rename_i hbound
        obtain rfl := List.mem_singleton.mp h
        exact ⟨[], Place.reaches_nil_iff.mpr rfl, rfl, hbound⟩
      · cases h
    · rintro ⟨t, ht, rfl, hbound⟩
      obtain rfl := Place.reaches_nil_iff.mp ht
      rw [if_pos (show b.atBoundary = true from hbound)]
      exact List.mem_singleton_self b
  | seq p q ihp ihq =>
    -- the match passes through the place where its first part ends
    rw [ends, List.mem_flatMap]
    constructor
    · rintro ⟨m, hm, hb⟩
      obtain ⟨u, hreach, hu⟩ := ihp.mp hm
      obtain ⟨v, hreach', hv⟩ := ihq.mp hb
      rw [hreach'.1, List.head?_append] at hu
      rw [hreach.2] at hv
      exact ⟨u ++ v, Place.reaches_append_iff.mpr ⟨m, hreach, hreach'⟩, u, v, rfl, hu, hv⟩
    · rintro ⟨_, ht, u, v, rfl, hu, hv⟩
      obtain ⟨m, hreach, hreach'⟩ := Place.reaches_append_iff.mp ht
      rw [← List.head?_append, ← hreach'.1] at hu
      rw [← hreach.2] at hv
      exact ⟨m, ihp.mpr ⟨u, hreach, hu⟩, ihq.mpr ⟨v, hreach', hv⟩⟩
  | alt p q ihp ihq =>
    rw [ends, List.mem_append, ihp, ihq]
    constructor
    · rintro (⟨t, ht, h⟩ | ⟨t, ht, h⟩)
      · exact ⟨t, ht, .inl h⟩
      · exact ⟨t, ht, .inr h⟩
    · rintro ⟨t, ht, h | h⟩
      · exact .inl ⟨t, ht, h⟩
      · exact .inr ⟨t, ht, h⟩
  | opt p ih =>
    rw [ends, List.mem_append, ih, List.mem_singleton]
    constructor
    · rintro (⟨t, ht, h⟩ | h)
      · exact ⟨t, ht, .inl h⟩
      · exact ⟨[], Place.reaches_nil_iff.mpr h, .inr rfl⟩
    · rintro ⟨t, ht, h | rfl⟩
      · exact .inl ⟨t, ht, h⟩
      · exact .inr (Place.reaches_nil_iff.mp ht)

/-- A match from a place reads a text of the pattern and leaves the rest. -/
theorem reads_of_mem_ends {p : Pattern} {a b : Place} (h : b ∈ p.ends a) :
    ∃ t, a.rest = t ++ b.rest ∧ p.Reads t := by
  obtain ⟨t, hreach, ht⟩ := mem_ends_iff.mp h
  exact ⟨t, hreach.1, ht.reads⟩

theorem reads_of_firstEnd? {p : Pattern} {a b : Place} (h : p.firstEnd? a = some b) :
    ∃ t, a.rest = t ++ b.rest ∧ p.Reads t := by
  rw [firstEnd?_eq_head?] at h
  exact reads_of_mem_ends (List.mem_of_mem_head? h)

theorem reads_oneOf_iff {word t : Text} {more : List Text} :
    (oneOf word more).Reads t ↔ ∃ k ∈ word :: more, IsForm k t := by
  induction more generalizing word with
  | nil => simp [oneOf, Reads]
  | cons next more ih =>
    rw [oneOf, Reads, ih, List.exists_mem_cons_iff (a := word)]
    rfl

/-- A mark has no form but itself, so it is read as itself. -/
theorem eq_of_reads_mark {mark : Char} (hmark : mark.toNat < 65) {t : Text}
    (h : (opt (keyword [mark])).Reads t) : ∀ c ∈ t, c = mark := by
  rcases h with h | rfl
  · cases h with
    | cons hc hnil =>
      obtain rfl : _ = [] := by simpa using hnil
      exact List.forall_mem_singleton.mpr (eq_of_isFormOf hmark hc)
  · simp

end Pattern

end QueryGate
