import QueryGate.OrderedMap
import Mathlib.Data.List.Induction
import Mathlib.Data.List.Nodup

/-! # Ordered maps, and results that come out of parts

Inserting at a key replaces the value there or adds the key at the end (`keys_insert`), and leaves
the other keys alone (`get?_insert_of_ne`).  So a map made of associations has each of their keys
once (`nodup_keys_ofList`), with the value of the last association of that key (`get?_ofList`), and
associations of distinct keys make up a map as they are (`ofList_of_nodup`).

A computation that may fail returns a value exactly if each of its parts returns one.  So what a
composed computation returned is taken apart from the outside in, one part at a time, and its
definition is not opened again. -/

namespace QueryGate

section Results

variable {ε α β : Type} {x : Except ε α}

theorem bind_eq_ok_iff {f : α → Except ε β} {b : β} :
    (x >>= f) = .ok b ↔ ∃ a, x = .ok a ∧ f a = .ok b := by
  cases x <;> simp [bind, Except.bind]

theorem map_eq_ok_iff {f : α → β} {b : β} : x.map f = .ok b ↔ ∃ a, x = .ok a ∧ f a = b := by
  cases x <;> simp [Except.map]

end Results

end QueryGate

namespace QueryGate.OrderedMap

variable {κ ν μ : Type}

section Insert

variable [BEq κ] [LawfulBEq κ]

theorem insertInto_of_notMem {k : κ} {l : List (κ × ν)} (h : k ∉ l.map (·.1)) (v : ν) :
    insertInto k v l = l ++ [(k, v)] := by
  induction l with
  | nil => rfl
  | cons e l ih =>
    obtain ⟨hne, hl⟩ := not_or.mp (fun hmem => h (List.mem_cons.mpr hmem))
    have hbeq : (e.1 == k) = false := by simpa using fun heq => hne heq.symm
    rw [insertInto, hbeq, if_neg (by decide), ih hl, List.cons_append]

theorem mem_insertInto {k : κ} {v : ν} {l : List (κ × ν)} {e : κ × ν}
    (h : e ∈ insertInto k v l) : e = (k, v) ∨ e ∈ l := by
  induction l with
  | nil => exact .inl (List.mem_singleton.mp h)
  | cons p l ih =>
    rw [insertInto] at h
    split at h
    · rename_i hkey
      rcases List.mem_cons.mp h with rfl | h
      · exact .inl (by rw [eq_of_beq hkey])
      · exact .inr (List.mem_cons_of_mem p h)
    · rcases List.mem_cons.mp h with rfl | h
      · exact .inr List.mem_cons_self
      · exact (ih h).imp_right (List.mem_cons_of_mem p)

/-- A key that is there keeps its place, and another is added at the end. -/
theorem keys_insertInto [DecidableEq κ] (k : κ) (v : ν) (l : List (κ × ν)) :
    (insertInto k v l).map (·.1) =
      if k ∈ l.map (·.1) then l.map (·.1) else l.map (·.1) ++ [k] := by
  induction l with
  | nil => rfl
  | cons e l ih =>
    by_cases hkey : e.1 = k
    · simp [insertInto, hkey]
    · have hne : ¬ k = e.1 := fun heq => hkey heq.symm
      simp only [insertInto, beq_false_of_ne hkey, Bool.false_eq_true, if_false, List.map_cons, ih,
        List.mem_cons, hne, false_or]
      split <;> rfl

theorem lookup_insertInto_of_ne {k k' : κ} (h : k' ≠ k) (v : ν) (l : List (κ × ν)) :
    (insertInto k v l).lookup k' = l.lookup k' := by
  induction l with
  | nil => simp [insertInto, List.lookup_cons, beq_false_of_ne h]
  | cons p l ih =>
    obtain ⟨m, u⟩ := p
    by_cases hm : m = k
    · simp [insertInto, hm, List.lookup_cons, beq_false_of_ne h]
    · simp [insertInto, hm, List.lookup_cons, ih]

theorem get?_insert_of_ne (m : OrderedMap κ ν) {k k' : κ} (h : k' ≠ k) (v : ν) :
    (m.insert k v).get? k' = m.get? k' :=
  lookup_insertInto_of_ne h v m.entries

theorem mem_of_get? {m : OrderedMap κ ν} {k : κ} {v : ν} (h : m.get? k = some v) :
    (k, v) ∈ m.entries := by
  obtain ⟨l, l', hentries, -⟩ := List.lookup_eq_some_iff.mp h
  rw [hentries]
  exact List.mem_append_right _ List.mem_cons_self

end Insert

/-! ## Maps made of associations -/

section OfList

variable [BEq κ]

theorem ofList_concat (l : List (κ × ν)) (k : κ) (v : ν) :
    ofList (l ++ [(k, v)]) = (ofList l).insert k v := by
  simp [ofList, List.foldl_append]

variable [LawfulBEq κ]

/-- Every association of the map is one of those that it was made of. -/
theorem mem_of_mem_ofList {l : List (κ × ν)} {e : κ × ν} (h : e ∈ (ofList l).entries) : e ∈ l := by
  induction l using List.reverseRecOn with
  | nil => exact h
  | append_singleton l p ih =>
    rw [ofList_concat, insert] at h
    rcases mem_insertInto h with rfl | h
    · exact List.mem_concat_self
    · exact List.mem_append_left _ (ih h)

theorem keys_insert [DecidableEq κ] (m : OrderedMap κ ν) (k : κ) (v : ν) :
    (m.insert k v).keys = if k ∈ m.keys then m.keys else m.keys ++ [k] :=
  keys_insertInto k v m.entries

theorem nodup_keys_ofList (l : List (κ × ν)) : (ofList l).keys.Nodup := by
  classical
  induction l using List.reverseRecOn with
  | nil => exact List.nodup_nil
  | append_singleton l e ih =>
    rw [ofList_concat, keys_insert]
    split
    · exact ih
    · rename_i hkey
      exact List.nodup_append.mpr ⟨ih, List.nodup_singleton _, by
        rintro k hk _ hmem rfl
        exact hkey (List.mem_singleton.mp hmem ▸ hk)⟩

/-- The last association of a key gives its value. -/
theorem get?_ofList (l : List (κ × ν)) (k : κ) : (ofList l).get? k = l.reverse.lookup k := by
  induction l using List.reverseRecOn with
  | nil => rfl
  | append_singleton l e ih =>
    rw [ofList_concat, List.reverse_concat, List.lookup_cons]
    by_cases hkey : k = e.1
    · subst hkey
      rw [get?_insert_self, beq_self_eq_true]
    · rw [get?_insert_of_ne _ hkey, ih, beq_false_of_ne hkey]

/-- Associations of distinct keys are kept as they are. -/
theorem ofList_of_nodup {l : List (κ × ν)} (h : (l.map (·.1)).Nodup) : ofList l = ⟨l⟩ := by
  induction l using List.reverseRecOn with
  | nil => rfl
  | append_singleton l e ih =>
    rw [List.map_append, List.nodup_append] at h
    obtain ⟨hl, -, hdisjoint⟩ := h
    have hkey : e.1 ∉ l.map (·.1) := fun hmem => hdisjoint e.1 hmem e.1 (by simp) rfl
    rw [ofList_concat, ih hl, insert, insertInto_of_notMem hkey]

end OfList

/-! ## Other values and other keys -/

@[simp] theorem keys_mapValues (f : ν → μ) (m : OrderedMap κ ν) :
    (m.mapValues f).keys = m.keys := by
  simp [keys, mapValues]

theorem lookup_map_snd [BEq κ] (f : ν → μ) (l : List (κ × ν)) (k : κ) :
    (l.map fun e => (e.1, f e.2)).lookup k = (l.lookup k).map f := by
  induction l with
  | nil => rfl
  | cons e l ih =>
    rw [List.map_cons, List.lookup_cons, List.lookup_cons]
    split
    · rfl
    · exact ih

theorem get?_mapValues [BEq κ] (f : ν → μ) (m : OrderedMap κ ν) (k : κ) :
    (m.mapValues f).get? k = (m.get? k).map f :=
  lookup_map_snd f m.entries k

/-- A map whose values a function does not change is left alone. -/
theorem mapValues_eq_self {f : ν → ν} {m : OrderedMap κ ν} (h : ∀ e ∈ m.entries, f e.2 = e.2) :
    m.mapValues f = m := by
  obtain ⟨l⟩ := m
  rw [mapValues]
  congr 1
  refine (List.map_congr_left fun e he => ?_).trans (List.map_id l)
  rw [h e he, id]

/-- A map of distinct keys that a function does not change is left alone. -/
theorem mapKeys_eq_self [BEq κ] [LawfulBEq κ] {f : κ → κ} {m : OrderedMap κ ν}
    (hnodup : m.keys.Nodup) (h : ∀ k ∈ m.keys, f k = k) : m.mapKeys f = m := by
  have hself : m.entries.map (fun e => (f e.1, e.2)) = m.entries := by
    refine (List.map_congr_left fun e he => ?_).trans (List.map_id m.entries)
    rw [h e.1 (List.mem_map_of_mem he), id]
  rw [mapKeys, hself]
  exact ofList_of_nodup hnodup

theorem mem_keys_mapKeys [BEq κ] [LawfulBEq κ] {f : κ → κ} {m : OrderedMap κ ν} {k : κ}
    (h : k ∈ (m.mapKeys f).keys) : ∃ k' ∈ m.keys, f k' = k := by
  obtain ⟨e, he, rfl⟩ := List.mem_map.mp h
  obtain ⟨e', he', rfl⟩ := List.mem_map.mp (mem_of_mem_ofList he)
  exact ⟨e'.1, List.mem_map_of_mem he', rfl⟩

end QueryGate.OrderedMap
