import QueryGate.Proofs.Json.Values
import QueryGate.Proofs.OrderedMap
import QueryGate.Proofs.Text.Occurrence

/-! # Text in front of an object

An object that stands at the end of a text is not read as part of something that begins in front of
it.  A list or an object in front of it lacks its end, and a string in front of it ends at the quote
of the first name.  So the text is a value only if nothing but white space is in front
(`IsWhole.forall_isSpace_of_parse`).

What is written of an object is one such object (`isWhole_render`), since with more steps nothing
else is read (`readValue_of_le`). -/

namespace QueryGate.Json

open Text

/-! ## More steps -/

section Steps

variable {r : Reading} {fuel depth : Nat} {s : Text}

/-- What is read with `fuel` steps is read with one more. -/
structure Steady (r : Reading) (fuel : Nat) : Prop where
  value : ∀ {depth s p}, readValue r fuel depth s = .ok p → readValue r (fuel + 1) depth s = .ok p
  items : ∀ {depth s p}, readItems r fuel depth s = .ok p → readItems r (fuel + 1) depth s = .ok p
  members : ∀ {depth read s p}, readMembers r fuel depth read s = .ok p →
    readMembers r (fuel + 1) depth read s = .ok p

theorem map_eq_ok_of_imp {ε α β : Type} {x y : Except ε α} {f : α → β} {b : β}
    (hxy : ∀ {a}, x = .ok a → y = .ok a) (h : x.map f = .ok b) : y.map f = .ok b := by
  obtain ⟨a, ha, rfl⟩ := map_eq_ok_iff.mp h
  rw [hxy ha]
  rfl

theorem Steady.readValue_succ (hs : Steady r fuel) {p : Json × Text}
    (h : readValue r (fuel + 1) depth s = .ok p) : readValue r (fuel + 2) depth s = .ok p := by
  rw [readValue.eq_def] at h ⊢
  simp only at h ⊢
  split
  · simp only at h
    split at h
    · cases h
    · rename_i hroom
      rw [if_neg hroom]
      clear hroom
      split at h
      · rename_i hclose
        simpa only [hclose] using h
      · cases h
      · exact map_eq_ok_of_imp hs.items h
  · simp only at h
    split at h
    · cases h
    · rename_i hroom
      rw [if_neg hroom]
      clear hroom
      split at h
      · rename_i hclose
        simpa only [hclose] using h
      · cases h
      · exact map_eq_ok_of_imp hs.members h
  · split at h <;> simp_all

theorem Steady.readItems_succ (hs : Steady r fuel) {p : List Json × Text}
    (h : readItems r (fuel + 1) depth s = .ok p) : readItems r (fuel + 2) depth s = .ok p := by
  rw [readItems] at h ⊢
  split at h
  · cases h
  · rename_i hread
    rw [hs.value hread]
    simp only
    split at h
    · exact map_eq_ok_of_imp hs.items h
    · exact h
    · cases h

theorem Steady.readMembers_succ (hs : Steady r fuel)
    {read : List (JsonString × Json)} {p : List (JsonString × Json) × Text}
    (h : readMembers r (fuel + 1) depth read s = .ok p) :
    readMembers r (fuel + 2) depth read s = .ok p := by
  unfold readMembers at h ⊢
  split at h
  · split at h
    · cases h
    · split at h
      · split at h
        · cases h
        · rename_i hread
          rw [hs.value hread]
          simp only
          split at h
          · exact hs.members h
          · exact h
          · cases h
      · cases h
  · cases h

theorem steady (r : Reading) (fuel : Nat) : Steady r fuel := by
  induction fuel with
  | zero => exact ⟨nofun, nofun, nofun⟩
  | succ fuel ih => exact ⟨ih.readValue_succ, ih.readItems_succ, ih.readMembers_succ⟩

theorem readValue_of_le {fuel' : Nat} {p : Json × Text}
    (h : readValue r fuel depth s = .ok p) (hle : fuel ≤ fuel') :
    readValue r fuel' depth s = .ok p := by
  induction hle with
  | refl => exact h
  | step _ ih => exact (steady r _).value ih

end Steps

/-! ## What is passed without a brace -/

/-- What stands in front of the rest of a text holds no opening brace. -/
def Passes (s rest : Text) : Prop := ∃ p, s = p ++ rest ∧ '\x7b' ∉ p

section Passes

variable {s t rest : Text}

theorem Passes.refl (s : Text) : Passes s s := ⟨[], rfl, List.not_mem_nil⟩

theorem Passes.trans (hst : Passes s t) (ht : Passes t rest) : Passes s rest := by
  obtain ⟨p, rfl, hp⟩ := hst
  obtain ⟨q, rfl, hq⟩ := ht
  exact ⟨p ++ q, (List.append_assoc p q rest).symm, by simp [hp, hq]⟩

theorem Passes.cons {c : Char} (hc : c ≠ '\x7b') (h : Passes s rest) : Passes (c :: s) rest := by
  obtain ⟨p, rfl, hp⟩ := h
  exact ⟨c :: p, rfl, by simp [hp, hc.symm]⟩

/-- A text that begins with a brace still stands at the end. -/
theorem Passes.suffix (h : Passes s rest) {tail : Text} (hs : '\x7b' :: tail <:+ s) :
    '\x7b' :: tail <:+ rest := by
  obtain ⟨p, rfl, hp⟩ := h
  obtain ⟨front, hfront⟩ := hs
  have hsplit : front ++ '\x7b' :: tail = [] ++ (p ++ rest) := hfront
  rcases append_cons_eq_append_cases hp hsplit with ⟨front', -, hrest⟩ | ⟨x, -, hx⟩
  · exact ⟨front', hrest.symm⟩
  · simp at hx

theorem passes_skipSpace (s : Text) : Passes s (skipSpace s) := by
  refine ⟨s.takeWhile isSpace, List.takeWhile_append_dropWhile.symm, ?_⟩
  intro h
  exact absurd (List.mem_takeWhile_imp h) (by decide)

theorem passes_digits? {ds : Text} (h : digits? s = some (ds, rest)) : Passes s rest := by
  have hrest : s.dropWhile isDecimal = rest := by
    rw [digits?] at h
    split at h
    · cases h
    · exact congrArg Prod.snd (Option.some.inj h)
  refine ⟨s.takeWhile isDecimal, ?_, ?_⟩
  · rw [← hrest, List.takeWhile_append_dropWhile]
  · intro hmem
    exact absurd (List.mem_takeWhile_imp hmem) (by decide)

theorem passes_whole? {ds : Text} (h : whole? s = some (ds, rest)) : Passes s rest := by
  unfold whole? at h
  split at h
  · obtain ⟨-, rfl⟩ := Prod.mk.inj (Option.some.inj h)
    exact (Passes.refl _).cons (by decide)
  · exact passes_digits? h

theorem passes_fractionOf (s : Text) : Passes s (fractionOf s).2 := by
  unfold fractionOf
  split
  · rename_i rest
    cases hdigits : digits? rest with
    | none => exact Passes.refl _
    | some p => exact (passes_digits? hdigits).cons (by decide)
  · exact Passes.refl _

theorem passes_exponentSign (s : Text) : Passes s (exponentSign s).2 := by
  unfold exponentSign
  split
  · exact (Passes.refl _).cons (by decide)
  · exact (Passes.refl _).cons (by decide)
  · exact Passes.refl _

theorem passes_exponentOf? {n : Int} (h : exponentOf? s = some (n, rest)) : Passes s rest := by
  cases s with
  | nil => cases h
  | cons c s =>
    rw [exponentOf?] at h
    split at h
    · rename_i hletter
      obtain ⟨p, hdigits, hp⟩ := Option.map_eq_some_iff.mp h
      obtain ⟨-, rfl⟩ := Prod.mk.inj hp
      refine ((passes_exponentSign s).trans (passes_digits? hdigits)).cons ?_
      rcases hletter with rfl | rfl <;> decide
    · cases h

variable {r : Reading} {v : Json}

theorem passes_readNumber {negative : Bool} (h : readNumber r negative s = .ok (v, rest)) :
    Passes s rest := by
  unfold readNumber at h
  split at h
  · cases h
  · rename_i whole t hwhole
    have hfraction := passes_fractionOf t
    generalize fractionOf t = fraction at h hfraction
    obtain ⟨frac, t'⟩ := fraction
    have hpassed := (passes_whole? hwhole).trans hfraction
    generalize whole.length + (if r.limitsAllNumbers && negative then 1 else 0) = length at h
    simp only at h hpassed
    split at h
    · cases h
    · split at h
      · obtain ⟨-, rfl⟩ := Prod.mk.inj (Except.ok.inj h)
        exact hpassed
      · obtain ⟨-, rfl⟩ := Prod.mk.inj (Except.ok.inj h)
        cases hexponent : exponentOf? t' with
        | none => exact hpassed
        | some e => exact hpassed.trans (passes_exponentOf? hexponent)

theorem passes_word? (h : word? s = some (v, rest)) : Passes s rest := by
  have hwords : ∀ w ∈ [("null", null), ("true", bool true), ("false", bool false),
      ("NaN", float .nan), ("Infinity", float (.infinite false)),
      ("-Infinity", float (.infinite true))], '\x7b' ∉ w.1.toList := by decide
  obtain ⟨w, hw, hword⟩ := List.exists_of_findSome?_eq_some h
  obtain ⟨t, hdrop, ht⟩ := Option.map_eq_some_iff.mp hword
  obtain ⟨-, rfl⟩ := Prod.mk.inj ht
  exact ⟨w.1.toList, eq_append_of_dropLead? hdrop, hwords w hw⟩

/-! ### Strings -/

theorem passes_unit? {n : Nat} (h : unit? s = some (n, rest)) : Passes s rest := by
  have hhex : ∀ {c : Char} {d : Nat}, hexValue? c = some d → c ≠ '\x7b' := by
    rintro c d hc rfl
    have hnone : hexValue? '\x7b' = none := by decide
    rw [hnone] at hc
    cases hc
  unfold unit? at h
  split at h
  · rename_i a b c d t
    split at h
    · rename_i ha hb hc hd
      obtain ⟨-, rfl⟩ := Prod.mk.inj (Option.some.inj h)
      exact ((((Passes.refl _).cons (hhex hd)).cons (hhex hc)).cons (hhex hb)).cons (hhex ha)
    · cases h
  · cases h

theorem passes_lowUnit? {n : Nat} (h : lowUnit? s = some (n, rest)) : Passes s rest := by
  unfold lowUnit? at h
  split at h
  · rename_i m t hunit
    split at h
    · obtain ⟨-, rfl⟩ := Prod.mk.inj (Option.some.inj h)
      obtain ⟨t, hdrop, hunit⟩ := Option.bind_eq_some_iff.mp hunit
      have hlead : Passes s t := ⟨"\\u".toList, eq_append_of_dropLead? hdrop, by decide⟩
      exact hlead.trans (passes_unit? hunit)
    · cases h
  · cases h

theorem passes_unicodeEscape? {part : StringPart}
    (h : unicodeEscape? r s = some (part, rest)) : Passes s rest := by
  unfold unicodeEscape? at h
  split at h
  · cases h
  · rename_i n t hunit
    have hpassed := passes_unit? hunit
    have hlone : ∀ {x}, (if r.unpairedUnits then some (x, t) else none) = some (part, rest) →
        Passes s rest := by
      intro x hx
      split at hx
      · obtain ⟨-, rfl⟩ := Prod.mk.inj (Option.some.inj hx)
        exact hpassed
      · cases hx
    simp only at h
    split at h
    · split at h
      · rename_i m t' hlow
        obtain ⟨-, rfl⟩ := Prod.mk.inj (Option.some.inj h)
        exact hpassed.trans (passes_lowUnit? hlow)
      · exact hlone h
    · split at h
      · exact hlone h
      · obtain ⟨-, rfl⟩ := Prod.mk.inj (Option.some.inj h)
        exact hpassed

theorem passes_escape? {part : StringPart} (h : escape? r s = some (part, rest)) :
    Passes s rest := by
  unfold escape? at h
  split at h
  case h_9 => exact (passes_unicodeEscape? h).cons (by decide)
  case h_10 => cases h
  all_goals
    obtain ⟨-, rfl⟩ := Prod.mk.inj (Option.some.inj h)
    exact (Passes.refl _).cons (by decide)

end Passes

/-! ## An object at the end -/

/-- A text that is an object: nothing is left behind it, and its first name begins with a character
that does not stand behind a name or a value. -/
structure IsWhole (r : Reading) (o : Text) : Prop where
  begins : ∃ c tail, o = '\x7b' :: '"' :: c :: tail ∧ isSpace c = false ∧
    c ∉ [',', ':', ']', '\x7d']
  whole : ∀ {fuel depth v rest}, readValue r fuel depth o = .ok (v, rest) → rest = []

namespace IsWhole

variable {r : Reading} {o s t rest : Text} {v : Json}

theorem suffix (ho : IsWhole r o) (h : Passes s rest) (hs : o <:+ s) : o <:+ rest := by
  obtain ⟨c, tail, rfl, -⟩ := ho.begins
  exact h.suffix hs

theorem suffix_of_cons (ho : IsWhole r o) {x : Char} (hx : x ≠ '\x7b') (h : o <:+ x :: t) :
    o <:+ t :=
  ho.suffix ((Passes.refl t).cons hx) h

/-- If reading goes on with a comma, a colon or a closing bracket, the object is not yet read. -/
theorem suffix_of_next (ho : IsWhole r o) (h : o <:+ rest ∨ rest = o.drop 2 ∨ rest = [])
    {x : Char} (hnext : skipSpace rest = x :: t) (hx : x ∈ [',', ':', ']', '\x7d']) : o <:+ t := by
  rcases h with h | rfl | rfl
  · have hrest : o <:+ x :: t := by
      rw [← hnext]
      exact ho.suffix (passes_skipSpace rest) h
    refine ho.suffix_of_cons ?_ hrest
    rintro rfl
    exact absurd hx (by decide)
  · obtain ⟨c, tail, rfl, hspace, hc⟩ := ho.begins
    have hrest : skipSpace (c :: tail) = x :: t := hnext
    rw [skipSpace_cons hspace] at hrest
    obtain ⟨rfl, -⟩ := List.cons.inj hrest
    exact absurd hx hc
  · cases hnext

/-- A string in front of the object ends there or at the quote of the first name. -/
theorem stringFrom? (ho : IsWhole r o) {fuel : Nat} {read : List StringPart} {k : JsonString}
    (hs : o <:+ s) (h : Json.stringFrom? r fuel read s = some (k, rest)) :
    o <:+ rest ∨ rest = o.drop 2 := by
  induction fuel generalizing read s with
  | zero => cases h
  | succ fuel ih =>
    cases s with
    | nil => cases h
    | cons c s =>
      rw [Json.stringFrom?] at h
      split at h
      · rename_i hquote
        obtain ⟨-, rfl⟩ := Prod.mk.inj (Option.some.inj h)
        exact .inl (ho.suffix_of_cons (by rw [hquote]; decide) hs)
      · split at h
        · rename_i hbackslash
          split at h
          · rename_i part t hescape
            have ht : o <:+ s := ho.suffix_of_cons (by rw [hbackslash]; decide) hs
            exact ih (ho.suffix (passes_escape? hescape) ht) h
          · cases h
        · split at h
          · cases h
          · rcases List.suffix_cons_iff.mp hs with rfl | hs
            · -- the brace is taken into the string, and the quote behind it ends the string
              obtain ⟨x, tail, htext, -⟩ := ho.begins
              obtain ⟨rfl, rfl⟩ := List.cons.inj htext
              cases fuel with
              | zero => cases h
              | succ fuel =>
                rw [Json.stringFrom?, if_pos rfl] at h
                obtain ⟨-, rfl⟩ := Prod.mk.inj (Option.some.inj h)
                exact .inr rfl
            · exact ih hs h

theorem string? (ho : IsWhole r o) {k : JsonString} (hs : o <:+ s)
    (h : Json.string? r s = some (k, rest)) : o <:+ rest ∨ rest = o.drop 2 :=
  ho.stringFrom? hs h

theorem readScalar (ho : IsWhole r o) (hs : o <:+ s) (h : Json.readScalar r s = .ok (v, rest)) :
    o <:+ rest ∨ rest = o.drop 2 := by
  unfold Json.readScalar at h
  split at h
  · rename_i t
    cases hstring : Json.string? r t with
    | none =>
      rw [hstring] at h
      cases h
    | some p =>
      rw [hstring] at h
      obtain ⟨-, rfl⟩ := Prod.mk.inj (Except.ok.inj h)
      exact ho.string? (ho.suffix_of_cons (by decide) hs) hstring
  · split at h
    · rename_i hword
      obtain rfl := Except.ok.inj h
      exact .inl (ho.suffix (passes_word? hword) hs)
    · split at h
      · exact .inl (ho.suffix ((passes_readNumber h).cons (by decide)) hs)
      · exact .inl (ho.suffix (passes_readNumber h) hs)

/-! ### Lists and objects -/

/-- With `fuel` steps, a value in front of the object ends there or at the quote of the first name. -/
def KeepsValues (r : Reading) (o : Text) (fuel : Nat) : Prop :=
  ∀ {depth s v rest}, o <:+ s → readValue r fuel depth s = .ok (v, rest) →
    o <:+ rest ∨ rest = o.drop 2 ∨ (s = o ∧ rest = [])

/-- With `fuel` steps, the items of a list end in front of the object. -/
def KeepsItems (r : Reading) (o : Text) (fuel : Nat) : Prop :=
  ∀ {depth s l rest}, o <:+ s → readItems r fuel depth s = .ok (l, rest) → o <:+ rest

/-- With `fuel` steps, the members of another object end in front of the object. -/
def KeepsMembers (r : Reading) (o : Text) (fuel : Nat) : Prop :=
  ∀ {depth read s l rest}, o <:+ s → readMembers r fuel depth read s = .ok (l, rest) → o <:+ rest

variable {fuel : Nat}

theorem keepsValues_succ (ho : IsWhole r o) (hitems : KeepsItems r o fuel)
    (hmembers : KeepsMembers r o fuel) : KeepsValues r o (fuel + 1) := by
  intro depth s v rest hs h
  by_cases hwhole : s = o
  · subst hwhole
    exact .inr (.inr ⟨rfl, ho.whole h⟩)
  · have hinside : ∀ {x t}, s = x :: t → o <:+ skipSpace t := by
      rintro x t rfl
      have ht : o <:+ t := (List.suffix_cons_iff.mp hs).resolve_left (Ne.symm hwhole)
      exact ho.suffix (passes_skipSpace t) ht
    rw [readValue.eq_def] at h
    simp only at h
    split at h
    · have ht := hinside rfl
      split at h
      · cases h
      · rename_i hroom
        clear hroom
        split at h
        · rename_i t' hclose
          obtain ⟨-, rfl⟩ := Prod.mk.inj (Except.ok.inj h)
          rw [hclose] at ht
          exact .inl (ho.suffix_of_cons (by decide) ht)
        · cases h
        · obtain ⟨p, hread, hp⟩ := map_eq_ok_iff.mp h
          obtain ⟨-, rfl⟩ := Prod.mk.inj hp
          exact .inl (hitems ht hread)
    · have ht := hinside rfl
      split at h
      · cases h
      · rename_i hroom
        clear hroom
        split at h
        · rename_i t' hclose
          obtain ⟨-, rfl⟩ := Prod.mk.inj (Except.ok.inj h)
          rw [hclose] at ht
          exact .inl (ho.suffix_of_cons (by decide) ht)
        · cases h
        · obtain ⟨p, hread, hp⟩ := map_eq_ok_iff.mp h
          obtain ⟨-, rfl⟩ := Prod.mk.inj hp
          exact .inl (hmembers ht hread)
    · exact (ho.readScalar hs h).imp_right .inl

theorem keepsItems_succ (ho : IsWhole r o) (hvalues : KeepsValues r o fuel)
    (hitems : KeepsItems r o fuel) : KeepsItems r o (fuel + 1) := by
  intro depth s l rest hs h
  rw [readItems] at h
  split at h
  · cases h
  · rename_i v t hread
    have ht : o <:+ t ∨ t = o.drop 2 ∨ t = [] := (hvalues hs hread).imp_right (Or.imp_right And.right)
    split at h
    · rename_i t' hnext
      obtain ⟨p, hread, hp⟩ := map_eq_ok_iff.mp h
      obtain ⟨-, rfl⟩ := Prod.mk.inj hp
      have ht' : o <:+ t' := ho.suffix_of_next ht hnext (by decide)
      exact hitems (ho.suffix (passes_skipSpace t') ht') hread
    · rename_i t' hnext
      obtain ⟨-, rfl⟩ := Prod.mk.inj (Except.ok.inj h)
      exact ho.suffix_of_next ht hnext (by decide)
    · cases h

theorem keepsMembers_succ (ho : IsWhole r o) (hvalues : KeepsValues r o fuel)
    (hmembers : KeepsMembers r o fuel) : KeepsMembers r o (fuel + 1) := by
  intro depth read s l rest hs h
  unfold readMembers at h
  split at h
  · rename_i t
    split at h
    · cases h
    · rename_i k t₁ hname
      have ht₁ : o <:+ t₁ ∨ t₁ = o.drop 2 ∨ t₁ = [] :=
        (ho.string? (ho.suffix_of_cons (by decide) hs) hname).imp_right .inl
      split at h
      · rename_i t₂ hcolon
        have ht₂ : o <:+ t₂ := ho.suffix_of_next ht₁ hcolon (by decide)
        split at h
        · cases h
        · rename_i v t₃ hread
          have ht₃ : o <:+ t₃ ∨ t₃ = o.drop 2 ∨ t₃ = [] :=
            (hvalues (ho.suffix (passes_skipSpace t₂) ht₂) hread).imp_right (Or.imp_right And.right)
          split at h
          · rename_i t₄ hnext
            have ht₄ : o <:+ t₄ := ho.suffix_of_next ht₃ hnext (by decide)
            exact hmembers (ho.suffix (passes_skipSpace t₄) ht₄) h
          · rename_i t₄ hnext
            obtain ⟨-, rfl⟩ := Prod.mk.inj (Except.ok.inj h)
            exact ho.suffix_of_next ht₃ hnext (by decide)
          · cases h
      · cases h
  · cases h

theorem keeps (ho : IsWhole r o) (fuel : Nat) :
    KeepsValues r o fuel ∧ KeepsItems r o fuel ∧ KeepsMembers r o fuel := by
  induction fuel with
  | zero => exact ⟨nofun, nofun, nofun⟩
  | succ fuel ih =>
    obtain ⟨hvalues, hitems, hmembers⟩ := ih
    exact ⟨ho.keepsValues_succ hitems hmembers, ho.keepsItems_succ hvalues hitems,
      ho.keepsMembers_succ hvalues hmembers⟩

/-- **A text that ends in an object is a value only if white space alone stands in front.** -/
theorem forall_isSpace_of_parse (ho : IsWhole r o) {front : Text}
    (h : parse r (front ++ o) = .ok v) : ∀ c ∈ front, isSpace c = true := by
  obtain ⟨c, tail, htext, hspace, -⟩ := ho.begins
  have hfront : o <:+ skipSpace (front ++ o) :=
    ho.suffix (passes_skipSpace _) (List.suffix_append front o)
  rw [parse] at h
  split at h
  · cases h
  · rename_i w rest hread
    split at h
    · rename_i hend
      have hnil : skipSpace rest = [] := List.isEmpty_iff.mp hend
      obtain ⟨hvalues, -, -⟩ := ho.keeps (2 * (front ++ o).length + 1)
      rcases hvalues hfront hread with hrest | rfl | ⟨hwhole, -⟩
      · have hsuffix := ho.suffix (passes_skipSpace rest) hrest
        rw [hnil, htext] at hsuffix
        cases List.eq_nil_of_suffix_nil hsuffix
      · have hskip : skipSpace (c :: tail) = [] := by
          rw [htext] at hnil
          exact hnil
        rw [skipSpace_cons hspace] at hskip
        cases hskip
      · -- what was skipped is all that stands in front
        have hsplit := List.takeWhile_append_dropWhile (p := isSpace) (l := front ++ o)
        rw [← skipSpace, hwhole] at hsplit
        have hskipped := List.append_cancel_right hsplit
        intro x hx
        rw [← hskipped] at hx
        exact List.mem_takeWhile_imp hx
    · cases h

end IsWhole

/-- What is written of an object is an object, if its first name begins with a plain character. -/
theorem isWhole_render {v : Json} (hv : v.isStorable = true) {c : Char} {tail : Text}
    (hrender : v.render = '\x7b' :: '"' :: c :: tail) (hspace : isSpace c = false)
    (hc : c ∉ [',', ':', ']', '\x7d']) (room : Nat) : IsWhole (.lenient room) v.render := by
  refine ⟨⟨c, tail, hrender, hspace, hc⟩, ?_⟩
  intro fuel depth w rest h
  obtain ⟨hvalues, -, -⟩ := reads_render (.lenient room) (fuel + v.render.length + 1)
  have hread := hvalues depth [] hv (suits_lenient room _) (by omega) ends_nil
  rw [List.append_nil, readValue_of_le h (by omega)] at hread
  cases hfault : v.fault? (Reading.lenient room).countsEmpty depth with
  | none =>
    rw [hfault] at hread
    exact congrArg Prod.snd (Except.ok.inj hread)
  | some f =>
    rw [hfault] at hread
    cases hread

end QueryGate.Json
