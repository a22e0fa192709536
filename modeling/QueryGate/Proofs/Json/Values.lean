import QueryGate.Proofs.Json.Numbers
import QueryGate.Proofs.Json.Strings
import QueryGate.Proofs.OrderedMap
import QueryGate.Proofs.Text.Utf8

/-! # Reading a written value

A value is *storable* if its strings are texts, its numbers are finite, and each object has one
member for each name.  The line of a storable value is read as that value, unless the reader finds
a fault in it, a number that is too long or too many lists and objects inside one another
(`parse_render`).  That holds for every way of reading that has the same limit for numbers, and for
every way of reading if there are no numbers in the value.

The induction is on the steps that the reader is given; the three parts of its statement are the
three functions of the reader. -/

namespace QueryGate.Json

open Text Decimal

mutual

/-- Whether a value can be written so that it is read again, if it is read at all. -/
def isStorable : Json → Bool
  | float x => decide x.IsFinite
  | string s => s.isText
  | arr items => areStorable items
  | members l => membersStorable l && decide (l.map (·.1)).Nodup
  | _ => true

/-- Whether each value of a list can be written so that it is read again. -/
def areStorable : List Json → Bool
  | [] => true
  | v :: rest => isStorable v && areStorable rest

/-- Whether the name and value of each member can be written so that they are read again. -/
def membersStorable : List (JsonString × Json) → Bool
  | [] => true
  | (k, v) :: rest => k.isText && isStorable v && membersStorable rest

end

mutual

/-- Whether no number stands in a value. -/
def isNumberless : Json → Bool
  | int _ => false
  | float _ => false
  | arr items => areNumberless items
  | members l => membersNumberless l
  | _ => true

/-- Whether no number stands in the values of a list. -/
def areNumberless : List Json → Bool
  | [] => true
  | v :: rest => isNumberless v && areNumberless rest

/-- Whether no number stands in the values of members. -/
def membersNumberless : List (JsonString × Json) → Bool
  | [] => true
  | (_, v) :: rest => isNumberless v && membersNumberless rest

end

/-- A way of reading whose limit for numbers is that of `fault?`, or any way of reading what holds
no number. -/
def Suits (r : Reading) (numberless : Bool) : Prop :=
  r.limitsAllNumbers = true → numberless = true

theorem suits_lenient (depth : Nat) (numberless : Bool) : Suits (.lenient depth) numberless := nofun

theorem suits_and {r : Reading} {a b : Bool} : Suits r (a && b) ↔ Suits r a ∧ Suits r b := by
  simp only [Suits, Bool.and_eq_true]
  exact ⟨fun h => ⟨fun hr => (h hr).1, fun hr => (h hr).2⟩, fun h hr => ⟨h.1 hr, h.2 hr⟩⟩

/-! ## Scalars -/

theorem ne_of_isDecimal {c x : Char} (hc : isDecimal c = true) (hx : isDecimal x = false) :
    c ≠ x := by
  rintro rfl
  rw [hc] at hx
  cases hx

/-- A number does not begin like a word. -/
theorem word?_of_number {c : Char} {s : Text} (hc : isDecimal c = true) :
    word? (c :: s) = none ∧ word? ('-' :: c :: s) = none := by
  have hne : ∀ x, isDecimal x = false → x ≠ c := fun x hx => (ne_of_isDecimal hc hx).symm
  constructor
  · simp [word?, dropLead?, hne 'n' rfl, hne 't' rfl, hne 'f' rfl, hne 'N' rfl, hne 'I' rfl,
      hne '-' rfl]
  · simp [word?, dropLead?, hne 'I' rfl]

/-- The text begins with a digit. -/
def BeginsNumber (s : Text) : Prop := ∃ c t, s = c :: t ∧ isDecimal c = true

/-- The text begins, but with no space, and as no list and no object begins or ends. -/
def BeginsScalar (s : Text) : Prop :=
  ∃ c t, s = c :: t ∧ isSpace c = false ∧ c ≠ '[' ∧ c ≠ ']' ∧ c ≠ '\x7b'

/-- A sign and what begins with a digit are read as a number. -/
theorem readScalar_signed (r : Reading) (negative : Bool) {s : Text} (hs : BeginsNumber s)
    (rest : Text) :
    BeginsScalar (Binary64.signText negative ++ s) ∧
      readScalar r (Binary64.signText negative ++ s ++ rest) =
        readNumber r negative (s ++ rest) := by
  obtain ⟨c, t, rfl, hc⟩ := hs
  obtain ⟨hword, hword'⟩ := word?_of_number (s := t ++ rest) hc
  cases negative with
  | false =>
    constructor
    · have hspace : isSpace c = false := by
        simp [isSpace, ne_of_isDecimal (x := ' ') hc rfl, ne_of_isDecimal (x := '\t') hc rfl,
          ne_of_isDecimal (x := '\n') hc rfl, ne_of_isDecimal (x := '\r') hc rfl]
      exact ⟨c, t, rfl, hspace, ne_of_isDecimal hc rfl, ne_of_isDecimal hc rfl,
        ne_of_isDecimal hc rfl⟩
    · have htext : Binary64.signText false ++ c :: t ++ rest = c :: (t ++ rest) := rfl
      rw [htext, List.cons_append, readScalar.eq_def]
      split
      · rename_i heq
        exact absurd (List.cons.inj heq).1 (ne_of_isDecimal hc rfl)
      · rw [hword]
        simp only
        split
        · rename_i heq
          exact absurd (List.cons.inj heq).1 (ne_of_isDecimal hc rfl)
        · rfl
  | true =>
    refine ⟨⟨'-', c :: t, rfl, rfl, by decide⟩, ?_⟩
    have htext : Binary64.signText true ++ c :: t ++ rest = '-' :: c :: (t ++ rest) := rfl
    simp only [htext, readScalar, hword']
    rfl

theorem beginsNumber_of_allDigits {ds : Text} (hds : AllDigits ds) (hne : ds ≠ []) :
    BeginsNumber ds := by
  cases ds with
  | nil => exact absurd rfl hne
  | cons c t => exact ⟨c, t, rfl, hds c List.mem_cons_self⟩

theorem beginsNumber_toText {m : Nat} {e : Int} (h : (Binary64.finite false m e).IsFinite) :
    BeginsNumber ((shortest m e).toText recordLayout) := by
  by_cases hm : m = 0
  · subst hm
    exact ⟨'0', ['.', '0'], rfl, rfl⟩
  · have hnumeral := (shortest_reads h hm).1
    obtain ⟨c, t, hds, hc⟩ := beginsNumber_of_allDigits hnumeral.allDigits hnumeral.ne_nil
    rw [Digits.toText]
    split
    · split
      · exact ⟨'0', _, rfl, rfl⟩
      · simp only [hds, List.take_succ_cons, List.cons_append]
        exact ⟨c, _, rfl, hc⟩
    · simp only [hds, List.take_succ_cons, List.cons_append]
      exact ⟨c, _, rfl, hc⟩

theorem exists_text_of_isText {k : JsonString} (hk : k.isText = true) : ∃ s, k = .text s := by
  cases k with
  | text s => exact ⟨s, rfl⟩
  | broken units => cases hk

/-- A value that is no list and no object. -/
def isScalar : Json → Bool
  | arr _ => false
  | members _ => false
  | _ => true

theorem Suits.limitsAllNumbers {r : Reading} (hr : Suits r false) : r.limitsAllNumbers = false := by
  simpa [Suits] using hr

variable {v : Json} {rest : Text} {r : Reading}

/-- A scalar begins as one, and is read as itself unless it is too long. -/
theorem readScalar_render (hscalar : v.isScalar = true) (hv : v.isStorable = true)
    (hr : Suits r v.isNumberless) (hrest : Ends rest) (limit : Nat) :
    BeginsScalar v.render ∧
      readScalar r (v.render ++ rest) = unlessFault (v.fault? r.countsEmpty limit) (v, rest) := by
  cases v with
  | null => exact ⟨⟨'n', _, rfl, rfl, by decide⟩, rfl⟩
  | bool b =>
    cases b with
    | true => exact ⟨⟨'t', _, rfl, rfl, by decide⟩, rfl⟩
    | false => exact ⟨⟨'f', _, rfl, rfl, by decide⟩, rfl⟩
  | string s =>
    obtain ⟨s, rfl⟩ := exists_text_of_isText hv
    obtain ⟨behind, htext, hread⟩ := string?_quote r s rest
    have hrender : render (string (.text s)) ++ rest = '"' :: behind := htext
    refine ⟨⟨'"', _, rfl, rfl, by decide⟩, ?_⟩
    rw [hrender, readScalar, hread]
    rfl
  | int i =>
    -- the reader sees the sign apart from the digits, which are those of the absolute value
    cases i with
    | ofNat n =>
      have hdigits := beginsNumber_of_allDigits (allDigits_ofNat n) (ofNat_ne_nil n)
      obtain ⟨hbegins, hread⟩ := readScalar_signed r false hdigits rest
      refine ⟨hbegins, hread.trans ?_⟩
      rw [readNumber_ofNat hr.limitsAllNumbers n false hrest, fault?]
      rfl
    | negSucc n =>
      have hdigits := beginsNumber_of_allDigits (allDigits_ofNat (n + 1)) (ofNat_ne_nil (n + 1))
      obtain ⟨hbegins, hread⟩ := readScalar_signed r true hdigits rest
      refine ⟨hbegins, hread.trans ?_⟩
      rw [readNumber_ofNat hr.limitsAllNumbers (n + 1) true hrest, fault?]
      rfl
  | float x =>
    have hx : x.IsFinite := of_decide_eq_true hv
    cases x with
    | infinite negative => exact hx.elim
    | nan => exact hx.elim
    | finite negative m e =>
      obtain ⟨hbegins, hread⟩ :=
        readScalar_signed r negative (beginsNumber_toText (m := m) (e := e) hx) rest
      refine ⟨hbegins, hread.trans ?_⟩
      rw [readNumber_shortest hr.limitsAllNumbers hx hrest]
      rfl
  | arr items => cases hscalar
  | members l => cases hscalar

/-! ## Lists and objects -/

theorem skipSpace_cons {c : Char} {s : Text} (hc : isSpace c = false) :
    skipSpace (c :: s) = c :: s := by
  rw [skipSpace, List.dropWhile_cons_of_neg (by simp [hc])]

theorem skipSpace_blank (s : Text) : skipSpace (' ' :: s) = skipSpace s :=
  List.dropWhile_cons_of_pos rfl

/-- What a storable value begins with is no space and ends no list. -/
theorem render_eq_cons (hv : v.isStorable = true) :
    ∃ c t, v.render = c :: t ∧ isSpace c = false ∧ c ≠ ']' := by
  cases hscalar : v.isScalar with
  | true =>
    obtain ⟨c, t, hrender, hspace, -, hbracket, -⟩ :=
      (readScalar_render hscalar hv (suits_lenient 0 _) ends_nil 0).1
    exact ⟨c, t, hrender, hspace, hbracket⟩
  | false =>
    cases v with
    | arr items => exact ⟨'[', _, by rw [render, List.cons_append], rfl, by decide⟩
    | members l => exact ⟨'\x7b', _, by rw [render, List.cons_append], rfl, by decide⟩
    | _ => cases hscalar

theorem skipSpace_render (hv : v.isStorable = true) (s : Text) :
    skipSpace (v.render ++ s) = v.render ++ s := by
  obtain ⟨c, t, hrender, hspace, -⟩ := render_eq_cons hv
  rw [hrender, List.cons_append, skipSpace_cons hspace]

/-- A member of a new name comes behind those already read. -/
theorem addMember_of_notMem {k : JsonString} {read : List (JsonString × Json)}
    (hk : k ∉ read.map (·.1)) : addMember r k v read = read ++ [(k, v)] := by
  rw [addMember]
  split
  · rfl
  · exact OrderedMap.insertInto_of_notMem hk v

/-- The items of a list begin as its first item does. -/
theorem renderItems_eq_append (w : Json) (items : List Json) :
    ∃ s, renderItems (w :: items) = w.render ++ s := by
  cases items with
  | nil => exact ⟨[], by rw [renderItems, List.append_nil]⟩
  | cons x items => exact ⟨", ".toList ++ renderItems (x :: items), by simp [renderItems]⟩

/-- The members of an object begin with a quote, behind which the first name and value stand. -/
theorem renderMembers_eq_append (k : Text) (w : Json) (l : List (JsonString × Json)) :
    ∃ s, renderMembers ((.text k, w) :: l) = quote k ++ ": ".toList ++ w.render ++ s := by
  cases l with
  | nil => exact ⟨[], by rw [renderMembers, List.append_nil]; rfl⟩
  | cons m l => exact ⟨", ".toList ++ renderMembers (m :: l), by simp [renderMembers, quoteString]⟩

/-- With `fuel` steps, each value with a short enough line is read from it, or its first fault is
found. -/
def ReadsValues (r : Reading) (fuel : Nat) : Prop :=
  ∀ (limit : Nat) {v : Json} (rest : Text), v.isStorable = true → Suits r v.isNumberless →
    v.render.length < fuel → Ends rest →
    readValue r fuel limit (v.render ++ rest) = unlessFault (v.fault? r.countsEmpty limit) (v, rest)

/-- With `fuel` steps, the items of each list are read up to its end, or their first fault is
found. -/
def ReadsItems (r : Reading) (fuel : Nat) : Prop :=
  ∀ (limit : Nat) {items : List Json} (rest : Text), items ≠ [] → areStorable items = true →
    Suits r (areNumberless items) → (renderItems items).length + 1 < fuel →
    readItems r fuel limit (renderItems items ++ ']' :: rest) =
      unlessFault (itemsFault? r.countsEmpty items limit) (items, rest)

/-- With `fuel` steps, the members of each object are read up to its end, or their first fault is
found. -/
def ReadsMembers (r : Reading) (fuel : Nat) : Prop :=
  ∀ (limit : Nat) (read : List (JsonString × Json)) {l : List (JsonString × Json)} (rest : Text),
    l ≠ [] → membersStorable l = true → Suits r (membersNumberless l) →
    ((read ++ l).map (·.1)).Nodup → (renderMembers l).length + 1 < fuel →
    readMembers r fuel limit read (renderMembers l ++ '\x7d' :: rest) =
      unlessFault (membersFault? r.countsEmpty l limit) (read ++ l, rest)

variable {fuel limit : Nat} {f : TextFault}

theorem isText_of_membersStorable {k : JsonString} {l : List (JsonString × Json)}
    (h : membersStorable ((k, v) :: l) = true) : k.isText = true := by
  simp only [membersStorable, Bool.and_eq_true] at h
  exact h.1.1

theorem readValue_list {c : Char} {s : Text} (hspace : isSpace c = false) (hc : c ≠ ']') :
    readValue r (fuel + 1) limit ('[' :: c :: s) =
      match limit with
      | 0 => .error .tooDeep
      | limit + 1 => (readItems r fuel limit (c :: s)).map fun p => (arr p.1, p.2) := by
  rw [readValue.eq_def]
  simp only [skipSpace_cons hspace]
  split
  · -- no room is left
    rename_i hfull
    rw [Bool.and_eq_true, beq_iff_eq] at hfull
    obtain ⟨-, rfl⟩ := hfull
    rfl
  · rename_i hroom
    clear hroom
    split
    · rename_i heq
      exact absurd (List.cons.inj heq).1 hc
    · rfl
    · rfl

theorem readValue_object {s : Text} : readValue r (fuel + 1) limit ('\x7b' :: '"' :: s) =
      match limit with
      | 0 => .error .tooDeep
      | limit + 1 => (readMembers r fuel limit [] ('"' :: s)).map fun p => (members p.1, p.2) := by
  have hspace : isSpace '"' = false := rfl
  rw [readValue.eq_def]
  simp only [skipSpace_cons hspace]
  cases limit with
  | zero => split <;> rfl
  | succ limit =>
    rw [Bool.and_comm]
    rfl

/-- A scalar takes one step. -/
theorem readValue_scalar (hscalar : v.isScalar = true) (hv : v.isStorable = true)
    (hr : Suits r v.isNumberless) (hrest : Ends rest) :
    readValue r (fuel + 1) limit (v.render ++ rest) =
      unlessFault (v.fault? r.countsEmpty limit) (v, rest) := by
  obtain ⟨⟨c, t, hrender, -, hlist, -, hobject⟩, hread⟩ :=
    readScalar_render hscalar hv hr hrest limit
  rw [hrender] at hread ⊢
  rw [← hread, List.cons_append, readValue.eq_def]
  simp only
  split
  · rename_i heq
    exact absurd (List.cons.inj heq).1 hlist
  · rename_i heq
    exact absurd (List.cons.inj heq).1 hobject
  · rfl

/-- A list takes one step more than its items. -/
theorem ReadsItems.readValue_arr (hitems : ReadsItems r fuel) {items : List Json}
    (hstorable : areStorable items = true) (hr : Suits r (areNumberless items))
    (hfuel : (renderItems items).length + 1 < fuel) :
    readValue r (fuel + 1) limit ((arr items).render ++ rest) =
      unlessFault ((arr items).fault? r.countsEmpty limit) (arr items, rest) := by
  cases items with
  | nil =>
    have hread : readValue r (fuel + 1) limit ('[' :: ']' :: rest) =
        if r.countsEmpty && limit == 0 then .error .tooDeep else .ok (arr [], rest) := rfl
    refine hread.trans ?_
    cases limit with
    | zero => cases hcount : r.countsEmpty <;> simp [fault?, unlessFault]
    | succ limit => simp [fault?, unlessFault]
  | cons w items =>
    obtain ⟨s, hs⟩ := renderItems_eq_append w items
    obtain ⟨c, t, hc, hspace, hbracket⟩ := render_eq_cons ((Bool.and_eq_true _ _).mp hstorable).1
    have hopen : (arr (w :: items)).render ++ rest = '[' :: c :: (t ++ s ++ ']' :: rest) := by
      rw [render, hs, hc]
      simp
    rw [hopen, readValue_list hspace hbracket]
    cases limit with
    | zero => rfl
    | succ limit =>
      have hread := hitems limit rest (List.cons_ne_nil w items) hstorable hr hfuel
      rw [hs, hc, List.cons_append, List.cons_append] at hread
      simp only [hread, fault?, itemsFault?]
      cases (w.fault? r.countsEmpty limit).or (itemsFault? r.countsEmpty items limit) <;> rfl

/-- An object takes one step more than its members. -/
theorem ReadsMembers.readValue_members (hmembers : ReadsMembers r fuel)
    {l : List (JsonString × Json)} (hstorable : membersStorable l = true)
    (hr : Suits r (membersNumberless l)) (hnodup : (l.map (·.1)).Nodup)
    (hfuel : (renderMembers l).length + 1 < fuel) :
    readValue r (fuel + 1) limit ((members l).render ++ rest) =
      unlessFault ((members l).fault? r.countsEmpty limit) (members l, rest) := by
  cases l with
  | nil =>
    have hread : readValue r (fuel + 1) limit ('\x7b' :: '\x7d' :: rest) =
        if r.countsEmpty && limit == 0 then .error .tooDeep else .ok (members [], rest) := rfl
    refine hread.trans ?_
    cases limit with
    | zero => cases hcount : r.countsEmpty <;> simp [fault?, unlessFault]
    | succ limit => simp [fault?, unlessFault]
  | cons m l =>
    obtain ⟨k, w⟩ := m
    obtain ⟨k, rfl⟩ := exists_text_of_isText (isText_of_membersStorable hstorable)
    obtain ⟨s, hs⟩ := renderMembers_eq_append k w l
    have hopen : (members ((.text k, w) :: l)).render ++ rest = '\x7b' :: '"' ::
        (k.flatMap escapeChar ++ ['"'] ++ ": ".toList ++ w.render ++ s ++ '\x7d' :: rest) := by
      rw [render, hs, quote]
      simp
    rw [hopen, readValue_object]
    cases limit with
    | zero => rfl
    | succ limit =>
      have hne : (JsonString.text k, w) :: l ≠ [] := List.cons_ne_nil _ _
      have hread := hmembers limit [] rest hne hstorable hr hnodup hfuel
      rw [hs, quote, List.cons_append, List.cons_append, List.cons_append, List.cons_append,
        List.cons_append] at hread
      simp only [hread, fault?, membersFault?, List.nil_append]
      cases (w.fault? r.countsEmpty limit).or (membersFault? r.countsEmpty l limit) <;> rfl

theorem ReadsValues.succ (hitems : ReadsItems r fuel) (hmembers : ReadsMembers r fuel) :
    ReadsValues r (fuel + 1) := by
  intro limit v rest hv hr hfuel hrest
  cases v with
  | arr items =>
    rw [render, List.length_append, List.length_cons, List.length_singleton] at hfuel
    exact hitems.readValue_arr hv hr (by omega)
  | members l =>
    rw [render, List.length_append, List.length_cons, List.length_singleton] at hfuel
    obtain ⟨hl, hdistinct⟩ := (Bool.and_eq_true _ _).mp hv
    exact hmembers.readValue_members hl hr (of_decide_eq_true hdistinct) (by omega)
  | _ => exact readValue_scalar rfl hv hr hrest

theorem readItems_fault {s : Text} (hv : readValue r fuel limit s = .error f) :
    readItems r (fuel + 1) limit s = .error f := by
  simp only [readItems, hv]

theorem readItems_last {s rest : Text} {v : Json}
    (hv : readValue r fuel limit s = .ok (v, ']' :: rest)) :
    readItems r (fuel + 1) limit s = .ok ([v], rest) := by
  have hspace : isSpace ']' = false := rfl
  simp only [readItems, hv, skipSpace_cons hspace]

theorem readItems_next {s rest : Text} {v : Json}
    (hv : readValue r fuel limit s = .ok (v, ',' :: ' ' :: rest)) :
    readItems r (fuel + 1) limit s =
      (readItems r fuel limit (skipSpace rest)).map fun p => (v :: p.1, p.2) := by
  have hspace : isSpace ',' = false := rfl
  simp only [readItems, hv, skipSpace_cons hspace, skipSpace_blank]

theorem ReadsItems.succ (hvalues : ReadsValues r fuel) (hitems : ReadsItems r fuel) :
    ReadsItems r (fuel + 1) := by
  intro limit items rest hne hstorable hr hfuel
  cases items with
  | nil => exact absurd rfl hne
  | cons v items =>
    obtain ⟨hv, hrest⟩ := (Bool.and_eq_true _ _).mp hstorable
    obtain ⟨hsuits, hsuits'⟩ := suits_and.mp hr
    rw [itemsFault?]
    cases items with
    | nil =>
      rw [renderItems] at hfuel ⊢
      have hread := hvalues limit (']' :: rest) hv hsuits (by omega) (by simp [Ends])
      rw [itemsFault?, Option.or_none]
      cases hfault : v.fault? r.countsEmpty limit with
      | none => exact readItems_last (hread.trans (by rw [hfault]; rfl))
      | some f => exact readItems_fault (hread.trans (by rw [hfault]; rfl))
    | cons w items =>
      have hsplit : renderItems (v :: w :: items) =
          v.render ++ ',' :: ' ' :: renderItems (w :: items) := by simp [renderItems]
      rw [hsplit, List.length_append, List.length_cons, List.length_cons] at hfuel
      rw [hsplit, List.append_assoc, List.cons_append, List.cons_append]
      obtain ⟨s, hs⟩ := renderItems_eq_append w items
      have hskip : skipSpace (renderItems (w :: items) ++ ']' :: rest) =
          renderItems (w :: items) ++ ']' :: rest := by
        rw [hs, List.append_assoc]
        exact skipSpace_render ((Bool.and_eq_true _ _).mp hrest).1 _
      have hread := hvalues limit (',' :: ' ' :: (renderItems (w :: items) ++ ']' :: rest))
        hv hsuits (by omega) (by simp [Ends])
      cases hfault : v.fault? r.countsEmpty limit with
      | none =>
        have hbehind := hitems limit rest (List.cons_ne_nil w items) hrest hsuits' (by omega)
        rw [readItems_next (hread.trans (by rw [hfault]; rfl)), hskip, hbehind, Option.none_or]
        cases itemsFault? r.countsEmpty (w :: items) limit <;> rfl
      | some f => exact readItems_fault (hread.trans (by rw [hfault]; rfl))

theorem readMembers_fault {read : List (JsonString × Json)} {s t : Text} {k : JsonString}
    (hk : string? r s = some (k, ':' :: ' ' :: t))
    (hv : readValue r fuel limit (skipSpace t) = .error f) :
    readMembers r (fuel + 1) limit read ('"' :: s) = .error f := by
  have hcolon : isSpace ':' = false := rfl
  simp only [readMembers, hk, skipSpace_cons hcolon, skipSpace_blank, hv]

theorem readMembers_last {read : List (JsonString × Json)} {s t rest : Text} {k : JsonString}
    {v : Json} (hk : string? r s = some (k, ':' :: ' ' :: t))
    (hv : readValue r fuel limit (skipSpace t) = .ok (v, '\x7d' :: rest)) :
    readMembers r (fuel + 1) limit read ('"' :: s) = .ok (addMember r k v read, rest) := by
  have hcolon : isSpace ':' = false := rfl
  have hbrace : isSpace '\x7d' = false := rfl
  simp only [readMembers, hk, skipSpace_cons hcolon, skipSpace_blank, hv, skipSpace_cons hbrace]

theorem readMembers_next {read : List (JsonString × Json)} {s t rest : Text} {k : JsonString}
    {v : Json} (hk : string? r s = some (k, ':' :: ' ' :: t))
    (hv : readValue r fuel limit (skipSpace t) = .ok (v, ',' :: ' ' :: rest)) :
    readMembers r (fuel + 1) limit read ('"' :: s) =
      readMembers r fuel limit (addMember r k v read) (skipSpace rest) := by
  have hcolon : isSpace ':' = false := rfl
  have hcomma : isSpace ',' = false := rfl
  simp only [readMembers, hk, skipSpace_cons hcolon, skipSpace_blank, hv, skipSpace_cons hcomma]

theorem notMem_of_nodup {k : JsonString} {read l : List (JsonString × Json)}
    (h : ((read ++ (k, v) :: l).map (·.1)).Nodup) : k ∉ read.map (·.1) := by
  intro hmem
  rw [List.map_append, List.map_cons] at h
  exact List.disjoint_of_nodup_append h hmem List.mem_cons_self

/-- The last member of an object, given how it is read with fewer steps. -/
theorem ReadsValues.readMembers_singleton (hvalues : ReadsValues r fuel)
    {read : List (JsonString × Json)} {k : Text} (hv : v.isStorable = true)
    (hr : Suits r v.isNumberless) (hk : JsonString.text k ∉ read.map (·.1))
    (hfuel : (renderMembers [(.text k, v)]).length < fuel) :
    readMembers r (fuel + 1) limit read (renderMembers [(.text k, v)] ++ '\x7d' :: rest) =
      unlessFault (v.fault? r.countsEmpty limit) (read ++ [(.text k, v)], rest) := by
  have hsplit : renderMembers [(.text k, v)] = quote k ++ ':' :: ' ' :: v.render := by
    simp [renderMembers, quoteString]
  rw [hsplit, List.length_append, List.length_cons, List.length_cons] at hfuel
  obtain ⟨behind, hquote, hname⟩ :=
    string?_quote r k (':' :: ' ' :: (v.render ++ '\x7d' :: rest))
  have hread := hvalues limit ('\x7d' :: rest) hv hr (by omega) (by simp [Ends])
  rw [← skipSpace_render hv] at hread
  rw [hsplit, List.append_assoc, List.cons_append, List.cons_append, hquote]
  cases hfault : v.fault? r.countsEmpty limit with
  | none =>
    rw [readMembers_last hname (hread.trans (by rw [hfault]; rfl)), addMember_of_notMem hk]
    rfl
  | some f => exact readMembers_fault hname (hread.trans (by rw [hfault]; rfl))

/-- A member that another follows, given how both are read with fewer steps. -/
theorem ReadsMembers.readMembers_cons (hvalues : ReadsValues r fuel)
    (hmembers : ReadsMembers r fuel) {read l : List (JsonString × Json)} {k : Text}
    (hv : v.isStorable = true) (hr : Suits r v.isNumberless) (hne : l ≠ [])
    (hl : membersStorable l = true) (hsuits : Suits r (membersNumberless l))
    (hnodup : ((read ++ (.text k, v) :: l).map (·.1)).Nodup)
    (hfuel : (renderMembers ((.text k, v) :: l)).length < fuel) :
    readMembers r (fuel + 1) limit read
        (renderMembers ((.text k, v) :: l) ++ '\x7d' :: rest) =
      unlessFault ((v.fault? r.countsEmpty limit).or (membersFault? r.countsEmpty l limit))
        (read ++ (.text k, v) :: l, rest) := by
  have hk := notMem_of_nodup hnodup
  have hsplit : renderMembers ((.text k, v) :: l) =
      quote k ++ ':' :: ' ' :: (v.render ++ ',' :: ' ' :: renderMembers l) := by
    cases l with
    | nil => exact absurd rfl hne
    | cons m l => simp [renderMembers, quoteString]
  have hskip : skipSpace (renderMembers l ++ '\x7d' :: rest) =
      renderMembers l ++ '\x7d' :: rest := by
    cases l with
    | nil => exact absurd rfl hne
    | cons m l =>
      obtain ⟨k', w⟩ := m
      obtain ⟨k', rfl⟩ := exists_text_of_isText (isText_of_membersStorable hl)
      obtain ⟨s, hs⟩ := renderMembers_eq_append k' w l
      rw [hs, quote]
      exact skipSpace_cons rfl
  rw [hsplit] at hfuel ⊢
  simp only [List.length_append, List.length_cons] at hfuel
  obtain ⟨behind, hquote, hname⟩ := string?_quote r k
    (':' :: ' ' :: (v.render ++ ',' :: ' ' :: (renderMembers l ++ '\x7d' :: rest)))
  have hread := hvalues limit (',' :: ' ' :: (renderMembers l ++ '\x7d' :: rest)) hv hr (by omega)
    (by simp [Ends])
  rw [← skipSpace_render hv] at hread
  simp only [List.append_assoc, List.cons_append] at hquote ⊢
  rw [hquote]
  cases hfault : v.fault? r.countsEmpty limit with
  | none =>
    have hbehind := hmembers limit (read ++ [(.text k, v)]) rest hne hl hsuits
      (by simpa using hnodup) (by omega)
    rw [readMembers_next hname (hread.trans (by rw [hfault]; rfl)), addMember_of_notMem hk, hskip,
      hbehind, List.append_assoc, List.singleton_append, Option.none_or]
  | some f => exact readMembers_fault hname (hread.trans (by rw [hfault]; rfl))

theorem ReadsMembers.succ (hvalues : ReadsValues r fuel) (hmembers : ReadsMembers r fuel) :
    ReadsMembers r (fuel + 1) := by
  intro limit read l rest hne hstorable hr hnodup hfuel
  cases l with
  | nil => exact absurd rfl hne
  | cons m l =>
    obtain ⟨k, v⟩ := m
    obtain ⟨k, rfl⟩ := exists_text_of_isText (isText_of_membersStorable hstorable)
    simp only [membersStorable, Bool.and_eq_true] at hstorable
    obtain ⟨⟨-, hv⟩, hl⟩ := hstorable
    obtain ⟨hsuits, hsuits'⟩ := suits_and.mp hr
    rw [membersFault?]
    by_cases hlast : l = []
    · subst hlast
      rw [membersFault?, Option.or_none]
      exact hvalues.readMembers_singleton hv hsuits (notMem_of_nodup hnodup) (by omega)
    · exact hmembers.readMembers_cons hvalues hv hsuits hlast hl hsuits' hnodup (by omega)

/-- With any number of steps, what is written in fewer characters is read. -/
theorem reads_render (r : Reading) (fuel : Nat) :
    ReadsValues r fuel ∧ ReadsItems r fuel ∧ ReadsMembers r fuel := by
  induction fuel with
  | zero =>
    refine ⟨?_, ?_, ?_⟩
    · intro limit v rest _ _ hfuel
      exact absurd hfuel (Nat.not_lt_zero _)
    · intro limit items rest _ _ _ hfuel
      exact absurd hfuel (Nat.not_lt_zero _)
    · intro limit read l rest _ _ _ _ hfuel
      exact absurd hfuel (Nat.not_lt_zero _)
  | succ fuel ih =>
    -- a step is spent on each value, item and member, and the rest is shorter
    obtain ⟨hvalues, hitems, hmembers⟩ := ih
    exact ⟨ReadsValues.succ hitems hmembers, ReadsItems.succ hvalues hitems,
      ReadsMembers.succ hvalues hmembers⟩

/-- **The line of a storable value is read as that value**, or refused for its first fault, whatever
white space stands in front. -/
theorem parse_append_render (hv : v.isStorable = true) (hr : Suits r v.isNumberless) {front : Text}
    (hfront : ∀ c ∈ front, isSpace c = true) :
    parse r (front ++ v.render) = unlessFault (v.fault? r.countsEmpty r.maxDepth) v := by
  obtain ⟨hvalues, -, -⟩ := reads_render r (2 * (front ++ v.render).length + 1)
  have hfuel : v.render.length < 2 * (front ++ v.render).length + 1 := by
    rw [List.length_append]
    omega
  have hread := hvalues r.maxDepth [] hv hr hfuel ends_nil
  have hskip : skipSpace (front ++ v.render) = v.render := by
    have hrender := skipSpace_render hv []
    rw [List.append_nil] at hrender
    rw [skipSpace, List.dropWhile_append_of_pos hfront]
    exact hrender
  rw [List.append_nil] at hread
  rw [parse, hskip, hread]
  cases v.fault? r.countsEmpty r.maxDepth <;> rfl

theorem parse_render (hv : v.isStorable = true) (hr : Suits r v.isNumberless) :
    parse r v.render = unlessFault (v.fault? r.countsEmpty r.maxDepth) v :=
  parse_append_render hv hr (List.forall_mem_nil _)

/-! ## What lines are made of -/

theorem isPlain_of_allDigits {s : Text} (hs : AllDigits s) : ∀ c ∈ s, isPlain c = true := by
  intro c hc
  obtain ⟨hlow, hhigh⟩ := (Bool.and_eq_true _ _).mp (hs c hc)
  have hlow' : '0'.toNat ≤ c.toNat := of_decide_eq_true hlow
  have hhigh' : c.toNat ≤ '9'.toNat := of_decide_eq_true hhigh
  have hzero : '0'.toNat = 48 := rfl
  have hnine : '9'.toNat = 57 := rfl
  rw [isPlain, Bool.and_eq_true, decide_eq_true_eq, decide_eq_true_eq]
  omega

theorem isPlain_toText {d : Digits} (hd : AllDigits d.digits) :
    ∀ c ∈ d.toText recordLayout, isPlain c = true := by
  have hdigits := isPlain_of_allDigits hd
  have hzeros : ∀ n, ∀ c ∈ List.replicate n '0', isPlain c = true := by
    intro n c hc
    rw [List.eq_of_mem_replicate hc]
    decide
  have hfraction : ∀ mark n, ∀ c ∈ fraction mark (d.digits.drop n), isPlain c = true := by
    intro mark n
    rw [fraction]
    split
    · split
      · exact isPlain_of_all rfl
      · simp
    · rw [List.forall_mem_cons]
      exact ⟨by decide, fun c hc => hdigits c (List.mem_of_mem_drop hc)⟩
  have hexponent : ∀ c ∈ exponentText d.exponent, isPlain c = true := by
    rw [exponentText, List.forall_mem_cons, List.forall_mem_cons]
    refine ⟨by decide, ?_, isPlain_of_allDigits (allDigits_padZeros (allDigits_ofNat _) 2)⟩
    split <;> decide
  have htake : ∀ n, ∀ c ∈ d.digits.take n, isPlain c = true :=
    fun n c hc => hdigits c (List.mem_of_mem_take hc)
  rw [Digits.toText]
  split
  · split
    · simp only [List.forall_mem_append]
      exact ⟨⟨isPlain_of_all rfl, hzeros _⟩, hdigits⟩
    · simp only [List.forall_mem_append]
      exact ⟨⟨htake _, hzeros _⟩, hfraction _ _⟩
  · simp only [List.forall_mem_append]
    exact ⟨⟨htake _, hfraction _ _⟩, hexponent⟩

theorem isPlain_ofInt (i : Int) : ∀ c ∈ Text.ofInt i, isPlain c = true := by
  cases i with
  | ofNat n => exact isPlain_of_allDigits (allDigits_ofNat n)
  | negSucc n =>
    rw [Text.ofInt, List.forall_mem_cons]
    exact ⟨by decide, isPlain_of_allDigits (allDigits_ofNat (n + 1))⟩

theorem isPlain_float (x : Binary64) : ∀ c ∈ x.toText, isPlain c = true := by
  have hsign : ∀ negative, ∀ c ∈ Binary64.signText negative, isPlain c = true := by
    intro negative
    cases negative <;> exact isPlain_of_all rfl
  cases x with
  | infinite negative =>
    rw [Binary64.toText, List.forall_mem_append]
    exact ⟨hsign negative, isPlain_of_all rfl⟩
  | nan => exact isPlain_of_all rfl
  | finite negative m e =>
    rw [Binary64.toText, List.forall_mem_append]
    exact ⟨hsign negative, isPlain_toText (allDigits_shortest m e)⟩

mutual

/-- The line of a value is printable ASCII. -/
theorem isPlain_render (v : Json) : ∀ c ∈ v.render, isPlain c = true := by
  cases v with
  | null => exact isPlain_of_all rfl
  | bool b => cases b <;> exact isPlain_of_all rfl
  | int i => exact isPlain_ofInt i
  | float x => exact isPlain_float x
  | string s => exact isPlain_quoteString s
  | arr items =>
    simp only [render, List.forall_mem_append, List.forall_mem_cons]
    exact ⟨⟨by decide, isPlain_renderItems items⟩, by decide, by simp⟩
  | members l =>
    simp only [render, List.forall_mem_append, List.forall_mem_cons]
    exact ⟨⟨by decide, isPlain_renderMembers l⟩, by decide, by simp⟩

theorem isPlain_renderItems (items : List Json) : ∀ c ∈ renderItems items, isPlain c = true := by
  cases items with
  | nil => simp [renderItems]
  | cons v items =>
    have hplain := isPlain_render v
    have hbehind := isPlain_renderItems items
    cases items with
    | nil => exact hplain
    | cons w items =>
      simp only [renderItems, List.forall_mem_append]
      exact ⟨⟨hplain, isPlain_of_all rfl⟩, hbehind⟩

theorem isPlain_renderMembers (l : List (JsonString × Json)) :
    ∀ c ∈ renderMembers l, isPlain c = true := by
  cases l with
  | nil => simp [renderMembers]
  | cons m l =>
    obtain ⟨k, v⟩ := m
    have hname := isPlain_quoteString k
    have hplain := isPlain_render v
    have hbehind := isPlain_renderMembers l
    cases l with
    | nil =>
      simp only [renderMembers, List.forall_mem_append]
      exact ⟨⟨hname, isPlain_of_all rfl⟩, hplain⟩
    | cons n l =>
      simp only [renderMembers, List.forall_mem_append]
      exact ⟨⟨⟨⟨hname, isPlain_of_all rfl⟩, hplain⟩, isPlain_of_all rfl⟩, hbehind⟩

end

mutual

/-- A value is never malformed: its number is too long, or it is too deep. -/
theorem fault?_ne_malformed (countsEmpty : Bool) (v : Json) (n : Nat) :
    v.fault? countsEmpty n ≠ some .malformed := by
  cases v with
  | null | bool _ | float _ | string _ => exact nofun
  | int i =>
    simp only [fault?, numberFault?]
    split <;> simp
  | arr items =>
    cases items with
    | nil => cases n <;> cases countsEmpty <;> simp [fault?]
    | cons w items =>
      cases n with
      | zero => simp [fault?]
      | succ n =>
        rw [fault?, Ne, Option.or_eq_some_iff, not_or, not_and]
        exact ⟨fault?_ne_malformed countsEmpty w n,
          fun _ => itemsFault?_ne_malformed countsEmpty items n⟩
  | members l =>
    cases l with
    | nil => cases n <;> cases countsEmpty <;> simp [fault?]
    | cons m l =>
      obtain ⟨k, w⟩ := m
      cases n with
      | zero => simp [fault?]
      | succ n =>
        rw [fault?, Ne, Option.or_eq_some_iff, not_or, not_and]
        exact ⟨fault?_ne_malformed countsEmpty w n,
          fun _ => membersFault?_ne_malformed countsEmpty l n⟩

theorem itemsFault?_ne_malformed (countsEmpty : Bool) (items : List Json) (n : Nat) :
    itemsFault? countsEmpty items n ≠ some .malformed := by
  cases items with
  | nil => exact nofun
  | cons w items =>
    rw [itemsFault?, Ne, Option.or_eq_some_iff, not_or, not_and]
    exact ⟨fault?_ne_malformed countsEmpty w n,
      fun _ => itemsFault?_ne_malformed countsEmpty items n⟩

theorem membersFault?_ne_malformed (countsEmpty : Bool) (l : List (JsonString × Json)) (n : Nat) :
    membersFault? countsEmpty l n ≠ some .malformed := by
  cases l with
  | nil => exact nofun
  | cons m l =>
    obtain ⟨k, w⟩ := m
    rw [membersFault?, Ne, Option.or_eq_some_iff, not_or, not_and]
    exact ⟨fault?_ne_malformed countsEmpty w n,
      fun _ => membersFault?_ne_malformed countsEmpty l n⟩

end

/-- What is written of a value is read from its bytes. -/
theorem ofUtf8?_render (v : Json) : ofUtf8? (toUtf8 v.render) = some v.render := by
  refine ofUtf8?_toUtf8 fun c hc => ?_
  have hplain := isPlain_render v c hc
  simp only [isPlain, Bool.and_eq_true, decide_eq_true_eq] at hplain
  omega

end QueryGate.Json
