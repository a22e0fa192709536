import QueryGate.Proofs.Text.Words
import QueryGate.Sanitizer
import QueryGate.Source.Query

/-! # Reading a query of some columns

The tokens of a text are read one after another, so what a text begins with decides the first of
them, whatever follows (`Begins`).  With words, marks and names in back quotes one by one, a list of
columns in back quotes is read as the names of these columns (`readItems_names`). -/

namespace QueryGate.Source

open Text Sanitizer

namespace Token

/-! ## Tokens one by one -/

/-- The tokens of a text begin with some tokens, and go on with those of the rest. -/
def Begins (s : Text) (l : List Token) (rest : Text) : Prop :=
  ∀ fuel, s.length < fuel → ∃ more, rest.length < more ∧ allFrom fuel s = l ++ allFrom more rest

theorem Begins.trans {s rest rest' : Text} {l l' : List Token} (h : Begins s l rest)
    (h' : Begins rest l' rest') : Begins s (l ++ l') rest' := by
  intro fuel hfuel
  obtain ⟨more, hmore, hl⟩ := h fuel hfuel
  obtain ⟨more', hmore', hl'⟩ := h' more hmore
  exact ⟨more', hmore', by rw [hl, hl', List.append_assoc]⟩

/-- A character that neither stands in a gap nor begins a comment. -/
def EndsGap (c : Char) : Prop := isGapChar c = false ∧ c ≠ '-' ∧ c ≠ '/'

instance (c : Char) : Decidable (EndsGap c) := inferInstanceAs (Decidable (_ ∧ _))

/-- The gap between two tokens: one space or nothing. -/
def IsGap (gap : Text) : Prop := gap = [] ∨ gap = [' ']

theorem gapLength_of_endsGap {c : Char} (hc : EndsGap c) (fuel : Nat) (s : Text) :
    gapLength fuel (c :: s) = 0 := by
  obtain ⟨hgap, hminus, hslash⟩ := hc
  cases fuel with
  | zero => rfl
  | succ fuel =>
    unfold gapLength
    split
    · exact absurd (List.cons.inj ‹_›).1 hminus
    · exact absurd (List.cons.inj ‹_›).1 hslash
    · obtain ⟨rfl, rfl⟩ := List.cons.inj ‹_›
      rw [hgap, if_neg Bool.false_ne_true]
    · rfl

theorem gapLength_append {gap : Text} (hgap : IsGap gap) {c : Char} (hc : EndsGap c) {fuel : Nat}
    (hfuel : gap.length ≤ fuel) (s : Text) : gapLength fuel (gap ++ c :: s) = gap.length := by
  rcases hgap with rfl | rfl
  · exact gapLength_of_endsGap hc fuel s
  · cases fuel with
    | zero => exact absurd hfuel (Nat.not_succ_le_zero 0)
    | succ fuel =>
      have hspace : gapLength (fuel + 1) (' ' :: c :: s) = 1 + gapLength fuel (c :: s) := rfl
      exact hspace.trans (by rw [gapLength_of_endsGap hc]; rfl)

/-- A token with its gap is read off the start of a text. -/
theorem begins_token {gap w rest : Text} {c : Char} {kind : TokenKind} (hgap : IsGap gap)
    (hc : EndsGap c) (hfirst : first (c :: w ++ rest) = (kind, w.length + 1))
    (hkind : kind ≠ .ending) :
    Begins (gap ++ (c :: w ++ rest)) [⟨gap, c :: w, kind⟩] rest := by
  intro fuel hfuel
  cases fuel with
  | zero => exact absurd hfuel (Nat.not_lt_zero _)
  | succ fuel =>
    simp only [List.length_append, List.length_cons] at hfuel
    refine ⟨fuel, by omega, ?_⟩
    · have hlength : gapLength fuel (gap ++ (c :: w ++ rest)) = gap.length :=
        gapLength_append hgap hc (by omega) _
      rw [allFrom, hlength, List.take_left, List.drop_left, hfirst]
      simp [hkind]

/-- A text at its end. -/
theorem allFrom_nil (fuel : Nat) : allFrom (fuel + 1) [] = [⟨[], [], .ending⟩] := by
  cases fuel <;> rfl

/-! ## Words, names and marks -/

/-- The characters of words are those that words are made of elsewhere. -/
theorem isWordChar_of_isWord {c : Char} (hc : Text.isWord c = true) :
    (beginsWord c = true ∨ isAsciiDigit c = true) ∧ EndsGap c := by
  cases hascii : isAscii c with
  | true =>
    exact of_isAscii (P := fun c => Text.isWord c = true →
      (beginsWord c = true ∨ isAsciiDigit c = true) ∧ EndsGap c) (by decide) hascii hc
  | false =>
    have hne : ∀ d : Char, isAscii d = true → c ≠ d := by
      rintro d hd rfl
      rw [hascii] at hd
      cases hd
    have hfeed : c.toNat ≠ 0x0C := fun h => hne (Char.ofNat 0x0C) (by decide) (eq_of_toNat_eq h)
    have hmark : c.toNat ≠ 0xFEFF := by
      intro h
      rw [eq_of_toNat_eq h] at hc
      exact absurd hc (by decide +kernel)
    have hgap : isGapChar c = false := by
      simp [isGapChar, hne ' ' (by decide), hne '\t' (by decide), hne '\n' (by decide),
        hne '\r' (by decide), hfeed, hmark]
    exact ⟨.inl (by simp [beginsWord, hascii]), hgap, hne '-' (by decide), hne '/' (by decide)⟩

theorem notDigit_of_beginsWord {c : Char} (hc : beginsWord c = true) : isAsciiDigit c = false := by
  cases hascii : isAscii c with
  | true =>
    exact of_isAscii (P := fun c => beginsWord c = true → isAsciiDigit c = false) (by decide)
      hascii hc
  | false =>
    rw [isAscii, decide_eq_false_iff_not] at hascii
    rw [isAsciiDigit, Bool.eq_false_iff, ne_eq, Bool.and_eq_true, decide_eq_true_eq,
      decide_eq_true_eq]
    rintro ⟨-, hhigh⟩
    have hnine : c.toNat ≤ 57 := hhigh
    omega

/-- A word is a token if no more of it follows. -/
theorem first_word {c : Char} {w rest : Text} (hc : beginsWord c = true)
    (hw : ∀ x ∈ w, isWordChar x = true) (hrest : rest.head?.any isWordChar = false) :
    first (c :: w ++ rest) = (.word, w.length + 1) := by
  have hne : ∀ d : Char, beginsWord d = false → c ≠ d := by
    rintro d hd rfl
    rw [hc] at hd
    cases hd
  have htake : (c :: (w ++ rest)).takeWhile isWordChar = c :: w := by
    have hchar : isWordChar c = true := by simp [isWordChar, hc]
    rw [List.takeWhile_cons_of_pos hchar, List.takeWhile_append_of_pos hw]
    cases rest with
    | nil => simp
    | cons d rest =>
      have hd : isWordChar d = false := by simpa using hrest
      simp [hd]
  rw [List.cons_append]
  unfold first
  split
  · cases ‹_ :: _ = []›
  · exact absurd (List.cons.inj ‹_›).1 (hne _ (by decide))
  · exact absurd (List.cons.inj ‹_›).1 (hne _ (by decide))
  · exact absurd (List.cons.inj ‹_›).1 (hne _ (by decide))
  · exact absurd (List.cons.inj ‹_›).1 (hne _ (by decide))
  · obtain ⟨rfl, rfl⟩ := List.cons.inj ‹_›
    have hdot : (c == '.') = false := by simpa using hne '.' (by decide)
    rw [notDigit_of_beginsWord hc, hdot, hc, htake]
    rfl

/-- A text that begins with a digit begins with no word. -/
theorem first_digit {c : Char} {s : Text} (hc : isAsciiDigit c = true) :
    (first (c :: s)).1 = .number ∨ (first (c :: s)).1 = .illegal := by
  have hnumber : first (c :: s) = numberToken (c :: s) := by
    unfold first
    split
    · cases ‹_ :: _ = []›
    · obtain ⟨rfl, -⟩ := List.cons.inj ‹_›
      cases hc
    · obtain ⟨rfl, -⟩ := List.cons.inj ‹_›
      cases hc
    · obtain ⟨rfl, -⟩ := List.cons.inj ‹_›
      cases hc
    · obtain ⟨rfl, -⟩ := List.cons.inj ‹_›
      cases hc
    · obtain ⟨rfl, rfl⟩ := List.cons.inj ‹_›
      rw [hc, Bool.true_or, if_pos rfl]
  have hkind : ∀ n : Nat, (if n = 0 then TokenKind.number else .illegal) = .number ∨
      (if n = 0 then TokenKind.number else .illegal) = .illegal := by
    intro n
    split
    · exact .inl rfl
    · exact .inr rfl
  rw [hnumber]
  exact hkind _

theorem quoted?_append {quote : Char} {a : Text} (ha : quote ∉ a) {rest : Text}
    (hrest : rest.head? ≠ some quote) :
    quoted? quote (a ++ quote :: rest) = some (a, a.length + 1) := by
  induction a with
  | nil =>
    cases rest with
    | nil => simp [quoted?]
    | cons d rest =>
      have hd : d ≠ quote := by simpa using hrest
      simp [quoted?, hd]
  | cons c a ih =>
    rw [List.mem_cons, not_or] at ha
    obtain ⟨hc, ha⟩ := ha
    rw [List.cons_append, quoted?.eq_def]
    simp only [if_neg (Ne.symm hc), ih ha, Option.map_some, List.length_cons]

/-- A name in back quotes is a token. -/
theorem first_backQuoted {a rest : Text} (ha : '`' ∉ a) (hrest : rest.head? ≠ some '`') :
    first (backQuoted a ++ rest) = (.name a, a.length + 2) := by
  have htext : backQuoted a ++ rest = '`' :: (a ++ '`' :: rest) := by simp [backQuoted]
  have hquote : ∀ s, first ('`' :: s) = quotedToken '`' .name ('`' :: s) := fun _ => rfl
  rw [htext, hquote, quotedToken, List.drop_succ_cons, List.drop_zero, quoted?_append ha hrest]

theorem first_comma (rest : Text) : first (',' :: rest) = (.mark, 1) := rfl

theorem first_asterisk (rest : Text) : first ('*' :: rest) = (.mark, 1) := rfl

/-! ## A query of one table -/

/-- A name in back quotes behind a space. -/
def named (a : Text) : Token := ⟨[' '], backQuoted a, .name a⟩

/-- A comma directly behind a token. -/
def comma : Token := ⟨[], [','], .mark⟩

/-- An asterisk behind a space. -/
def asterisk : Token := ⟨[' '], ['*'], .mark⟩

/-- The word in front of the items of a query. -/
def select : Token := ⟨[], "SELECT".toList, .word⟩

/-- The word in front of the table of a query. -/
def from_ : Token := ⟨[' '], "FROM".toList, .word⟩

/-- The end of a text. -/
def ending_ : Token := ⟨[], [], .ending⟩

/-- Names with commas between them. -/
def listOf : List Text → List Token
  | [] => []
  | [a] => [named a]
  | a :: b :: l => named a :: comma :: listOf (b :: l)

theorem begins_named {a rest : Text} (ha : '`' ∉ a) (hrest : rest.head? ≠ some '`') :
    Begins (' ' :: (backQuoted a ++ rest)) [named a] rest := by
  have hfirst := first_backQuoted ha hrest
  have hlength : (a ++ ['`']).length + 1 = a.length + 2 := by simp
  rw [← hlength] at hfirst
  exact begins_token (.inr rfl) (by decide) hfirst nofun

theorem begins_comma (rest : Text) : Begins (',' :: rest) [comma] rest :=
  begins_token (w := []) (.inl rfl) (by decide) (first_comma rest) nofun

theorem begins_asterisk (rest : Text) : Begins (' ' :: ('*' :: rest)) [asterisk] rest :=
  begins_token (w := []) (.inr rfl) (by decide) (first_asterisk rest) nofun

/-- A list of columns in back quotes. -/
theorem begins_listOf {names : List Text} (hne : names ≠ []) (hnames : ∀ a ∈ names, '`' ∉ a)
    {rest : Text} (hrest : rest.head? ≠ some '`') :
    Begins (' ' :: (join ", ".toList (names.map backQuoted) ++ rest)) (listOf names) rest := by
  induction names with
  | nil => exact absurd rfl hne
  | cons a names ih =>
    obtain ⟨ha, hnames⟩ := List.forall_mem_cons.mp hnames
    cases names with
    | nil => exact begins_named ha hrest
    | cons b names =>
      have htext : ' ' :: (join ", ".toList ((a :: b :: names).map backQuoted) ++ rest) =
          ' ' :: (backQuoted a ++
            ',' :: (' ' :: (join ", ".toList ((b :: names).map backQuoted) ++ rest))) := by
        simp [join]
      rw [htext]
      exact (begins_named ha (by simp)).trans ((begins_comma _).trans (ih (by simp) hnames))

/-- A query of all rows of one table. -/
def selectFrom (projection table : Text) : Text :=
  "SELECT".toList ++ (' ' :: (projection ++ (" FROM".toList ++ ' ' :: table)))

/-- The tokens of a table name at the end of a text: one word, or at first no word at all. -/
inductive AtEnd (table : Text) : List Token → Prop
  | word : AtEnd table [⟨[' '], table, .word⟩, ending_]
  | noWord {u : Token} (hu : u.kind = .number ∨ u.kind = .illegal) (l : List Token) :
      AtEnd table (u :: l)

theorem atEnd_allFrom {table : Text} (hne : table ≠ []) (hword : AllWord table) {fuel : Nat}
    (hfuel : (' ' :: table).length < fuel) : AtEnd table (allFrom fuel (' ' :: table)) := by
  cases table with
  | nil => exact absurd rfl hne
  | cons c w =>
    obtain ⟨hc, hw⟩ := List.forall_mem_cons.mp hword
    obtain ⟨hbegins, hgap⟩ := isWordChar_of_isWord hc
    rcases hbegins with hbegins | hdigit
    · have hchars : ∀ x ∈ w, isWordChar x = true := by
        intro x hx
        rcases (isWordChar_of_isWord (hw x hx)).1 with h | h <;> simp [isWordChar, h]
      have hfirst : first (c :: w ++ []) = (.word, w.length + 1) := first_word hbegins hchars rfl
      have htoken : Begins ([' '] ++ (c :: w ++ [])) [⟨[' '], c :: w, .word⟩] [] :=
        begins_token (.inr rfl) hgap hfirst nofun
      rw [List.append_nil] at htoken
      obtain ⟨more, hmore, htokens⟩ := htoken fuel hfuel
      obtain ⟨more, rfl⟩ := Nat.exists_eq_succ_of_ne_zero (Nat.ne_of_gt hmore)
      rw [allFrom_nil] at htokens
      rw [List.singleton_append] at htokens
      exact htokens ▸ .word
    · cases fuel with
      | zero => exact absurd hfuel (Nat.not_lt_zero _)
      | succ fuel =>
        have hone : 1 ≤ fuel := by
          rw [List.length_cons, List.length_cons] at hfuel
          omega
        have hlength : gapLength fuel (' ' :: c :: w) = 1 :=
          @gapLength_append [' '] (.inr rfl) c hgap fuel hone w
        rw [allFrom, hlength]
        exact .noWord (first_digit hdigit) _

theorem all_selectFrom {projection table : Text} {l : List Token}
    (hl : ∀ rest : Text, Begins (' ' :: (projection ++ ' ' :: rest)) l (' ' :: rest))
    (hne : table ≠ []) (hword : AllWord table) :
    ∃ behind, AtEnd table behind ∧
      all (selectFrom projection table) = select :: (l ++ from_ :: behind) := by
  have hselect : Begins (selectFrom projection table) [select]
      (' ' :: (projection ++ (" FROM".toList ++ ' ' :: table))) :=
    begins_token (w := "ELECT".toList) (.inl rfl) (by decide)
      (first_word (by decide) (forall_mem_of_all (by decide)) rfl) nofun
  have hfrom : Begins (' ' :: ("FROM".toList ++ ' ' :: table)) [from_] (' ' :: table) :=
    begins_token (w := "ROM".toList) (.inr rfl) (by decide)
      (first_word (by decide) (forall_mem_of_all (by decide)) rfl) nofun
  obtain ⟨fuel, hfuel, hall⟩ := (hselect.trans ((hl _).trans hfrom)) _ (Nat.lt_succ_self _)
  refine ⟨_, atEnd_allFrom hne hword hfuel, hall.trans ?_⟩
  simp

end Token

/-! ## Reading the tokens -/

open Token

/-- A column as an item of a query. -/
def columnItem (a : Text) : QueryItem := ⟨.value (.column ⟨[], a, .quoted⟩), backQuoted a, none⟩

/-- Every column as an item of a query. -/
def everyItem : QueryItem := ⟨.everything none, ['*'], none⟩

/-- The tokens that stand behind an item. -/
def EndsItem (t : Token) : Prop := t = comma ∨ t = from_

theorem readItem_named (a : Text) {t : Token} (ht : EndsItem t) (l : List Token) :
    readItem (named a :: t :: l) = .ok (columnItem a, t :: l) := by
  have hshown : readShown (named a :: t :: l) = .ok (.value (.column ⟨[], a, .quoted⟩), t :: l) := by
    rcases ht with rfl | rfl <;> cases l <;> rfl
  have hread : (named a :: t :: l).take ((named a :: t :: l).length - (t :: l).length) =
      [named a] := by
    simp
  have hsource : dropEndWhile isAsciiBlank (written [named a] ++ t.gap) = backQuoted a := by
    have hquote : isAsciiBlank '`' = false := by decide
    have hspace : isAsciiBlank ' ' = true := by decide
    rcases ht with rfl | rfl <;>
      simp [written, named, comma, from_, backQuoted, dropEndWhile, hquote, hspace]
  have halias : readAlias (joinWords ++ ["INDEXED"]) (t :: l) = .ok (none, t :: l) := by
    rcases ht with rfl | rfl <;> rfl
  rw [readItem, hshown]
  simp only [bind, Except.bind, halias, hread, List.head?_cons, Option.map_some, Option.getD_some,
    hsource]
  rfl

theorem readItem_asterisk (l : List Token) :
    readItem (asterisk :: from_ :: l) = .ok (everyItem, from_ :: l) := by
  have hshown : readShown (asterisk :: from_ :: l) = .ok (.everything none, from_ :: l) := by
    cases l <;> rfl
  have hread : (asterisk :: from_ :: l).take ((asterisk :: from_ :: l).length -
      (from_ :: l).length) = [asterisk] := by
    simp
  rw [readItem, hshown]
  simp only [bind, Except.bind, hread]
  rfl

theorem readItems_asterisk (l : List Token) {fuel : Nat} (hfuel : 0 < fuel) :
    readItems fuel (asterisk :: from_ :: l) = .ok ([everyItem], from_ :: l) := by
  obtain ⟨fuel, rfl⟩ := Nat.exists_eq_succ_of_ne_zero (Nat.ne_of_gt hfuel)
  rw [readItems, readItem_asterisk]
  rfl

theorem readItems_listOf {names : List Text} (hne : names ≠ []) (l : List Token) {fuel : Nat}
    (hfuel : names.length ≤ fuel) :
    readItems fuel (listOf names ++ from_ :: l) = .ok (names.map columnItem, from_ :: l) := by
  induction names generalizing fuel with
  | nil => exact absurd rfl hne
  | cons a names ih =>
    have hpos : 0 < fuel := Nat.lt_of_lt_of_le (Nat.succ_pos _) hfuel
    obtain ⟨fuel, rfl⟩ := Nat.exists_eq_succ_of_ne_zero (Nat.ne_of_gt hpos)
    cases names with
    | nil =>
      have hitem := readItem_named a (.inr rfl) l
      rw [listOf, List.singleton_append, readItems, hitem]
      rfl
    | cons b names =>
      have hmore := ih (by simp) (Nat.le_of_succ_le_succ hfuel)
      have hitem := readItem_named a (.inl rfl) (listOf (b :: names) ++ from_ :: l)
      have hcomma : startsWith "," (comma :: (listOf (b :: names) ++ from_ :: l)) = true := rfl
      rw [listOf, List.cons_append, List.cons_append, readItems, hitem]
      simp only [bind, Except.bind, hcomma, if_true, List.drop_succ_cons, List.drop_zero, hmore]
      rfl

/-- The query of some items for one table. -/
def queryOf (items : List QueryItem) (table : Text) : Query :=
  ⟨false, items, some ⟨none, table, none⟩, none, none, none⟩

theorem isWord_of_kind {t : Token} (ht : t.kind ≠ .word) (w : String) : t.isWord w = false := by
  simp [Token.isWord, ht]

/-- A word at the end of a statement is the name of its table, unless it is never a name. -/
theorem readTable_atEnd {table : Text} {l : List Token} (hl : AtEnd table l) :
    readTable l = .ok (⟨none, table, none⟩, [ending_]) ∨ ∃ e, readTable l = .error e := by
  cases hl with
  | word =>
    by_cases hname : (⟨[' '], table, .word⟩ : Token).isOneOf (reserved ++ notNames) = true
    · have hnone : nameOf? ⟨[' '], table, .word⟩ = none := by simp only [nameOf?, hname, if_true]
      exact .inr ⟨_, by simp only [readTable, readName, hnone]; rfl⟩
    · have hsome : nameOf? ⟨[' '], table, .word⟩ = some table := by
        simp only [nameOf?, if_neg hname]
      exact .inl (by simp only [readTable, readName, hsome]; rfl)
  | @noWord u hu l =>
    have hnone : nameOf? u = none := by rcases hu with hu | hu <;> simp only [nameOf?, hu]
    exact .inr ⟨_, by simp only [readTable, readName, hnone]; rfl⟩

/-- What is read behind the items of a query: a table at the end of the statement, or nothing. -/
theorem readQuery_table {u : Token} {l behind : List Token} {items : List QueryItem} {table : Text}
    (hu : u.kind ≠ .word)
    (hitems : readItems (u :: l ++ from_ :: behind).length (u :: l ++ from_ :: behind) =
      .ok (items, from_ :: behind))
    (hbehind : AtEnd table behind) :
    readQuery (u :: l ++ from_ :: behind) = .ok (queryOf items table, [ending_]) ∨
      ∃ e, readQuery (u :: l ++ from_ :: behind) = .error e := by
  have hword : ∀ w, u.isWord w = false := isWord_of_kind hu
  have hparen : startsWith "(" behind = false := by
    cases hbehind with
    | word => rfl
    | noWord hu => rcases hu with hu | hu <;> simp [startsWith, isMark, hu]
  have hfrom : from_.isWord "FROM" = true := by decide
  rw [List.cons_append] at hitems ⊢
  simp only [readQuery, List.head?_cons, Option.any_some, isOneOf, List.any_cons, hword,
    List.any_nil, Bool.or_self, Bool.false_eq_true, if_false, bind, Except.bind, hitems, hfrom,
    hparen, Bool.not_true]
  rcases readTable_atEnd hbehind with htable | ⟨e, htable⟩
  · exact .inl (by rw [htable]; rfl)
  · exact .inr ⟨e, by rw [htable]⟩

theorem readCommand_selectFrom {projection table : Text} {u : Token} {l : List Token}
    {items : List QueryItem} (hu : u.kind ≠ .word)
    (hl : ∀ rest : Text, Begins (' ' :: (projection ++ ' ' :: rest)) (u :: l) (' ' :: rest))
    (hitems : ∀ behind, readItems (u :: l ++ from_ :: behind).length (u :: l ++ from_ :: behind) =
      .ok (items, from_ :: behind))
    (hne : table ≠ []) (hword : AllWord table) :
    readCommand (selectFrom projection table) = .ok (.query (queryOf items table), false) ∨
      ∃ e, readCommand (selectFrom projection table) = .error e := by
  obtain ⟨behind, hbehind, hall⟩ := all_selectFrom hl hne hword
  have htokens : (all (selectFrom projection table)).dropWhile (·.isMark ";") =
      select :: (u :: l ++ from_ :: behind) := by
    rw [hall]
    rfl
  have hselect : select.isWord "SELECT" = true := by decide
  have hkind : select.kind ≠ .ending := by decide
  simp only [readCommand, htokens, if_neg hkind, hselect, if_true]
  rcases readQuery_table hu (hitems behind) hbehind with hquery | ⟨e, hquery⟩
  · exact .inl (by rw [hquery]; rfl)
  · exact .inr ⟨e, by rw [hquery]; rfl⟩

/-- A query of every column. -/
theorem readCommand_whole {table : Text} (hne : table ≠ []) (hword : AllWord table) :
    readCommand (selectFrom ['*'] table) = .ok (.query (queryOf [everyItem] table), false) ∨
      ∃ e, readCommand (selectFrom ['*'] table) = .error e := by
  have hkind : asterisk.kind ≠ .word := by decide
  have htokens : ∀ rest : Text,
      Begins (' ' :: (['*'] ++ ' ' :: rest)) (asterisk :: []) (' ' :: rest) :=
    fun _ => begins_asterisk _
  exact readCommand_selectFrom hkind htokens
    (fun behind => readItems_asterisk behind (Nat.succ_pos _)) hne hword

theorem length_listOf (names : List Text) : names.length ≤ (listOf names).length := by
  induction names with
  | nil => exact Nat.le_refl 0
  | cons a names ih =>
    cases names with
    | nil => exact Nat.le_refl 1
    | cons b names =>
      rw [listOf, List.length_cons, List.length_cons, List.length_cons]
      exact Nat.succ_le_succ (Nat.le_succ_of_le ih)

/-- A query of some columns in back quotes. -/
theorem readCommand_named {names : List Text} (hnil : names ≠ []) (hnames : ∀ a ∈ names, '`' ∉ a)
    {table : Text} (hne : table ≠ []) (hword : AllWord table) :
    readCommand (selectFrom (join ", ".toList (names.map backQuoted)) table) =
        .ok (.query (queryOf (names.map columnItem) table), false) ∨
      ∃ e, readCommand (selectFrom (join ", ".toList (names.map backQuoted)) table) = .error e := by
  have htokens : ∀ rest : Text, Begins (' ' :: (join ", ".toList (names.map backQuoted) ++
      ' ' :: rest)) (listOf names) (' ' :: rest) :=
    fun rest => begins_listOf hnil hnames (by simp)
  have hfirst : ∃ u l, listOf names = u :: l ∧ u.kind ≠ .word := by
    obtain ⟨a, more, rfl⟩ := List.exists_cons_of_ne_nil hnil
    cases more with
    | nil => exact ⟨named a, [], rfl, nofun⟩
    | cons b more => exact ⟨named a, _, rfl, nofun⟩
  obtain ⟨u, l, hlist, hu⟩ := hfirst
  have hitems : ∀ behind, readItems (u :: l ++ from_ :: behind).length (u :: l ++ from_ :: behind) =
      .ok (names.map columnItem, from_ :: behind) := by
    intro behind
    rw [← hlist]
    refine readItems_listOf hnil behind ?_
    rw [List.length_append]
    exact Nat.le_add_right_of_le (length_listOf names)
  rw [hlist] at htokens
  exact readCommand_selectFrom hu htokens hitems hne hword

end QueryGate.Source
