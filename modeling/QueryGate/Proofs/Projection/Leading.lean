import QueryGate.Projection.Quantifier
import QueryGate.Proofs.Pattern.Search
import QueryGate.Proofs.Text.Words

/-! # Quantifiers in front of an item

The quantifiers are given by a grammar of their own (`IsQuantifier`), and a text in front of which
they stand is what remains when they are dropped (`dropQuantifiers_append`).  It must not begin
with a word that the quantifier before it could take for its own (`Clear`).

Whether anything is dropped depends on the first word alone: one that is no word of quantifiers
stays (`dropQuantifier?_eq_none`), and so does any word with another mark than a parenthesis behind
it (`dropQuantifier?_of_mark`). -/

namespace QueryGate.Projection

open Text Pattern

/-! ## The grammar -/

/-- The quantifiers of one word. -/
def plainQuantifiers : List Text := [
  "DISTINCT".toList, "DISTINCTROW".toList, "ALL".toList, "HIGH_PRIORITY".toList] ++ modifiers

/-- Digits, at least one. -/
def IsDigits (t : Text) : Prop := t ≠ [] ∧ ∀ c ∈ t, isDigit c = true

instance (t : Text) : Decidable (IsDigits t) :=
  decidable_of_iff (t ≠ [] ∧ t.all isDigit = true) (by simp [IsDigits])

/-- A row count, bare or in parentheses. -/
inductive IsRowCount : Text → Prop
  | bare {digits : Text} (h : IsDigits digits) : IsRowCount digits
  | wrapped {g digits g' : Text} (hg : AllBlank g) (h : IsDigits digits) (hg' : AllBlank g') :
      IsRowCount ('(' :: (g ++ (digits ++ (g' ++ [')']))))

/-- `PERCENT` with blanks in front of it, or nothing. -/
inductive IsPercent : Text → Prop
  | absent : IsPercent []
  | present {g w : Text} (hg : IsBlanks g) (hw : IsForm "PERCENT".toList w) : IsPercent (g ++ w)

/-- `WITH TIES` with blanks in front of it, or nothing. -/
inductive IsTies : Text → Prop
  | absent : IsTies []
  | present {g w g' w' : Text} (hg : IsBlanks g) (hw : IsForm "WITH".toList w) (hg' : IsBlanks g')
      (hw' : IsForm "TIES".toList w') : IsTies (g ++ (w ++ (g' ++ w')))

/-- A set quantifier or row modifier. -/
inductive IsQuantifier : Text → Prop
  | plain {k w : Text} (hk : k ∈ plainQuantifiers) (hw : IsForm k w) : IsQuantifier w
  | top {w g count percent ties : Text} (hw : IsForm "TOP".toList w) (hg : AllBlank g)
      (hcount : IsRowCount count) (hpercent : IsPercent percent) (hties : IsTies ties) :
      IsQuantifier (w ++ (g ++ (count ++ (percent ++ ties))))

/-- Any number of quantifiers, each with blanks behind it. -/
inductive Quantifiers : Text → Prop
  | nil : Quantifiers []
  | cons {u g q : Text} (hu : IsQuantifier u) (hg : IsBlanks g) (hq : Quantifiers q) :
      Quantifiers (u ++ (g ++ q))

/-- A word that quantifiers begin with, `TOP` also with its row count directly behind it. -/
def IsQuantifierWord (w : Text) : Prop :=
  (∃ k ∈ plainQuantifiers, IsForm k w) ∨
    ∃ top digits, w = top ++ digits ∧ IsForm "TOP".toList top ∧ ∀ c ∈ digits, isDigit c = true

/-- A text that no quantifier in front of it takes part of for its own. -/
structure Clear (s : Text) : Prop where
  notBlank : s.head?.any isBlank = false
  notParen : s.head? ≠ some ')'
  notPercent : ¬ IsForm "PERCENT".toList (s.takeWhile isWord)
  notWith : ¬ IsForm "WITH".toList (s.takeWhile isWord)

/-! ## What a quantifier begins with -/

theorem allWord_of_mem_plainQuantifiers {k : Text} (hk : k ∈ plainQuantifiers) : AllWord k := by
  have hall : ∀ k ∈ plainQuantifiers, AllWord k := by decide
  exact hall k hk

/-- A character behind the first word of quantifiers. -/
def isMargin (c : Char) : Bool := isBlank c || c == '(' || c == ')'

theorem isWord_of_isMargin {c : Char} (h : isMargin c = true) : isWord c = false := by
  simp only [isMargin, Bool.or_eq_true, beq_iff_eq] at h
  rcases h with (h | rfl) | rfl
  · exact isWord_of_isBlank h
  · exact isWord_of_mark (by decide)
  · exact isWord_of_mark (by decide)

/-- The text begins with a margin. -/
def AtMargin (s : Text) : Prop := ∃ c t, s = c :: t ∧ isMargin c = true

theorem AtMargin.append {g s : Text} (hg : ∀ c ∈ g, isMargin c = true) (hs : AtMargin s) :
    AtMargin (g ++ s) := by
  cases g with
  | nil => exact hs
  | cons c g => exact ⟨c, g ++ s, rfl, hg c List.mem_cons_self⟩

theorem AtMargin.of_blanks {g : Text} (hg : IsBlanks g) (s : Text) : AtMargin (g ++ s) := by
  obtain ⟨hne, hall⟩ := hg
  cases g with
  | nil => exact absurd rfl hne
  | cons c g => exact ⟨c, g ++ s, rfl, by simp [isMargin, hall c List.mem_cons_self]⟩

theorem AtMargin.append_right {s : Text} (hs : AtMargin s) (t : Text) : AtMargin (s ++ t) := by
  obtain ⟨c, s, rfl, hc⟩ := hs
  exact ⟨c, s ++ t, rfl, hc⟩

theorem AtMargin.head? {s : Text} (h : AtMargin s) : s.head?.any isWord = false := by
  obtain ⟨c, t, rfl, hc⟩ := h
  exact isWord_of_isMargin hc

theorem isMargin_of_blank {g : Text} (hg : AllBlank g) : ∀ c ∈ g, isMargin c = true :=
  fun c hc => by simp [isMargin, hg c hc]

theorem isMargin_of_reads_paren {paren : Char} (hparen : paren = '(' ∨ paren = ')') {t : Text}
    (h : (opt (keyword [paren])).Reads t) : ∀ c ∈ t, isMargin c = true := by
  intro c hc
  rw [eq_of_reads_mark (by rcases hparen with rfl | rfl <;> decide) h c hc]
  rcases hparen with rfl | rfl <;> simp [isMargin]

/-- What `TOP` and its row count leave begins with a margin. -/
theorem margin_of_reads_topRows {t s : Text} (h : topRows.Reads t) (hs : AtMargin s) :
    ∃ w rest, t ++ s = w ++ rest ∧ AtMargin rest ∧ AllWord w ∧ IsQuantifierWord w := by
  obtain ⟨top, _, rfl, htop, blanks₁, _, rfl, hblanks₁, opening, _, rfl, hopening, blanks₂, _, rfl,
    hblanks₂, digits, _, rfl, ⟨hne, hdigits⟩, blanks₃, _, rfl, hblanks₃, closing, _, rfl, hclosing,
    percent, ties, rfl, hpercent, hties⟩ := h
  have hties' : AtMargin (ties ++ s) := by
    rcases hties with ⟨gap, _, rfl, hgap, _⟩ | rfl
    · rw [List.append_assoc]
      exact .of_blanks hgap _
    · exact hs
  have hpercent' : AtMargin (percent ++ (ties ++ s)) := by
    rcases hpercent with ⟨gap, _, rfl, hgap, _⟩ | rfl
    · rw [List.append_assoc]
      exact .of_blanks hgap _
    · exact hties'
  have hbehind : AtMargin (blanks₃ ++ (closing ++ (percent ++ (ties ++ s)))) :=
    .append (isMargin_of_blank hblanks₃) <|
      .append (isMargin_of_reads_paren (.inr rfl) hclosing) hpercent'
  have hword : AllWord top := IsForm.allWord_of_keyword htop (by decide)
  -- either something stands between `TOP` and its row count, or they are one word
  have hbetween : ∀ c ∈ blanks₁ ++ (opening ++ blanks₂), isMargin c = true :=
    List.forall_mem_append.mpr ⟨isMargin_of_blank hblanks₁, List.forall_mem_append.mpr
      ⟨isMargin_of_reads_paren (.inl rfl) hopening, isMargin_of_blank hblanks₂⟩⟩
  by_cases hnil : blanks₁ ++ (opening ++ blanks₂) = []
  · simp only [List.append_eq_nil_iff] at hnil
    obtain ⟨rfl, rfl, rfl⟩ := hnil
    refine ⟨top ++ digits, _, ?_, hbehind, ?_, .inr ⟨top, digits, rfl, htop, hdigits⟩⟩
    · simp
    · exact List.forall_mem_append.mpr ⟨hword, fun c hc => isWord_of_isDigit (hdigits c hc)⟩
  · refine ⟨top, blanks₁ ++ (opening ++ blanks₂) ++ (digits ++ (blanks₃ ++ (closing ++ (percent ++
      (ties ++ s))))), by simp, ?_, hword, .inr ⟨top, [], by simp, htop, by simp⟩⟩
    cases hcons : blanks₁ ++ (opening ++ blanks₂) with
    | nil => exact absurd hcons hnil
    | cons c between => exact ⟨c, _, rfl, hbetween c (by rw [hcons]; exact List.mem_cons_self)⟩

/-- A quantifier that is read is a plain one, or `TOP` with its row count. -/
theorem reads_quantifier_iff {t : Text} :
    quantifier.Reads t ↔ ∃ body g, t = body ++ g ∧ IsBlanks g ∧
      ((∃ k ∈ plainQuantifiers, IsForm k body) ∨ topRows.Reads body) := by
  constructor
  · rintro ⟨body, g, rfl, hbody, hg⟩
    refine ⟨body, g, rfl, hg, ?_⟩
    rcases hbody with ⟨distinct, row, rfl, hdistinct, hrow⟩ | hall | htop | hmodifier
    · rcases hrow with hrow | rfl
      · exact .inl ⟨"DISTINCTROW".toList, by decide, List.rel_append hdistinct hrow⟩
      · rw [List.append_nil]
        exact .inl ⟨"DISTINCT".toList, by decide, hdistinct⟩
    · exact .inl ⟨"ALL".toList, by decide, hall⟩
    · exact .inr htop
    · obtain ⟨k, hk, hform⟩ := reads_oneOf_iff.mp hmodifier
      exact .inl ⟨k, List.mem_append_right ["DISTINCT".toList, "DISTINCTROW".toList, "ALL".toList] hk,
        hform⟩
  · rintro ⟨body, g, rfl, hg, ⟨k, hk, hform⟩ | htop⟩
    · refine ⟨body, g, rfl, ?_, hg⟩
      have hk' : k ∈ ["DISTINCT".toList, "DISTINCTROW".toList, "ALL".toList] ++
          "HIGH_PRIORITY".toList :: modifiers := hk
      rcases List.mem_append.mp hk' with hk' | hmodifier
      · simp only [List.mem_cons, List.not_mem_nil, or_false] at hk'
        rcases hk' with rfl | rfl | rfl
        · exact .inl ⟨body, [], by simp, hform, .inr rfl⟩
        · obtain ⟨u, v, rfl, hu, hv⟩ := IsForm.exists_append (k := "DISTINCT".toList)
            (show IsForm ("DISTINCT".toList ++ "ROW".toList) body from hform)
          exact .inl ⟨u, v, rfl, hu, .inl hv⟩
        · exact .inr (.inl hform)
      · exact .inr (.inr (.inr (reads_oneOf_iff.mpr ⟨k, hmodifier, hform⟩)))
    · exact ⟨body, g, rfl, .inr (.inr (.inl htop)), hg⟩

/-- The first word of a text with a quantifier in front, and what stands behind it. -/
theorem firstWord_of_reads {t : Text} (h : quantifier.Reads t) (s : Text) :
    ∃ w rest, t ++ s = w ++ rest ∧ AtMargin rest ∧ AllWord w ∧ IsQuantifierWord w := by
  obtain ⟨body, g, rfl, hg, ⟨k, hk, hform⟩ | htop⟩ := reads_quantifier_iff.mp h
  · exact ⟨body, g ++ s, by simp, .of_blanks hg s,
      hform.allWord (allWord_of_mem_plainQuantifiers hk), .inl ⟨k, hk, hform⟩⟩
  · rw [List.append_assoc]
    exact margin_of_reads_topRows htop (.of_blanks hg s)

/-! ## Texts without a quantifier in front -/

theorem reads_of_dropQuantifier? {s rest : Text} (h : dropQuantifier? s = some rest) :
    ∃ t, s = t ++ rest ∧ quantifier.Reads t ∧ rest.head?.any isBlank = false := by
  obtain ⟨b, hb, rfl⟩ := Option.map_eq_some_iff.mp h
  obtain ⟨t, hs, ht⟩ := reads_of_firstEnd? hb
  exact ⟨t, hs, ht, head?_of_firstEnd?_run1 hb⟩

theorem dropQuantifiersUpTo_eq_self {s : Text} (h : dropQuantifier? s = none) (fuel : Nat) :
    dropQuantifiersUpTo fuel s = s := by
  cases fuel with
  | zero => rfl
  | succ fuel => rw [dropQuantifiersUpTo, h]

/-- A text whose first word begins no quantifier. -/
theorem dropQuantifier?_eq_none {s : Text} (h : ¬ IsQuantifierWord (s.takeWhile isWord)) :
    dropQuantifier? s = none := by
  rw [Option.eq_none_iff_forall_ne_some]
  intro rest hrest
  obtain ⟨t, rfl, ht, -⟩ := reads_of_dropQuantifier? hrest
  obtain ⟨w, behind, hsplit, hmargin, hword, hquantifier⟩ := firstWord_of_reads ht rest
  rw [hsplit, (takeWhile_isWord_append hword hmargin.head?).1] at h
  exact h hquantifier

/-- A text whose first word has a mark behind it that is no margin. -/
theorem dropQuantifier?_of_mark {w s : Text} {c : Char} (hw : AllWord w) (hword : isWord c = false)
    (hmargin : isMargin c = false) : dropQuantifier? (w ++ c :: s) = none := by
  rw [Option.eq_none_iff_forall_ne_some]
  intro rest hrest
  obtain ⟨t, hs, ht, -⟩ := reads_of_dropQuantifier? hrest
  obtain ⟨v, behind, hsplit, ⟨d, behind, rfl, hd⟩, hv, -⟩ := firstWord_of_reads ht rest
  -- both readings break off the first word at the same place
  have hdrop := congrArg (List.dropWhile isWord) (hs.trans hsplit)
  rw [(takeWhile_isWord_append hw (by simpa using hword)).2,
    (takeWhile_isWord_append hv (by simpa using isWord_of_isMargin hd)).2] at hdrop
  obtain ⟨rfl, -⟩ := List.cons.inj hdrop
  rw [hd] at hmargin
  cases hmargin

/-! ## Texts with a quantifier in front -/

/-- The letters that plain quantifiers begin with. -/
theorem head_of_mem_plainQuantifiers {k : Text} (hk : k ∈ plainQuantifiers) :
    ∃ a k', k = a :: k' ∧ isAscii a = true ∧ asciiLower a ∉ ['t', 'p', 'w'] := by
  have hall : ∀ k ∈ plainQuantifiers, k.head?.any
      (fun a => isAscii a && decide (asciiLower a ∉ ['t', 'p', 'w'])) = true := by decide
  cases k with
  | nil => cases hall [] hk
  | cons a k => exact ⟨a, k, rfl, by simpa using hall _ hk⟩

/-- A plain quantifier is dropped with all the blanks behind it. -/
theorem dropQuantifier?_plain {k w g rest : Text} (hk : k ∈ plainQuantifiers) (hw : IsForm k w)
    (hg : IsBlanks g) (hrest : rest.head?.any isBlank = false) :
    dropQuantifier? (w ++ (g ++ rest)) = some rest := by
  have hreads : quantifier.Reads (w ++ g) :=
    reads_quantifier_iff.mpr ⟨w, g, rfl, hg, .inl ⟨k, hk, hw⟩⟩
  have hsome := firstEnd?_isSome_of_reads (by decide) hreads none rest
  rw [List.append_assoc] at hsome
  obtain ⟨b, hb⟩ := Option.isSome_iff_exists.mp hsome
  have hdrop : dropQuantifier? (w ++ (g ++ rest)) = some b.rest := by
    rw [dropQuantifier?, Place.start, hb, Option.map_some]
  obtain ⟨t, hs, ht, hhead⟩ := reads_of_dropQuantifier? hdrop
  obtain ⟨body, g', rfl, hg', ⟨k', hk', hbody⟩ | htop⟩ := reads_quantifier_iff.mp ht
  · -- both readings break off the first word, and all blanks behind it
    have hw' := hw.allWord (allWord_of_mem_plainQuantifiers hk)
    have hbody' := hbody.allWord (allWord_of_mem_plainQuantifiers hk')
    rw [List.append_assoc] at hs
    have hblanks := congrArg (List.dropWhile isWord) hs
    rw [(takeWhile_isWord_append hw' (AtMargin.of_blanks hg rest).head?).2,
      (takeWhile_isWord_append hbody' (AtMargin.of_blanks hg' b.rest).head?).2] at hblanks
    rw [hdrop, (eq_of_blanks_append hg.2 hg'.2 hrest hhead hblanks).2]
  · obtain ⟨top, more, rfl, htop, -⟩ := htop
    obtain ⟨a, k, rfl, hascii, hletter⟩ := head_of_mem_plainQuantifiers hk
    rw [List.append_assoc, List.append_assoc] at hs
    have hclash := IsForm.head_eq hascii (by decide) hw htop hs
    rw [hclash] at hletter
    exact absurd hletter (by decide)

/-- What may stand behind a row count. -/
def percentOption : Pattern := opt (all [run1 .blank, keyword "PERCENT".toList])

/-- What may stand behind `PERCENT`. -/
def tiesOption : Pattern :=
  opt (all [run1 .blank, keyword "WITH".toList, run1 .blank, keyword "TIES".toList])

/-- The search behind a row count. -/
def behindCount : Place → Option Place :=
  percentOption.tryEnds (tiesOption.tryEnds ((run1 .blank).tryEnds some))

/-- The search behind `TOP` and the blanks behind it. -/
def behindTop : Place → Option Place :=
  (opt (keyword "(".toList)).tryEnds <| (run .blank).tryEnds <| (run1 .digit).tryEnds <|
    (run .blank).tryEnds <| (opt (keyword ")".toList)).tryEnds behindCount

theorem tryEnds_topRows :
    topRows.tryEnds ((run1 .blank).tryEnds some) =
      (keyword "TOP".toList).tryEnds ((run .blank).tryEnds behindTop) := rfl

variable {g rest : Text}

theorem leads_blanks (hg : IsBlanks g) (hrest : rest.head?.any isBlank = false) :
    Leads ((run1 .blank).tryEnds some) (g ++ rest) rest :=
  leads_run1 hg.1 hg.2 hrest fun _ => ⟨_, rfl, rfl⟩

/-- A pattern that begins with blanks and a word refuses blanks with another word behind them. -/
theorem refuses_of_word {p : Pattern} {next : Place → Option Place} {k y : Text}
    (hk : k ∈ keywords)
    (hp : ∀ t, p.Reads t → ∃ g' w v, t = g' ++ (w ++ v) ∧ IsBlanks g' ∧ IsForm k w ∧ AtMargin v)
    (hg : IsBlanks g) (hy : y.head?.any isBlank = false)
    (hno : ¬ IsForm k (y.takeWhile isWord)) : Refuses (p.tryEnds next) (g ++ y) := by
  refine refuses_of_not_reads fun t u hs ht => ?_
  obtain ⟨g', w, v, rfl, hg', hw, hv⟩ := hp t ht
  rw [List.append_assoc, List.append_assoc] at hs
  obtain ⟨-, rfl⟩ := eq_of_blanks_append hg.2 hg'.2 hy (hw.notBlank_of_keyword hk _) hs
  rw [(takeWhile_isWord_append (hw.allWord_of_keyword hk) (hv.append_right u).head?).1] at hno
  exact hno hw

theorem leads_ties {t : Text} (ht : IsTies t) (hg : IsBlanks g) (hrest : Clear rest) :
    Leads (tiesOption.tryEnds ((run1 .blank).tryEnds some)) (t ++ (g ++ rest)) rest := by
  have hblanks := leads_blanks hg hrest.notBlank
  cases ht with
  | absent =>
    rw [List.nil_append]
    refine leads_opt_skipped (refuses_of_word (k := "WITH".toList) (by decide) ?_ hg
      hrest.notBlank hrest.notWith) hblanks
    rintro _ ⟨g', _, rfl, hg', w, _, rfl, hw, g'', w', rfl, hg'', -⟩
    exact ⟨g', w, g'' ++ w', rfl, hg', hw, .of_blanks hg'' w'⟩
  | @present g₁ w g₂ w' hg₁ hw hg₂ hw' =>
    simp only [List.append_assoc]
    refine leads_opt_taken ?_
    simp only [all, tryEnds_seq]
    exact leads_run1 hg₁.1 hg₁.2 (hw.notBlank_of_keyword (by decide) _) <| leads_keyword hw <|
      leads_run1 hg₂.1 hg₂.2 (hw'.notBlank_of_keyword (by decide) _) <| leads_keyword hw' hblanks

/-- What stands behind a row count: perhaps `PERCENT`, perhaps `WITH TIES`, and blanks. -/
inductive Optioned (rest : Text) : Text → Prop
  | mk {percent ties g : Text} (hpercent : IsPercent percent) (hties : IsTies ties)
      (hg : IsBlanks g) : Optioned rest (percent ++ (ties ++ (g ++ rest)))

/-- It begins with blanks, of which it may have more or fewer. -/
theorem Optioned.exists_blanks {s : Text} (hs : Optioned rest s) (hrest : Clear rest) :
    ∃ g y, IsBlanks g ∧ s = g ++ y ∧ y.head?.any isBlank = false ∧ y.head? ≠ some ')' ∧
      ∀ g', IsBlanks g' → Optioned rest (g' ++ y) := by
  have hparen : ∀ {k w : Text} (s : Text), k ∈ keywords → IsForm k w →
      (w ++ s).head? ≠ some ')' := by
    intro k w s hk hw h
    have hmark := not_mem_of_allWord (hw.allWord_of_keyword hk) (c := ')') (by decide)
    cases w with
    | nil => exact hw.ne_nil_of_keyword hk rfl
    | cons c w =>
      obtain rfl := Option.some.inj h
      exact hmark List.mem_cons_self
  obtain @⟨percent, ties, g, hpercent, hties, hg⟩ := hs
  cases hpercent with
  | @present g₁ w hg₁ hw =>
    refine ⟨g₁, w ++ (ties ++ (g ++ rest)), hg₁, by simp,
      hw.notBlank_of_keyword (by decide) _,
      hparen _ (by decide) hw, fun g' hg' => ?_⟩
    rw [← List.append_assoc]
    exact .mk (.present hg' hw) hties hg
  | absent =>
    cases hties with
    | @present g₁ w g₂ w' hg₁ hw hg₂ hw' =>
      refine ⟨g₁, w ++ (g₂ ++ (w' ++ (g ++ rest))), hg₁, by simp,
        hw.notBlank_of_keyword (by decide) _,
        hparen _ (by decide) hw, fun g' hg' => ?_⟩
      have h : Optioned rest ([] ++ (g' ++ (w ++ (g₂ ++ w')) ++ (g ++ rest))) :=
        .mk .absent (.present hg' hw hg₂ hw') hg
      simpa using h
    | absent =>
      exact ⟨g, rest, hg, rfl, hrest.notBlank, hrest.notParen, fun g' hg' =>
        .mk .absent .absent hg'⟩

theorem refuses_percent {y : Text} (hg : IsBlanks g) (hy : y.head?.any isBlank = false)
    (hno : ¬ IsForm "PERCENT".toList (y.takeWhile isWord)) :
    Refuses ((all [run1 .blank, keyword "PERCENT".toList]).tryEnds
      (tiesOption.tryEnds ((run1 .blank).tryEnds some))) (g ++ y) := by
  rw [← tryEnds_seq, ← tryEnds_seq]
  refine refuses_of_word (k := "PERCENT".toList) (by decide) ?_ hg hy hno
  rintro _ ⟨_, g'', rfl, ⟨_, ties, rfl, ⟨g', w, rfl, hg', hw⟩, hties⟩, hg''⟩
  refine ⟨g', w, ties ++ g'', by simp, hg', hw, ?_⟩
  rcases hties with ⟨gap, more, rfl, hgap, -⟩ | rfl
  · rw [List.append_assoc]
    exact .of_blanks hgap _
  · simpa using AtMargin.of_blanks hg'' []

theorem leads_behindCount {s : Text} (hs : Optioned rest s) (hrest : Clear rest) :
    Leads behindCount s rest := by
  obtain @⟨percent, ties, g, hpercent, hties, hg⟩ := hs
  have hskip := leads_ties hties hg hrest
  cases hpercent with
  | present hg₁ hw =>
    rw [List.append_assoc]
    refine leads_opt_taken ?_
    simp only [all, tryEnds_seq]
    exact leads_run1 hg₁.1 hg₁.2 (hw.notBlank_of_keyword (by decide) _) <|
      leads_keyword hw hskip
  | absent =>
    refine leads_opt_skipped ?_ hskip
    -- `WITH` or the rest follows, and neither begins with `PERCENT`
    cases hties with
    | absent =>
      rw [List.nil_append, List.nil_append]
      exact refuses_percent hg hrest.notBlank hrest.notPercent
    | @present g₁ w g₂ w' hg₁ hw hg₂ hw' =>
      have hword := hw.allWord_of_keyword (by decide)
      have hfirst :=
        (takeWhile_isWord_append hword (AtMargin.of_blanks hg₂ (w' ++ (g ++ rest))).head?).1
      simp only [List.nil_append, List.append_assoc]
      refine refuses_percent hg₁ (hw.notBlank_of_keyword (by decide) _) ?_
      rw [hfirst]
      intro hpercent
      exact absurd (IsForm.head_eq (s := []) (t := []) (by decide) (by decide) hw hpercent rfl)
        (by decide)

/-- The search refuses a text without blanks in front. -/
theorem refuses_behindCount {s : Text} (hs : s.head?.any isBlank = false) :
    Refuses behindCount s := by
  have hblank : s.head?.any CharClass.blank.has = false := hs
  refine refuses_opt ?_ (refuses_opt ?_ (refuses_run1 hblank))
  all_goals
    simp only [all, tryEnds_seq]
    exact refuses_run1 hblank

/-- A mark that the text does not begin with is skipped. -/
theorem refuses_mark {mark : Char} (hmark : mark.toNat < 65) {next : Place → Option Place}
    {s : Text}
    (hs : s.head? ≠ some mark) : Refuses ((keyword [mark]).tryEnds next) s := by
  refine refuses_of_not_reads fun t u h ht => ?_
  cases ht with
  | cons hc _ =>
    rw [h, eq_of_isFormOf hmark hc] at hs
    exact hs rfl

theorem isDigit_of_isBlank {c : Char} (h : isBlank c = true) : isDigit c = false := by
  cases hdigit : isDigit c with
  | false => rfl
  | true =>
    rw [isBlank_of_isWord (isWord_of_isDigit hdigit)] at h
    cases h

theorem isDigit_of_mark {c : Char} (h : c ∈ punctuation) : isDigit c = false := by
  cases hdigit : isDigit c with
  | false => rfl
  | true =>
    have hword := isWord_of_isDigit hdigit
    rw [isWord_of_mark h] at hword
    cases hword

theorem IsDigits.head? {digits : Text} (h : IsDigits digits) (s : Text) :
    ∃ c, (digits ++ s).head? = some c ∧ isDigit c = true := by
  obtain ⟨hne, hall⟩ := h
  cases digits with
  | nil => exact absurd rfl hne
  | cons c digits => exact ⟨c, rfl, hall c List.mem_cons_self⟩

/-- Digits begin with neither a blank nor a parenthesis. -/
theorem IsDigits.apart {digits : Text} (h : IsDigits digits) (s : Text) :
    (digits ++ s).head?.any CharClass.blank.has = false ∧ (digits ++ s).head? ≠ some '(' := by
  obtain ⟨c, hc, hd⟩ := h.head? s
  rw [hc]
  refine ⟨isBlank_of_isWord (isWord_of_isDigit hd), ?_⟩
  rintro ⟨⟩
  rw [isDigit_of_mark (by decide)] at hd
  cases hd

theorem leads_bareCount {digits s : Text} (hdigits : IsDigits digits) (hs : Optioned rest s)
    (hrest : Clear rest) : Leads behindTop (digits ++ s) rest := by
  obtain ⟨g, y, hg, hsplit, hy, hparen, hmore⟩ := hs.exists_blanks hrest
  refine leads_opt_skipped (refuses_mark (by decide) (hdigits.apart s).2) ?_
  refine leads_run (g := []) (by simp) (hdigits.apart s).1 ?_
  obtain ⟨c, hc, hblank⟩ := hg.head? (s := y)
  refine leads_run1 hdigits.1 hdigits.2 ?_ ?_
  · rw [hsplit, hc]
    exact isDigit_of_isBlank hblank
  · -- the blanks behind the digits are read, but for the last, which the rest needs
    rw [hsplit]
    refine leads_run_back hg.1 hg.2 hy ?_ fun d hd => ?_
    · exact refuses_opt (refuses_mark (by decide) hparen) (refuses_behindCount hy)
    · have hlast : IsBlanks [d] := ⟨by simp, List.forall_mem_singleton.mpr hd⟩
      refine leads_opt_skipped (refuses_mark (by decide) ?_)
        (leads_behindCount (hmore [d] hlast) hrest)
      rintro ⟨⟩
      have hblank' := isBlank_of_mark (c := ')') (by decide)
      rw [show isBlank ')' = true from hd] at hblank'
      cases hblank'

theorem leads_wrappedCount {g₁ digits g₂ s : Text} (hg₁ : AllBlank g₁) (hdigits : IsDigits digits)
    (hg₂ : AllBlank g₂) (hs : Optioned rest s) (hrest : Clear rest) :
    Leads behindTop ('(' :: (g₁ ++ (digits ++ (g₂ ++ [')']))) ++ s) rest := by
  have hopen : IsForm "(".toList ['('] := .cons (by decide) .nil
  have hclose : IsForm ")".toList [')'] := .cons (by decide) .nil
  have htext : '(' :: (g₁ ++ (digits ++ (g₂ ++ [')']))) ++ s =
      ['('] ++ (g₁ ++ (digits ++ (g₂ ++ ([')'] ++ s)))) := by simp
  rw [htext]
  refine leads_opt_taken (leads_keyword hopen ?_)
  refine leads_run hg₁ (hdigits.apart _).1 (leads_run1 hdigits.1 hdigits.2 ?_ ?_)
  · cases g₂ with
    | nil => exact isDigit_of_mark (c := ')') (by decide)
    | cons c g₂ => exact isDigit_of_isBlank (hg₂ c List.mem_cons_self)
  · exact leads_run hg₂ (isBlank_of_mark (c := ')') (by decide)) <|
      leads_opt_taken (leads_keyword hclose (leads_behindCount hs hrest))

theorem leads_behindTop {count s : Text} (hcount : IsRowCount count) (hs : Optioned rest s)
    (hrest : Clear rest) : Leads behindTop (count ++ s) rest := by
  cases hcount with
  | bare hdigits => exact leads_bareCount hdigits hs hrest
  | wrapped hg₁ hdigits hg₂ => exact leads_wrappedCount hg₁ hdigits hg₂ hs hrest

/-- `TOP` with its row count and options is dropped with all the blanks behind it. -/
theorem dropQuantifier?_top {w g₁ count s : Text} (hw : IsForm "TOP".toList w) (hg₁ : AllBlank g₁)
    (hcount : IsRowCount count) (hs : Optioned rest s) (hrest : Clear rest) :
    dropQuantifier? (w ++ (g₁ ++ (count ++ s))) = some rest := by
  have hhead : (count ++ s).head?.any CharClass.blank.has = false := by
    cases hcount with
    | bare hdigits =>
      obtain ⟨c, hc, hd⟩ := hdigits.head? s
      rw [hc]
      exact isBlank_of_isWord (isWord_of_isDigit hd)
    | wrapped => exact isBlank_of_mark (c := '(') (by decide)
  have htop : Leads (topRows.tryEnds ((run1 .blank).tryEnds some)) (w ++ (g₁ ++ (count ++ s)))
      rest := by
    rw [tryEnds_topRows]
    exact leads_keyword hw (leads_run hg₁ hhead (leads_behindTop hcount hs hrest))
  have hother : ∀ {a : Char} {k : Text} {next : Place → Option Place}, isAscii a = true →
      asciiLower a ≠ 't' →
      Refuses ((keyword (a :: k)).tryEnds next) (w ++ (g₁ ++ (count ++ s))) := by
    intro a k next ha hletter
    refine refuses_of_not_reads fun t u h ht => ?_
    exact hletter (IsForm.head_eq ha (by decide) ht hw h.symm)
  -- neither `DISTINCT` nor `ALL` begins as `TOP` does
  have hall : Leads (quantifier.tryEnds some) (w ++ (g₁ ++ (count ++ s))) rest := by
    rw [quantifier, tryEnds_seq]
    refine leads_alt_right ?_ (leads_alt_right ?_ (leads_alt_left htop))
    · rw [tryEnds_seq]
      exact hother (by decide) (by decide)
    · exact hother (by decide) (by decide)
  obtain ⟨b, hb, hrest'⟩ := hall none
  rw [dropQuantifier?, Place.start, firstEnd?, hb, Option.map_some, hrest']

/-- A quantifier is dropped with all the blanks behind it. -/
theorem dropQuantifier?_append {u : Text} (hu : IsQuantifier u) (hg : IsBlanks g)
    (hrest : Clear rest) : dropQuantifier? (u ++ (g ++ rest)) = some rest := by
  cases hu with
  | plain hk hw => exact dropQuantifier?_plain hk hw hg hrest.notBlank
  | top hw hg₁ hcount hpercent hties =>
    simp only [List.append_assoc]
    exact dropQuantifier?_top hw hg₁ hcount (.mk hpercent hties hg) hrest

/-- Quantifiers do not take the quantifiers behind them for their own. -/
theorem Clear.of_quantifier {u : Text} (hu : IsQuantifier u) (s : Text) : Clear (u ++ s) := by
  obtain ⟨a, k, w, t, htext, hw, hword, ha, hletter⟩ : ∃ a k w t, u ++ s = w ++ t ∧
      IsForm (a :: k) w ∧ AllWord w ∧ isAscii a = true ∧ asciiLower a ∉ ['p', 'w'] := by
    cases hu with
    | plain hk hw =>
      obtain ⟨a, k, rfl, ha, hletter⟩ := head_of_mem_plainQuantifiers hk
      exact ⟨a, k, u, s, rfl, hw, hw.allWord (allWord_of_mem_plainQuantifiers hk), ha,
        fun h => hletter (List.mem_cons_of_mem _ h)⟩
    | top hw =>
      exact ⟨'T', "OP".toList, _, _, by rw [List.append_assoc], hw,
        hw.allWord_of_keyword (by decide), by decide, by decide⟩
  rw [htext]
  have hother : ∀ {b : Char} {k' : Text}, isAscii b = true → asciiLower b ∈ ['p', 'w'] →
      ¬ IsForm (b :: k') ((w ++ t).takeWhile isWord) := by
    intro b k' hb hmem hform
    have hclash := IsForm.head_eq (s := t) (t := (w ++ t).dropWhile isWord) ha hb hw hform
      (by rw [List.takeWhile_append_dropWhile])
    rw [hclash] at hletter
    exact hletter hmem
  refine ⟨?_, ?_, hother (by decide) (by decide), hother (by decide) (by decide)⟩
  · cases w with
    | nil => cases hw
    | cons c w => exact isBlank_of_isWord (hword c List.mem_cons_self)
  · cases w with
    | nil => cases hw
    | cons c w =>
      rintro ⟨⟩
      exact not_mem_of_allWord hword (c := ')') (by decide) List.mem_cons_self

theorem Clear.append {q body : Text} (hq : Quantifiers q) (hbody : Clear body) :
    Clear (q ++ body) := by
  cases hq with
  | nil => exact hbody
  | cons hu _ _ =>
    rw [List.append_assoc]
    exact .of_quantifier hu _

/-- **Leading quantifiers are dropped, and nothing else.**  What stands behind them must begin with
no quantifier of its own and with nothing that the last quantifier takes for its own. -/
theorem dropQuantifiers_append {q body : Text} (hq : Quantifiers q) (hbody : Clear body)
    (hnone : dropQuantifier? body = none) : dropQuantifiers (q ++ body) = body := by
  have hfuel : ∀ fuel, q.length ≤ fuel → dropQuantifiersUpTo fuel (q ++ body) = body := by
    induction hq with
    | nil =>
      intro fuel _
      exact dropQuantifiersUpTo_eq_self hnone fuel
    | @cons u g q hu hg hq ih =>
      intro fuel hle
      have hclear : Clear (q ++ body) := .append hq hbody
      have hlength : 0 < g.length := List.length_pos_iff.mpr hg.1
      simp only [List.length_append] at hle
      cases fuel with
      | zero => omega
      | succ fuel =>
        rw [List.append_assoc, List.append_assoc, dropQuantifiersUpTo,
          dropQuantifier?_append hu hg hclear]
        exact ih fuel (by omega)
  exact hfuel _ (by simp)

end QueryGate.Projection
