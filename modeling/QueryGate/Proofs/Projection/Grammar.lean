import QueryGate.Projection.Reference
import QueryGate.Proofs.Projection.Leading
import QueryGate.Proofs.Projection.Pieces
import QueryGate.Proofs.Projection.Quantifiers

/-! # A grammar of projections

Items of a projection as trees that know how they are written: with quantifiers in front, names
with or without marks and qualifiers, nested calls and an alias, and with their blanks.

Whatever an item is, its text has what reading a list of items rests on: it is balanced, it has no
blank at its ends, and `FROM` stands in it nowhere as a word. -/

namespace QueryGate.Projection

open Text

/-! ## Names -/

/-- The words that are no names. -/
def reservedWords : List Text := ["FROM".toList, "1".toList] ++ quantifierWords

/-- `w` is the word `k` without regard to letter case, either letter by letter or as a whole in
upper case. -/
def SameWord (k w : Text) : Prop := IsForm k w ∨ toUpper w = k

/-- A word that is no name: a reserved one, or `TOP` with digits behind it. -/
def IsReserved (w : Text) : Prop :=
  (∃ k ∈ reservedWords, SameWord k w) ∨
    (SameWord "TOP".toList (w.take 3) ∧ ∀ c ∈ w.drop 3, isDigit c = true)

instance (k w : Text) : Decidable (SameWord k w) := inferInstanceAs (Decidable (_ ∨ _))

instance (w : Text) : Decidable (IsReserved w) :=
  decidable_of_iff ((∃ k ∈ reservedWords, SameWord k w) ∨
      (SameWord "TOP".toList (w.take 3) ∧ (w.drop 3).all isDigit = true))
    (by simp only [IsReserved, List.all_eq_true])

/-- A word that may name a column, a table, a function or an alias. -/
structure Name where
  text : Text
  ne_nil : text ≠ []
  allWord : AllWord text
  free : ¬ IsReserved text

/-- What a name may stand between. -/
inductive Marks where
  | bare
  | backQuotes
  | doubleQuotes
  | brackets

/-- The mark in front of the name. -/
def Marks.opening : Marks → Text
  | bare => []
  | backQuotes => ['`']
  | doubleQuotes => ['"']
  | brackets => ['[']

/-- The mark behind the name. -/
def Marks.closing : Marks → Text
  | bare => []
  | backQuotes => ['`']
  | doubleQuotes => ['"']
  | brackets => [']']

/-- A name with its marks. -/
structure Wrapped where
  marks : Marks
  name : Name

/-- A name as it is written. -/
def Wrapped.render (p : Wrapped) : Text := p.marks.opening ++ (p.name.text ++ p.marks.closing)

/-- Qualifiers, each with a dot behind it. -/
def qualifiersText : List Wrapped → Text
  | [] => []
  | q :: qs => q.render ++ '.' :: qualifiersText qs

/-! ## Items -/

/-- Blanks that may be missing. -/
abbrev Blanks := {g : Text // AllBlank g}

/-- Blanks that may not be missing. -/
abbrev Gap := {g : Text // IsBlanks g}

/-- Leading quantifiers with their blanks. -/
abbrev Lead := {q : Text // Quantifiers q}

/-- What an item reads, without quantifiers and alias. -/
inductive Core where
  /-- A column with its qualifiers. -/
  | column (qualifiers : List Wrapped) (name : Wrapped)
  /-- A call. -/
  | call (function : Name) (before : Blanks) (lead : Lead) (argument : Core) (after : Blanks)
  /-- A call over whole rows. -/
  | overRows (function : Name) (before : Blanks) (lead : Lead) (after : Blanks)
  /-- A call without an argument. -/
  | overNothing (function : Name) (inside : Blanks)

/-- A call with something between its parentheses. -/
def callText (function : Name) (inner : Text) : Text := function.text ++ '(' :: (inner ++ [')'])

/-- A core as it is written. -/
def Core.render : Core → Text
  | column qualifiers name => qualifiersText qualifiers ++ name.render
  | call function before lead argument after =>
    callText function (before.1 ++ (lead.1 ++ argument.render ++ after.1))
  | overRows function before lead after =>
    callText function (before.1 ++ (lead.1 ++ wildcard ++ after.1))
  | overNothing function inside => callText function inside.1

/-- The column that a core reads, if it reads one. -/
def Core.column? : Core → Option Text
  | column _ name => some name.name.text
  | call _ _ _ argument _ => argument.column?
  | overRows _ _ _ _ | overNothing _ _ => none

/-- An alias, with or without `AS` in front of it. -/
structure Alias where
  introduced : Option (Gap × {w : Text // IsForm "AS".toList w})
  gap : Gap
  name : Wrapped

/-- An alias as it is written, with the blanks in front of it. -/
def Alias.render (a : Alias) : Text :=
  match a.introduced with
  | none => a.gap.1 ++ a.name.render
  | some (g, w) => g.1 ++ (w.1 ++ (a.gap.1 ++ a.name.render))

/-- An item of a projection. -/
inductive Item where
  /-- All columns, or all columns of a table. -/
  | wholeRow (lead : Lead) (qualifiers : List Wrapped)
  /-- A column or a call. -/
  | value (lead : Lead) (core : Core) (alias? : Option Alias)

/-- What stands behind the quantifiers of an item. -/
def Item.body : Item → Text
  | wholeRow _ qualifiers => qualifiersText qualifiers ++ wildcard
  | value _ core alias? => core.render ++ (alias?.elim [] Alias.render)

/-- The quantifiers of an item. -/
def Item.lead : Item → Lead
  | wholeRow lead _ | value lead _ _ => lead

/-- An item as it is written. -/
def Item.render (i : Item) : Text := i.lead.1 ++ i.body

/-- The column that an item stands for, if it stands for one. -/
def Item.column? : Item → Option Text
  | wholeRow _ _ => some wildcard
  | value _ core _ => core.column?

/-! ## Names are no words of the grammar -/

theorem Name.not_isForm (n : Name) {k : Text} (hk : k ∈ reservedWords) : ¬ IsForm k n.text :=
  fun h => n.free (.inl ⟨k, hk, .inl h⟩)

theorem Name.not_toUpper (n : Name) {k : Text} (hk : k ∈ reservedWords) : toUpper n.text ≠ k :=
  fun h => n.free (.inl ⟨k, hk, .inr h⟩)

theorem Name.not_isQuantifierWord (n : Name) : ¬ IsQuantifierWord n.text := by
  rintro (⟨k, hk, h⟩ | ⟨top, digits, heq, htop, hdigits⟩)
  · have hall : ∀ k ∈ plainQuantifiers, k ∈ reservedWords := by decide
    exact n.not_isForm (hall k hk) h
  · have hlength : top.length = 3 := htop.length_eq.symm
    refine n.free (.inr ?_)
    rw [heq, ← hlength, List.take_left, List.drop_left]
    exact ⟨.inl htop, hdigits⟩

/-! ## Texts without quantifiers in front -/

/-- A text that begins with no quantifier, and with nothing that a quantifier in front of it takes
for its own. -/
structure Unled (s : Text) : Prop where
  clear : Clear s
  none : dropQuantifier? s = none

theorem Unled.of_mark {c : Char} {s : Text} (hc : c ∈ punctuation) (hparen : c ≠ ')') :
    Unled (c :: s) := by
  obtain ⟨hblank, hword⟩ := punctuation_apart c hc
  have hfirst : (c :: s).takeWhile isWord = [] := by simp [hword]
  refine ⟨⟨by simpa using hblank, by simpa using hparen, ?_, ?_⟩, dropQuantifier?_eq_none ?_⟩
  · rw [hfirst]
    exact fun h => by cases h
  · rw [hfirst]
    exact fun h => by cases h
  · rw [hfirst]
    rintro (⟨k, hk, h⟩ | ⟨top, digits, heq, htop, -⟩)
    · exact h.ne_nil (by rintro rfl; exact absurd hk (by decide)) rfl
    · exact htop.ne_nil (by decide) (List.append_eq_nil_iff.mp heq.symm).1

theorem Unled.of_name (n : Name) {s : Text} (hs : s.head?.any isWord = false) :
    Unled (n.text ++ s) := by
  have hfirst := (takeWhile_isWord_append n.allWord hs).1
  obtain ⟨c, w, hcons⟩ := List.exists_cons_of_ne_nil n.ne_nil
  have hc : isWord c = true := n.allWord c (by simp [hcons])
  refine ⟨⟨?_, ?_, ?_, ?_⟩, dropQuantifier?_eq_none ?_⟩
  · simp [hcons, isBlank_of_isWord hc]
  · rw [hcons]
    rintro ⟨⟩
    rw [isWord_of_mark (by decide)] at hc
    cases hc
  · rw [hfirst]
    exact n.not_isForm (by decide)
  · rw [hfirst]
    exact n.not_isForm (by decide)
  · rw [hfirst]
    exact n.not_isQuantifierWord

theorem Unled.of_wrapped (p : Wrapped) {s : Text} (hs : s.head?.any isWord = false) :
    Unled (p.render ++ s) := by
  obtain ⟨marks, name⟩ := p
  cases marks with
  | bare => simpa [Wrapped.render, Marks.opening, Marks.closing] using Unled.of_name name hs
  | backQuotes | doubleQuotes | brackets => exact .of_mark (by decide) (by decide)

theorem Unled.of_qualified (qs : List Wrapped) {s : Text} (hs : Unled s) :
    Unled (qualifiersText qs ++ s) := by
  cases qs with
  | nil => exact hs
  | cons q qs =>
    rw [qualifiersText, List.append_assoc]
    exact .of_wrapped q (isWord_of_mark (c := '.') (by decide))

theorem unled_wildcard : Unled wildcard := .of_mark (by decide) (by decide)

theorem Core.unled (core : Core) {s : Text} (hs : s.head?.any isWord = false) :
    Unled (core.render ++ s) := by
  have hcall : ∀ (f : Name) (inner : Text), Unled (callText f inner ++ s) := by
    intro f inner
    rw [callText, List.append_assoc]
    exact .of_name f (isWord_of_mark (c := '(') (by decide))
  cases core with
  | column qs name =>
    rw [Core.render, List.append_assoc]
    exact .of_qualified qs (.of_wrapped name hs)
  | call f => exact hcall f _
  | overRows f => exact hcall f _
  | overNothing f => exact hcall f _

theorem Alias.head?_render (a : Alias) : a.render.head?.any isWord = false := by
  rw [Alias.render]
  split
  · exact a.gap.2.head?_isWord _
  · rename_i g w _
    exact g.2.head?_isWord _

theorem Item.unled (i : Item) : Unled i.body := by
  cases i with
  | wholeRow lead qs => exact .of_qualified qs unled_wildcard
  | value lead core alias? =>
    cases alias? with
    | none => exact core.unled rfl
    | some a => exact core.unled a.head?_render

/-! ## Balanced texts -/

theorem IsDigits.balanced {t : Text} (h : IsDigits t) : Balanced t :=
  .of_word fun c hc => isWord_of_isDigit (h.2 c hc)

theorem balanced_of_keyword {k w : Text} (hk : k ∈ keywords) (hw : IsForm k w) : Balanced w :=
  .of_word (hw.allWord_of_keyword hk)

theorem IsRowCount.balanced {t : Text} (h : IsRowCount t) : Balanced t := by
  cases h with
  | bare hdigits => exact hdigits.balanced
  | @wrapped g digits g' hg hdigits hg' =>
    have hinner := ((Balanced.of_blank hg).append hdigits.balanced).append (.of_blank hg')
    simpa using hinner.paren

theorem IsPercent.balanced {t : Text} (h : IsPercent t) : Balanced t := by
  cases h with
  | absent => exact .nil
  | present hg hw => exact .append (.of_blank hg.2) (balanced_of_keyword (by decide) hw)

theorem IsTies.balanced {t : Text} (h : IsTies t) : Balanced t := by
  cases h with
  | absent => exact .nil
  | present hg hw hg' hw' =>
    exact .append (.of_blank hg.2) <| .append (balanced_of_keyword (by decide) hw) <|
      .append (.of_blank hg'.2) (balanced_of_keyword (by decide) hw')

theorem IsQuantifier.balanced {u : Text} (h : IsQuantifier u) : Balanced u := by
  cases h with
  | plain hk hw => exact .of_word (hw.allWord (allWord_of_mem_plainQuantifiers hk))
  | top hw hg hcount hpercent hties =>
    exact .append (balanced_of_keyword (by decide) hw) <| .append (.of_blank hg) <|
      .append hcount.balanced <| .append hpercent.balanced hties.balanced

theorem Quantifiers.balanced {q : Text} (h : Quantifiers q) : Balanced q := by
  induction h with
  | nil => exact .nil
  | cons hu hg _ ih => exact .append hu.balanced (.append (.of_blank hg.2) ih)

/-- A text without marks, between two of them. -/
theorem balanced_marked (m : Marks) {w : Text} (hw : ∀ c ∈ w, c ∉ punctuation) :
    Balanced (m.opening ++ (w ++ m.closing)) := by
  have hinner : Balanced w := by
    have hmarks : ∀ c ∈ marks, c ∈ punctuation := forall_mem_of_all (by decide)
    exact .of_plain fun c hc => decide_eq_true fun hmem => hw c hc (hmarks c hmem)
  cases m with
  | bare => simpa [Marks.opening, Marks.closing] using hinner
  | backQuotes | doubleQuotes => exact .quoted (by decide) fun h => hw _ h (by decide)
  | brackets =>
    have hopen : Balanced ['['] := .of_mark (by decide)
    have hclose : Balanced [']'] := .of_mark (by decide)
    exact hopen.append (hinner.append hclose)

theorem Wrapped.balanced (p : Wrapped) : Balanced p.render :=
  balanced_marked p.marks fun c hc => not_mark_of_isWord (p.name.allWord c hc)

theorem balanced_qualifiersText (qs : List Wrapped) : Balanced (qualifiersText qs) := by
  induction qs with
  | nil => exact .nil
  | cons q qs ih =>
    have hdot : Balanced ['.'] := .of_mark (by decide)
    exact .append q.balanced (.append hdot ih)

theorem balanced_callText (f : Name) {inner : Text} (h : Balanced inner) :
    Balanced (callText f inner) := .append (.of_word f.allWord) h.paren

theorem balanced_wildcard : Balanced wildcard := .of_mark (by decide)

theorem Core.balanced (core : Core) : Balanced core.render := by
  induction core with
  | column qs name => exact .append (balanced_qualifiersText qs) name.balanced
  | call f before lead argument after ih =>
    exact balanced_callText f <| .append (.of_blank before.2) <|
      .append (.append lead.2.balanced ih) (.of_blank after.2)
  | overRows f before lead after =>
    exact balanced_callText f <| .append (.of_blank before.2) <|
      .append (.append lead.2.balanced balanced_wildcard) (.of_blank after.2)
  | overNothing f inside => exact balanced_callText f (.of_blank inside.2)

theorem Alias.balanced (a : Alias) : Balanced a.render := by
  have hname : Balanced (a.gap.1 ++ a.name.render) :=
    .append (.of_blank a.gap.2.2) a.name.balanced
  rw [Alias.render]
  split
  · exact hname
  · rename_i g w _
    exact .append (.of_blank g.2.2) (.append (balanced_of_keyword (by decide) w.2) hname)

theorem Item.balanced (i : Item) : Balanced i.render := by
  cases i with
  | wholeRow lead qs =>
    exact .append lead.2.balanced (.append (balanced_qualifiersText qs) balanced_wildcard)
  | value lead core alias? =>
    refine .append lead.2.balanced (.append core.balanced ?_)
    cases alias? with
    | none => exact .nil
    | some a => exact a.balanced

/-! ## Texts without `FROM` -/

/-- `FROM` stands nowhere in the text as a word. -/
abbrev NoFrom (s : Text) : Prop := Lacks "FROM".toList s

theorem NoFrom.nil : NoFrom [] := Lacks.nil (by decide)

theorem NoFrom.append_gap {s g t : Text} (hs : NoFrom s) (hne : g ≠ []) (hg : NoWord g)
    (ht : NoFrom t) : NoFrom (s ++ (g ++ t)) :=
  Lacks.append_gap (by decide) (keywords_words _ (by decide)).2 hne hg hs ht

theorem NoFrom.append_mark {s t : Text} (hs : NoFrom s) {c : Char} (hc : c ∈ punctuation)
    (ht : NoFrom t) : NoFrom (s ++ c :: t) :=
  hs.append_gap (g := [c]) (by simp) (List.forall_mem_singleton.mpr (isWord_of_mark hc)) ht

/-- A word that begins with a form of another keyword. -/
theorem NoFrom.of_keyword {k w t : Text} (hk : k ∈ plainQuantifiers ++ keywords)
    (hne : k ≠ "FROM".toList) (hw : IsForm k w) (ht : AllWord t) : NoFrom (w ++ t) := by
  have hall : ∀ k ∈ plainQuantifiers ++ keywords, AllWord k ∧ (k ≠ "FROM".toList →
      k.head?.any (fun a => isAscii a && asciiLower a != 'f') = true) := by decide
  obtain ⟨hword, hhead⟩ := hall k hk
  cases k with
  | nil => cases hhead hne
  | cons a k =>
    have hletter := hhead hne
    simp only [List.head?_cons, Option.any_some, Bool.and_eq_true, bne_iff_ne] at hletter
    refine .of_word (List.forall_mem_append.mpr ⟨hw.allWord hword, ht⟩) fun h => hletter.2 ?_
    exact IsForm.head_eq (s := t) (t := []) hletter.1 (by decide) hw h (by simp)

theorem NoFrom.of_isForm {k w : Text} (hk : k ∈ plainQuantifiers ++ keywords)
    (hne : k ≠ "FROM".toList) (hw : IsForm k w) : NoFrom w := by
  simpa using NoFrom.of_keyword (t := []) hk hne hw (by simp [AllWord])

/-- Digits begin with no letter. -/
theorem IsDigits.noFrom {t : Text} (h : IsDigits t) : NoFrom t := by
  refine .of_word (fun c hc => isWord_of_isDigit (h.2 c hc)) fun hform => ?_
  cases hform with
  | @cons _ c _ w hc _ =>
    have hdigit := h.2 c List.mem_cons_self
    have hletter := isFormOf_alike (f := isDigit) (by decide) (by decide) hc
    rw [hdigit] at hletter
    exact absurd hletter (by decide)

/-- The options behind a row count. -/
theorem NoFrom.append_options {s p t : Text} (hs : NoFrom s) (hp : IsPercent p) (ht : IsTies t) :
    NoFrom (s ++ (p ++ t)) := by
  have hties : ∀ {s : Text}, NoFrom s → NoFrom (s ++ t) := by
    intro s hs
    cases ht with
    | absent => simpa using hs
    | present hg hw hg' hw' =>
      refine hs.append_gap hg.1 hg.noWord (.append_gap ?_ hg'.1 hg'.noWord ?_)
      · exact .of_isForm (by decide) (by decide) hw
      · exact .of_isForm (by decide) (by decide) hw'
  cases hp with
  | absent => exact hties hs
  | present hg hw =>
    rw [List.append_assoc]
    exact hs.append_gap hg.1 hg.noWord (hties (.of_isForm (by decide) (by decide) hw))

theorem noWord_open {g : Text} (hg : AllBlank g) : NoWord ('(' :: g) :=
  List.forall_mem_cons.mpr ⟨isWord_of_mark (by decide), noWord_of_blanks hg⟩

theorem noWord_close {g : Text} (hg : AllBlank g) : NoWord (g ++ [')']) :=
  List.forall_mem_append.mpr
    ⟨noWord_of_blanks hg, List.forall_mem_singleton.mpr (isWord_of_mark (by decide))⟩

theorem IsQuantifier.noFrom {u : Text} (h : IsQuantifier u) : NoFrom u := by
  cases h with
  | @plain k _ hk hw =>
    have hne : ∀ k ∈ plainQuantifiers, k ≠ "FROM".toList := by decide
    exact .of_isForm (List.mem_append_left _ hk) (hne k hk) hw
  | @top w g count percent ties hw hg hcount hpercent hties =>
    have htop : NoFrom w := .of_isForm (by decide) (by decide) hw
    rw [← List.append_assoc, ← List.append_assoc]
    refine NoFrom.append_options ?_ hpercent hties
    rw [List.append_assoc]
    cases hcount with
    | @bare digits hdigits =>
      -- without blanks between them `TOP` and its row count are one word
      by_cases hne : g = []
      · subst hne
        exact .of_keyword (by decide) (by decide) hw fun c hc => isWord_of_isDigit (hdigits.2 c hc)
      · exact htop.append_gap hne (noWord_of_blanks hg) hdigits.noFrom
    | @wrapped g₁ digits g₂ hg₁ hdigits hg₂ =>
      have hinner : NoFrom (digits ++ (g₂ ++ [')'])) := by
        simpa using hdigits.noFrom.append_gap (by simp) (noWord_close hg₂) .nil
      have hgap : NoWord (g ++ '(' :: g₁) :=
        List.forall_mem_append.mpr ⟨noWord_of_blanks hg, noWord_open hg₁⟩
      simpa using htop.append_gap (by simp) hgap hinner

theorem Quantifiers.noFrom_append {q s : Text} (hq : Quantifiers q) (hs : NoFrom s) :
    NoFrom (q ++ s) := by
  induction hq with
  | nil => exact hs
  | cons hu hg _ ih =>
    rw [List.append_assoc, List.append_assoc]
    exact hu.noFrom.append_gap hg.1 hg.noWord ih

theorem Name.noFrom (n : Name) : NoFrom n.text :=
  .of_word n.allWord (n.not_isForm (by decide))

theorem noFrom_marked (m : Marks) {w : Text} (hw : NoFrom w) :
    NoFrom (m.opening ++ (w ++ m.closing)) := by
  have hmarked : ∀ {c d : Char}, c ∈ punctuation → d ∈ punctuation →
      NoFrom (c :: (w ++ [d])) :=
    fun hc hd => NoFrom.nil.append_mark hc (hw.append_mark hd .nil)
  cases m with
  | bare => simpa [Marks.opening, Marks.closing] using hw
  | backQuotes | doubleQuotes | brackets => exact hmarked (by decide) (by decide)

theorem Wrapped.noFrom (p : Wrapped) : NoFrom p.render := noFrom_marked p.marks p.name.noFrom

theorem noFrom_qualifiersText {s : Text} (qs : List Wrapped) (hs : NoFrom s) :
    NoFrom (qualifiersText qs ++ s) := by
  induction qs with
  | nil => exact hs
  | cons q qs ih =>
    rw [qualifiersText, List.append_assoc]
    exact q.noFrom.append_mark (by decide) ih

theorem noFrom_wildcard : NoFrom wildcard := NoFrom.nil.append_mark (by decide) .nil

/-- A call is a word with a gap behind it; the blanks in its parentheses belong to the gaps. -/
theorem noFrom_callText (f : Name) {before inner after : Text} (hbefore : AllBlank before)
    (hinner : NoFrom inner) (hafter : AllBlank after) :
    NoFrom (callText f (before ++ (inner ++ after))) := by
  have hbehind : NoFrom (inner ++ (after ++ [')'])) := by
    simpa using hinner.append_gap (by simp) (noWord_close hafter) .nil
  simpa [callText] using f.noFrom.append_gap (by simp) (noWord_open hbefore) hbehind

theorem Core.noFrom (core : Core) : NoFrom core.render := by
  induction core with
  | column qs name => exact noFrom_qualifiersText qs name.noFrom
  | call f before lead argument after ih =>
    exact noFrom_callText f before.2 (lead.2.noFrom_append ih) after.2
  | overRows f before lead after =>
    exact noFrom_callText f before.2 (lead.2.noFrom_append noFrom_wildcard) after.2
  | overNothing f inside =>
    have hnil : AllBlank [] := by simp [AllBlank]
    simpa [Core.render] using noFrom_callText f inside.2 .nil hnil

theorem Alias.noFrom_append {s : Text} (hs : NoFrom s) (a : Alias) : NoFrom (s ++ a.render) := by
  have hname : ∀ {s : Text}, NoFrom s → NoFrom (s ++ (a.gap.1 ++ a.name.render)) :=
    fun hs => hs.append_gap a.gap.2.1 a.gap.2.noWord a.name.noFrom
  rw [Alias.render]
  split
  · exact hname hs
  · rename_i g w _
    exact hs.append_gap g.2.1 g.2.noWord (hname (.of_isForm (by decide) (by decide) w.2))

theorem Item.noFrom (i : Item) : NoFrom i.render := by
  cases i with
  | wholeRow lead qs => exact lead.2.noFrom_append (noFrom_qualifiersText qs noFrom_wildcard)
  | value lead core alias? =>
    refine lead.2.noFrom_append ?_
    cases alias? with
    | none => simpa [Item.body] using core.noFrom
    | some a => exact a.noFrom_append core.noFrom

/-! ## The ends of an item -/

theorem any_getLast?_append {p : Char → Bool} {s t : Text} (h : t.getLast?.any p = true) :
    (s ++ t).getLast?.any p = true := by
  cases hlast : t.getLast? with
  | none =>
    rw [hlast] at h
    cases h
  | some c =>
    rw [List.getLast?_append, hlast, Option.some_or]
    rwa [hlast] at h

theorem Wrapped.endsAliased (p : Wrapped) : p.render.getLast?.any endsAliased = true := by
  obtain ⟨marks, name⟩ := p
  cases marks with
  | bare =>
    obtain ⟨c, hc⟩ := Option.isSome_iff_exists.mp (List.getLast?_isSome.mpr name.ne_nil)
    have hword := name.allWord c (List.mem_of_getLast? hc)
    simp [Wrapped.render, Marks.opening, Marks.closing, hc, Projection.endsAliased, hword]
  | backQuotes | doubleQuotes | brackets =>
    refine any_getLast?_append (any_getLast?_append ?_)
    simp [Marks.closing, Projection.endsAliased, closesName]

theorem getLast?_callText (f : Name) (inner : Text) :
    (callText f inner).getLast? = some ')' := by
  rw [callText, ← List.cons_append, ← List.append_assoc, List.getLast?_concat]

theorem Core.endsAliased (core : Core) : core.render.getLast?.any endsAliased = true := by
  cases core with
  | column qs name => exact any_getLast?_append name.endsAliased
  | call | overRows | overNothing =>
    rw [Core.render, getLast?_callText]
    simp [Projection.endsAliased]

theorem Alias.endsAliased (a : Alias) : a.render.getLast?.any Projection.endsAliased = true := by
  rw [Alias.render]
  split
  · exact any_getLast?_append a.name.endsAliased
  · exact any_getLast?_append (any_getLast?_append (any_getLast?_append a.name.endsAliased))

theorem isBlank_of_endsAliased {c : Char} (h : endsAliased c = true) : isBlank c = false := by
  simp only [endsAliased, closesName, Bool.or_eq_true, beq_iff_eq] at h
  rcases h with (h | (rfl | rfl) | rfl) | rfl
  · exact isBlank_of_isWord h
  all_goals exact isBlank_of_mark (by decide)

theorem notBlank_of_endsAliased {s : Text} (h : s.getLast?.any endsAliased = true) :
    s.getLast?.any isBlank = false := by
  cases hlast : s.getLast? with
  | none => rfl
  | some c =>
    rw [hlast] at h
    exact isBlank_of_endsAliased h

/-- An item is not empty, and no blank stands at its ends. -/
theorem Item.trimmed (i : Item) : i.render ≠ [] ∧ Trimmed i.render := by
  have hfirst := (Clear.append i.lead.2 i.unled.clear).notBlank
  cases i with
  | wholeRow lead qs =>
    refine ⟨by simp [Item.render, Item.body, wildcard], hfirst, ?_⟩
    have hlast : (Item.wholeRow lead qs).render.getLast? = some '*' := by
      rw [Item.render, Item.body, wildcard, ← List.append_assoc, List.getLast?_concat]
    rw [hlast]
    exact isBlank_of_mark (by decide)
  | value lead core alias? =>
    have hlast : (Item.value lead core alias?).render.getLast?.any endsAliased = true := by
      refine any_getLast?_append ?_
      cases alias? with
      | none => simpa [Item.body] using core.endsAliased
      | some a => exact any_getLast?_append a.endsAliased
    refine ⟨?_, hfirst, notBlank_of_endsAliased hlast⟩
    intro hnil
    rw [hnil] at hlast
    cases hlast

end QueryGate.Projection
