import QueryGate.Draft.Clean
import QueryGate.Proofs.Text.Lowering
import QueryGate.Proofs.Text.Occurrence
import QueryGate.Proofs.Text.Words

/-! # Cleaned statements

Removing the fences of a text from left to right leaves no fence, although what stood on both sides
of one comes together: of a run of back quotes the fences are taken from the front, so what is left
of it, at most two of them, stands in front of another character that stays
(`not_infix_removeFences`).  The tag and the line feed that go with a fence stand behind all back
quotes of its run, so they join nothing either.

A cleaned statement therefore has no fence, no blanks at its ends and no separator at its end
(`isClean_clean`), and such a text is left as it is (`IsClean.clean_eq`).  A fence around it is
taken off with all that may stand between them (`clean_wrap`). -/

namespace QueryGate.Draft

open Text

/-- Three back quotes. -/
def fence : Text := "```".toList

/-- A statement as cleaning leaves it. -/
structure IsClean (s : Text) : Prop where
  unfenced : ¬ fence <:+: s
  trimmed : Trimmed s
  unseparated : s.getLast? ≠ some ';'

/-! ## Fences -/

theorem removeFences_fence (s : Text) :
    removeFences (fence ++ s) = removeFences (dropFenceTag s) := by
  rw [← removeFences]
  rfl

/-- Where no fence begins, a character stays. -/
theorem removeFences_cons {c : Char} {s : Text} (h : ¬ fence <+: c :: s) :
    removeFences (c :: s) = c :: removeFences s := by
  rw [removeFences]
  rintro s' rfl rfl
  exact h ⟨s', rfl⟩

/-- The text begins with a fence, or else its first character stays. -/
theorem removeFences_cases (s : Text) :
    (∃ s', s = fence ++ s') ∨ ¬ fence <+: s := by
  by_cases h : fence <+: s
  · obtain ⟨s', hs'⟩ := h
    exact .inl ⟨s', hs'.symm⟩
  · exact .inr h

/-- Back quotes in front of what is left were there before, unless a fence stood in front: where a
fence begins later, the back quote in front of it would begin one. -/
theorem backQuotes_of_removeFences {n : Nat} {s : Text} (h : ¬ fence <+: s)
    (hquotes : List.replicate n '`' <+: removeFences s) : List.replicate n '`' <+: s := by
  induction n generalizing s with
  | zero => exact List.nil_prefix
  | succ n ih =>
    cases s with
    | nil => simp [removeFences, List.replicate_succ] at hquotes
    | cons c s =>
      rw [removeFences_cons h, List.replicate_succ, List.cons_prefix_cons] at hquotes
      obtain ⟨rfl, hquotes⟩ := hquotes
      have hlater : ¬ fence <+: s := by
        rintro ⟨s', rfl⟩
        exact h ⟨'`' :: s', rfl⟩
      rw [List.replicate_succ, List.cons_prefix_cons]
      exact ⟨rfl, ih hlater hquotes⟩

/-- **No fence is left.**  By induction on the text, a fence at a time or a character at a time. -/
theorem not_infix_removeFences (s : Text) : ¬ fence <:+: removeFences s := by
  induction hn : s.length using Nat.strong_induction_on generalizing s with
  | h n ih =>
    subst hn
    rcases removeFences_cases s with ⟨s', rfl⟩ | h
    · rw [removeFences_fence]
      refine ih _ ?_ _ rfl
      have hle := length_dropFenceTag_le s'
      have hfence : fence.length = 3 := rfl
      rw [List.length_append]
      omega
    · cases s with
      | nil => simp [removeFences, fence]
      | cons c s =>
        rw [removeFences_cons h, List.infix_cons_iff, ← removeFences_cons h]
        rintro (hfirst | hlater)
        · exact h (backQuotes_of_removeFences (n := 3) h hfirst)
        · exact ih s.length (by simp) s rfl hlater

/-- A text without fences stays as it is. -/
theorem removeFences_eq_self {s : Text} (h : ¬ fence <:+: s) : removeFences s = s := by
  induction s with
  | nil => simp [removeFences]
  | cons c s ih =>
    rw [List.infix_cons_iff, not_or] at h
    rw [removeFences_cons h.1, ih h.2]

/-- A fence does not reach over another character. -/
theorem not_prefix_append_cons {s t : Text} {c : Char} (hc : c ≠ '`') (hs : ¬ fence <:+: s) :
    ¬ fence <+: s ++ c :: t := by
  have hmem : c ∉ fence := by
    intro h
    exact hc (List.eq_of_mem_replicate (n := 3) h)
  rintro ⟨rest, hrest⟩
  rcases append_cons_eq_append_cases (x := []) hmem hrest.symm with ⟨y', hy', -⟩ | ⟨x', -, hx'⟩
  · exact hs ⟨[], y', by rw [hy']; simp⟩
  · simp at hx'

/-- A text without fences stays as it is in front of another character, whatever follows. -/
theorem removeFences_append_cons {s : Text} {c : Char} (hc : c ≠ '`') (hs : ¬ fence <:+: s)
    (t : Text) : removeFences (s ++ c :: t) = s ++ c :: removeFences t := by
  induction s with
  | nil => exact removeFences_cons (not_prefix_append_cons (s := []) hc hs)
  | cons d s ih =>
    have hfront : ¬ fence <+: d :: (s ++ c :: t) := not_prefix_append_cons (s := d :: s) hc hs
    rw [List.infix_cons_iff, not_or] at hs
    rw [List.cons_append, removeFences_cons hfront, ih hs.2, List.cons_append]

/-- So does a text without back quotes. -/
theorem removeFences_append {s : Text} (hs : '`' ∉ s) (t : Text) :
    removeFences (s ++ t) = s ++ removeFences t := by
  induction s with
  | nil => rfl
  | cons c s ih =>
    obtain ⟨hc, hs⟩ := not_or.mp (List.mem_cons.not.mp hs)
    have hnil : ¬ fence <:+: [] := by simp [fence]
    rw [List.cons_append, ← List.nil_append (c :: (s ++ t)),
      removeFences_append_cons (Ne.symm hc) hnil, ih hs]
    rfl

/-! ## What cleaning leaves -/

theorem isTrailing_of_isBlank {c : Char} (h : isBlank c = true) : isTrailing c = true := by
  rw [isTrailing, h, Bool.or_true]

/-- **What cleaning leaves is clean.** -/
theorem isClean_clean (s : Text) : IsClean (clean s) := by
  have htrimmed := trimmed_trim (removeFences (trim s))
  have hfences : ¬ fence <:+: trim (removeFences (trim s)) :=
    fun h => not_infix_removeFences _ (h.trans (isInfix_trim _))
  have hlast : (clean s).getLast?.any isTrailing = false := getLast?_dropEndWhile isTrailing _
  obtain ⟨g, -, hg⟩ := exists_dropEndWhile isTrailing (trim (removeFences (trim s)))
  rw [← clean] at hg
  rw [hg] at htrimmed hfences
  refine ⟨fun h => hfences (h.trans (List.prefix_append _ g).isInfix), ⟨?_, ?_⟩, ?_⟩
  · -- the text begins as it did before its end was taken off
    cases hclean : clean s with
    | nil => rfl
    | cons c t => simpa [hclean] using htrimmed.first
  · cases hend : (clean s).getLast? with
    | none => rfl
    | some c =>
      rw [hend, Option.any_some] at hlast
      rw [Option.any_some, Bool.eq_false_iff]
      intro hblank
      rw [isTrailing_of_isBlank hblank] at hlast
      cases hlast
  · intro hend
    rw [hend] at hlast
    cases hlast

/-- No separator and no blank stands at the end. -/
theorem IsClean.last {s : Text} (h : IsClean s) : s.getLast?.any isTrailing = false := by
  have hblank := h.trimmed.last
  have hseparator := h.unseparated
  cases hend : s.getLast? with
  | none => rfl
  | some c =>
    rw [hend, Option.any_some] at hblank
    have hc : c ≠ ';' := fun hc => hseparator (by rw [hend, hc])
    rw [Option.any_some, isTrailing, hblank, Bool.or_false]
    exact beq_false_of_ne hc

/-- **A clean text is left as it is.** -/
theorem IsClean.clean_eq {s : Text} (h : IsClean s) : clean s = s := by
  rw [clean, h.trimmed.trim_eq, removeFences_eq_self h.unfenced, h.trimmed.trim_eq,
    dropEndWhile_eq_self h.last]

theorem clean_eq_self_iff {s : Text} : clean s = s ↔ IsClean s :=
  ⟨fun h => h ▸ isClean_clean s, IsClean.clean_eq⟩

/-! ## Wrapping -/

/-- What a statement is wrapped in: a fence, with the language perhaps, and a line break; behind the
statement perhaps separators, a line break and a fence; blanks around all of it.  For a line break
any blanks may stand. -/
structure Wrapping where
  before : Text
  tag : Text
  lead : Text
  behind : Text
  gap : Text
  after : Text
  before_blank : AllBlank before
  tag_form : tag = [] ∨ IsForm "sql".toList tag
  lead_blanks : IsBlanks lead
  behind_trailing : ∀ c ∈ behind, isTrailing c = true
  gap_blanks : IsBlanks gap
  after_blank : AllBlank after

/-- A statement between its fences. -/
def Wrapping.fenced (w : Wrapping) (b : Text) : Text :=
  fence ++ (w.tag ++ (w.lead ++ (b ++ (w.behind ++ (w.gap ++ fence)))))

/-- A statement in its wrapping. -/
def Wrapping.wrap (w : Wrapping) (b : Text) : Text := w.before ++ (w.fenced b ++ w.after)

theorem ne_backQuote_of_isTrailing {c : Char} (h : isTrailing c = true) : c ≠ '`' := by
  rintro rfl
  revert h
  decide

theorem backQuote_not_mem {s : Text} (h : ∀ c ∈ s, isTrailing c = true) : '`' ∉ s :=
  fun hmem => ne_backQuote_of_isTrailing (h _ hmem) rfl

/-- Behind a fence its tag is dropped, and of the blanks behind that at most one. -/
theorem exists_dropFenceTag {tag lead : Text} (htag : tag = [] ∨ IsForm "sql".toList tag)
    (hlead : IsBlanks lead) (s : Text) :
    ∃ lead', AllBlank lead' ∧ dropFenceTag (tag ++ (lead ++ s)) = lead' ++ s := by
  have hdrop : (dropKeyword? "sql".toList (tag ++ (lead ++ s))).getD (tag ++ (lead ++ s)) =
      lead ++ s := by
    rcases htag with rfl | htag
    · cases hkeyword : dropKeyword? "sql".toList ([] ++ (lead ++ s)) with
      | none => rfl
      | some rest =>
        -- the keyword does not begin with a blank
        obtain ⟨w, hw, hform⟩ := dropKeyword?_eq_some_iff.mp hkeyword
        obtain ⟨c, hc, hblank⟩ := hlead.head? (s := s)
        have hne : w ≠ [] := hform.ne_nil (by decide)
        have hword : isWord c = true := by
          refine hform.allWord (by decide) c (List.mem_of_mem_head? ?_)
          rw [← List.head?_append_of_ne_nil w hne, ← hw]
          exact hc
        rw [isWord_of_isBlank hblank] at hword
        cases hword
    · rw [dropKeyword?_eq_some_iff.mpr ⟨tag, rfl, htag⟩, Option.getD_some]
  rw [dropFenceTag, hdrop]
  split
  · rename_i rest hfeed
    cases lead with
    | nil => exact absurd rfl hlead.1
    | cons c lead =>
      obtain ⟨-, rfl⟩ := List.cons.inj hfeed
      exact ⟨lead, fun x hx => hlead.2 x (List.mem_cons_of_mem c hx), rfl⟩
  · exact ⟨lead, hlead.2, rfl⟩

/-- Blanks in front of a clean text and separators and blanks behind it are taken off. -/
theorem IsClean.dropEndWhile_trim {b : Text} (hb : IsClean b) {g t : Text} (hg : AllBlank g)
    (ht : ∀ c ∈ t, isTrailing c = true) : dropEndWhile isTrailing (trim (g ++ (b ++ t))) = b := by
  obtain ⟨g', hg', hright⟩ := exists_trimRight (trimLeft (b ++ t))
  have hblanks : ∀ c ∈ g', isTrailing c = true := fun c hc => isTrailing_of_isBlank (hg' c hc)
  rw [trim_append_left hg, trim, ← dropEndWhile_append hblanks, ← hright]
  cases b with
  | nil =>
    -- nothing but separators and blanks is left
    have hall : ∀ c ∈ trimLeft t, isTrailing c = true :=
      fun c hc => ht c ((List.dropWhile_suffix isBlank).subset hc)
    exact dropEndWhile_append (s := []) hall
  | cons c b =>
    have hfirst : (c :: b ++ t).head?.any isBlank = false := hb.trimmed.first
    rw [trimLeft_eq_self hfirst, dropEndWhile_append ht, dropEndWhile_eq_self hb.last]

theorem Wrapping.trim_wrap (w : Wrapping) (b : Text) : trim (w.wrap b) = w.fenced b := by
  have htrimmed : Trimmed (w.fenced b) := by
    refine ⟨rfl, ?_⟩
    have hfence : fence.getLast? = some '`' := rfl
    simp only [fenced, List.getLast?_append, hfence, Option.some_or]
    decide
  rw [wrap, trim_append_left w.before_blank, trim_append_right w.after_blank, htrimmed.trim_eq]

/-- Both fences are removed, and blanks and separators are left of what stood around the
statement. -/
theorem Wrapping.exists_removeFences (w : Wrapping) {b : Text} (hb : ¬ fence <:+: b) :
    ∃ g t, AllBlank g ∧ (∀ c ∈ t, isTrailing c = true) ∧
      removeFences (w.fenced b) = g ++ (b ++ t) := by
  obtain ⟨g, hg, htag⟩ := exists_dropFenceTag w.tag_form w.lead_blanks
    (b ++ (w.behind ++ (w.gap ++ fence)))
  have hblank : ∀ c ∈ g, isTrailing c = true := fun c hc => isTrailing_of_isBlank (hg c hc)
  have htail : ∀ c ∈ w.behind ++ w.gap, isTrailing c = true := by
    refine List.forall_mem_append.mpr ⟨w.behind_trailing, fun c hc => ?_⟩
    exact isTrailing_of_isBlank (w.gap_blanks.2 c hc)
  have hend : removeFences fence = [] := by
    simpa [removeFences, dropFenceTag, dropKeyword?] using removeFences_fence []
  refine ⟨g, w.behind ++ w.gap, hg, htail, ?_⟩
  rw [fenced, removeFences_fence, htag, removeFences_append (backQuote_not_mem hblank),
    ← List.append_assoc w.behind]
  -- a blank at least stands between the statement and the last fence
  cases hcons : w.behind ++ w.gap with
  | nil => exact absurd (List.append_eq_nil_iff.mp hcons).2 w.gap_blanks.1
  | cons c t =>
    rw [hcons] at htail
    obtain ⟨hc, ht⟩ := List.forall_mem_cons.mp htail
    rw [List.cons_append, removeFences_append_cons (ne_backQuote_of_isTrailing hc) hb,
      removeFences_append (backQuote_not_mem ht), hend, List.append_nil]

/-- **A wrapping is taken off.** -/
theorem IsClean.clean_wrap {b : Text} (hb : IsClean b) (w : Wrapping) : clean (w.wrap b) = b := by
  obtain ⟨g, t, hg, ht, hfences⟩ := w.exists_removeFences hb.unfenced
  rw [clean, w.trim_wrap, hfences, hb.dropEndWhile_trim hg ht]

/-- **Cleaning gives a normal form.**  What it leaves has no fence, no blanks at its ends and no
separator at its end, and cleaning it again changes nothing; just such texts are left as they are.
One of them in a wrapping of fences, with the language in any letter case, and of separators and
blanks, is what cleaning leaves of the whole. -/
theorem clean_normal :
    (∀ s, IsClean (clean s) ∧ clean (clean s) = clean s) ∧
      (∀ b, clean b = b ↔ IsClean b) ∧
      ∀ b, clean b = b → ∀ w : Wrapping, clean (w.wrap b) = b :=
  ⟨fun s => ⟨isClean_clean s, (isClean_clean s).clean_eq⟩, fun _ => clean_eq_self_iff,
    fun _ hb w => (clean_eq_self_iff.mp hb).clean_wrap w⟩

/-- A fence with its language in mixed letter case, and separators in front of the other one. -/
def Sample.wrapping : Wrapping where
  before := " \n".toList
  tag := "sQl".toList
  lead := "\n".toList
  behind := "; ;".toList
  gap := "\r\n".toList
  after := "\n".toList
  before_blank := by decide
  tag_form := .inr (.cons (by decide) (.cons (by decide) (.cons (by decide) .nil)))
  lead_blanks := by decide
  behind_trailing := List.all_eq_true.mp rfl
  gap_blanks := by decide
  after_blank := by decide

theorem clean_normal_backQuoted :
    clean "SELECT ``id`` FROM `users`".toList = "SELECT ``id`` FROM `users`".toList ∧
      clean " \n```sQl\nSELECT ``id`` FROM `users`; ;\r\n```\n".toList =
        "SELECT ``id`` FROM `users`".toList := by
  have hclean : clean "SELECT ``id`` FROM `users`".toList = "SELECT ``id`` FROM `users`".toList :=
    (clean_normal.2.1 _).mpr ⟨by decide, ⟨by decide, by decide⟩, by decide⟩
  exact ⟨hclean, clean_normal.2.2 _ hclean Sample.wrapping⟩

end QueryGate.Draft
