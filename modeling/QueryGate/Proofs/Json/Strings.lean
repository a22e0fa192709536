import QueryGate.Json.Parser
import QueryGate.Json.Printer
import QueryGate.Proofs.Text.Lowering
import Mathlib.Tactic.IntervalCases

/-! # Reading a written string

Every character of a text is written as itself, by a short escape, or by its UTF-16 units, and is
read in one step of the string reader (`stringFrom?_escapeChar`).  So a text in quotes is read as
itself, whatever follows it (`string?_quote`).  What is written is printable ASCII. -/

namespace QueryGate.Json

open Text

/-! ## Units -/

theorem hexValue?_hexDigit {d : Nat} (h : d < 16) : hexValue? (hexDigit d) = some d := by
  interval_cases d <;> decide

/-- A written unit is read behind the letter of its escape. -/
theorem escapeUnit_eq {n : Nat} (h : n < 0x10000) :
    ∃ digits, escapeUnit n = '\\' :: 'u' :: digits ∧ ∀ s, unit? (digits ++ s) = some (n, s) := by
  refine ⟨_, rfl, ?_⟩
  intro s
  simp only [List.cons_append, List.nil_append, unit?,
    hexValue?_hexDigit (Nat.mod_lt _ (by decide))]
  congr 2
  omega

theorem lowUnit?_escapeUnit {n : Nat} (h : 0xDC00 ≤ n) (h' : n < 0xE000) (s : Text) :
    lowUnit? (escapeUnit n ++ s) = some (n, s) := by
  obtain ⟨digits, htext, hread⟩ := escapeUnit_eq (show n < 0x10000 by omega)
  have hlead : dropLead? "\\u".toList (escapeUnit n ++ s) = some (digits ++ s) := by
    rw [htext]
    exact dropLead?_append "\\u".toList (digits ++ s)
  rw [lowUnit?, hlead, Option.bind_some, hread]
  simp [isLowUnit, h, h']

theorem toNat_lt (c : Char) : c.toNat < 0x110000 := by
  have h : c.toNat.isValidChar := c.valid
  unfold Nat.isValidChar at h
  omega

/-- No character is half of a pair. -/
theorem not_unit_of_pair (c : Char) : c.toNat < 0xD800 ∨ 0xE000 ≤ c.toNat := by
  have h : c.toNat.isValidChar := c.valid
  unfold Nat.isValidChar at h
  omega

/-- A character written by one unit. -/
theorem escape?_unit (r : Reading) {c : Char} (h : c.toNat < 0x10000) (s : Text) :
    ∃ behind, escapeUnit c.toNat = '\\' :: behind ∧
      escape? r (behind ++ s) = some (.char c, s) := by
  obtain ⟨digits, htext, hread⟩ := escapeUnit_eq h
  refine ⟨'u' :: digits, htext, ?_⟩
  have hhigh : isHighUnit c.toNat = false := by
    rcases not_unit_of_pair c with hc | hc
    · simp [isHighUnit, hc]
    · simp only [isHighUnit, Bool.and_eq_false_iff, decide_eq_false_iff_not]
      omega
  have hlow : isLowUnit c.toNat = false := by
    simp only [isLowUnit, Bool.and_eq_false_iff, decide_eq_false_iff_not]
    rcases not_unit_of_pair c with hc | hc
    · omega
    · omega
  simp only [List.cons_append, escape?, unicodeEscape?, hread, hhigh, hlow, Bool.false_eq_true,
    if_false, Char.ofNat_toNat]

/-- A character written by a pair of units. -/
theorem escape?_pair (r : Reading) {c : Char} (h : 0x10000 ≤ c.toNat) (s : Text) :
    ∃ behind, escapeUnit (0xD800 + (c.toNat - 0x10000) / 0x400) = '\\' :: behind ∧
      escape? r (behind ++ (escapeUnit (0xDC00 + (c.toNat - 0x10000) % 0x400) ++ s)) =
        some (.char c, s) := by
  have hlast := toNat_lt c
  obtain ⟨digits, htext, hread⟩ :=
    escapeUnit_eq (show 0xD800 + (c.toNat - 0x10000) / 0x400 < 0x10000 by omega)
  refine ⟨'u' :: digits, htext, ?_⟩
  have hhigh : isHighUnit (0xD800 + (c.toNat - 0x10000) / 0x400) = true := by
    simp only [isHighUnit, Bool.and_eq_true, decide_eq_true_eq]
    omega
  have hvalue : 0x10000 + (0xD800 + (c.toNat - 0x10000) / 0x400 - 0xD800) * 0x400 +
      (0xDC00 + (c.toNat - 0x10000) % 0x400 - 0xDC00) = c.toNat := by
    omega
  simp only [List.cons_append, escape?, unicodeEscape?, hread, hhigh, if_true,
    lowUnit?_escapeUnit (show 0xDC00 ≤ 0xDC00 + (c.toNat - 0x10000) % 0x400 by omega)
      (show 0xDC00 + (c.toNat - 0x10000) % 0x400 < 0xE000 by omega), hvalue, Char.ofNat_toNat]

/-! ## Strings -/

theorem stringFrom?_escape {r : Reading} {fuel : Nat} {read : List StringPart} {s rest : Text}
    {part : StringPart} (h : escape? r s = some (part, rest)) :
    stringFrom? r (fuel + 1) read ('\\' :: s) = stringFrom? r fuel (part :: read) rest := by
  rw [stringFrom?, if_neg (by decide), if_pos rfl, h]

/-- A written character is read in one step. -/
theorem stringFrom?_escapeChar (r : Reading) (fuel : Nat) (read : List StringPart) (c : Char)
    (s : Text) :
    stringFrom? r (fuel + 1) read (escapeChar c ++ s) = stringFrom? r fuel (.char c :: read) s := by
  unfold escapeChar
  split
  · exact stringFrom?_escape rfl
  · exact stringFrom?_escape rfl
  · exact stringFrom?_escape rfl
  · exact stringFrom?_escape rfl
  · exact stringFrom?_escape rfl
  -- two more short escapes, then the character itself, one unit, or a pair of them
  · rename_i hquote hslash _ _ _
    simp only
    split
    · rename_i hback
      obtain rfl := eq_of_toNat_eq hback
      exact stringFrom?_escape rfl
    · split
      · rename_i hfeed
        obtain rfl := eq_of_toNat_eq hfeed
        exact stringFrom?_escape rfl
      · split
        · rename_i hplain
          rw [List.singleton_append, stringFrom?, if_neg hquote, if_neg hslash, if_neg (by omega)]
        · split
          · rename_i hunit
            obtain ⟨behind, htext, hread⟩ := escape?_unit r hunit s
            rw [htext, List.cons_append]
            exact stringFrom?_escape hread
          · rename_i hpair
            obtain ⟨behind, htext, hread⟩ := escape?_pair r (Nat.le_of_not_lt hpair) s
            rw [htext, List.append_assoc, List.cons_append]
            exact stringFrom?_escape hread

theorem textOfParts?_map_char (s : Text) : textOfParts? (s.map .char) = some s := by
  induction s with
  | nil => rfl
  | cons c s ih => rw [List.map_cons, textOfParts?, ih, Option.map_some]

theorem stringFrom?_text (r : Reading) {fuel : Nat} {s : Text} (h : s.length < fuel)
    (read rest : Text) :
    stringFrom? r fuel ((read.map .char).reverse) (s.flatMap escapeChar ++ '"' :: rest) =
      some (.text (read ++ s), rest) := by
  induction s generalizing fuel read with
  | nil =>
    obtain ⟨fuel, rfl⟩ : ∃ f, fuel = f + 1 := ⟨fuel - 1, by simp at h; omega⟩
    rw [List.flatMap_nil, List.nil_append, stringFrom?, if_pos rfl, List.reverse_reverse,
      stringOfParts, textOfParts?_map_char, List.append_nil]
  | cons c s ih =>
    obtain ⟨fuel, rfl⟩ : ∃ f, fuel = f + 1 := ⟨fuel - 1, by simp at h; omega⟩
    rw [List.flatMap_cons, List.append_assoc, stringFrom?_escapeChar]
    have hlength : s.length < fuel := by simpa using h
    have hread := ih hlength (read ++ [c])
    simpa using hread

theorem escapeChar_ne_nil (c : Char) : escapeChar c ≠ [] := by
  unfold escapeChar
  split <;> try simp
  split
  · simp
  · split
    · simp
    · split
      · simp
      · split <;> simp [escapeUnit]

theorem length_le_flatMap_escapeChar (s : Text) : s.length ≤ (s.flatMap escapeChar).length := by
  induction s with
  | nil => simp
  | cons c s ih =>
    have hpos : 0 < (escapeChar c).length := List.length_pos_iff.mpr (escapeChar_ne_nil c)
    rw [List.flatMap_cons, List.length_append, List.length_cons]
    omega

/-- A text in quotes is read as itself. -/
theorem string?_quote (r : Reading) (s rest : Text) :
    ∃ behind, quote s ++ rest = '"' :: behind ∧ string? r behind = some (.text s, rest) := by
  refine ⟨s.flatMap escapeChar ++ '"' :: rest, by simp [quote], ?_⟩
  have hlength : s.length < (s.flatMap escapeChar ++ '"' :: rest).length + 1 := by
    have hescaped := length_le_flatMap_escapeChar s
    rw [List.length_append]
    omega
  have hread := stringFrom?_text r hlength [] rest
  simpa [string?] using hread

/-! ## What is written -/

/-- A printable character of ASCII. -/
def isPlain (c : Char) : Bool := decide (0x20 ≤ c.toNat) && decide (c.toNat < 0x7F)

theorem isPlain_hexDigit {d : Nat} (h : d < 16) : isPlain (hexDigit d) = true := by
  interval_cases d <;> decide

theorem isPlain_escapeUnit (n : Nat) : ∀ c ∈ escapeUnit n, isPlain c = true := by
  simp only [escapeUnit, List.forall_mem_cons]
  exact ⟨by decide, by decide, isPlain_hexDigit (Nat.mod_lt _ (by decide)),
    isPlain_hexDigit (Nat.mod_lt _ (by decide)), isPlain_hexDigit (Nat.mod_lt _ (by decide)),
    isPlain_hexDigit (Nat.mod_lt _ (by decide)), by simp⟩

theorem isPlain_of_all {s : Text} (h : s.all isPlain = true) : ∀ c ∈ s, isPlain c = true :=
  List.all_eq_true.mp h

theorem isPlain_escapeChar (c : Char) : ∀ x ∈ escapeChar c, isPlain x = true := by
  unfold escapeChar
  split
  · exact isPlain_of_all rfl
  · exact isPlain_of_all rfl
  · exact isPlain_of_all rfl
  · exact isPlain_of_all rfl
  · exact isPlain_of_all rfl
  · simp only
    split
    · exact isPlain_of_all rfl
    · split
      · exact isPlain_of_all rfl
      · split
        · rename_i hplain
          simp [isPlain, hplain.1, hplain.2]
        · split
          · exact isPlain_escapeUnit _
          · exact List.forall_mem_append.mpr ⟨isPlain_escapeUnit _, isPlain_escapeUnit _⟩

theorem isPlain_unitText (unit : UInt16) : ∀ x ∈ unitText unit, isPlain x = true := by
  simp only [unitText]
  split
  · exact isPlain_escapeChar _
  · exact isPlain_escapeUnit _

theorem isPlain_quoteString (s : JsonString) : ∀ c ∈ quoteString s, isPlain c = true := by
  have hmark : isPlain '"' = true := by decide
  cases s with
  | text s =>
    simp only [quoteString, quote, List.cons_append, List.forall_mem_cons, List.forall_mem_append]
    refine ⟨hmark, fun x hx => ?_, hmark, by simp⟩
    obtain ⟨c, -, hc⟩ := List.mem_flatMap.mp hx
    exact isPlain_escapeChar c x hc
  | broken units =>
    simp only [quoteString, List.cons_append, List.forall_mem_cons, List.forall_mem_append]
    refine ⟨hmark, fun x hx => ?_, hmark, by simp⟩
    obtain ⟨unit, -, hunit⟩ := List.mem_flatMap.mp hx
    exact isPlain_unitText unit x hunit

end QueryGate.Json
