import QueryGate.Text.Utf8
import QueryGate.Proofs.Text.Lowering
import QueryGate.Proofs.Text.Occurrence

/-! # UTF-8 around ASCII

A character is either one byte below 128 or some bytes that are not (`ofUtf8?_cons_cases`).  So bytes
in front of an ASCII byte stand for a text of their own (`split_of_ofUtf8?_append`), and bytes that
stand for ASCII are that text byte by byte. -/

namespace QueryGate.Text

/-! ## The first character -/

theorem le_of_low? {b : UInt8} {n : Nat} (h : low? b = some n) : 0x80 ≤ b.toNat := by
  rw [low?] at h
  split at h
  · rename_i hrange
    exact hrange.1
  · cases h

theorem le_of_codePoint? {least n : Nat} {c : Char} (h : codePoint? least n = some c) :
    least ≤ c.toNat := by
  rw [codePoint?] at h
  split at h
  · rename_i hrange
    obtain rfl := Option.some.inj h
    have hvalid : n.isValidChar := by
      unfold Nat.isValidChar
      omega
    rw [toNat_ofNat_of_isValidChar hvalid]
    exact hrange.1
  · cases h

variable {a : UInt8} {bytes rest : List UInt8} {s : Text}

/-- A text read from bytes begins with the character of an ASCII byte, or with one that is not ASCII
and takes no ASCII bytes. -/
theorem ofUtf8?_cons_cases (h : ofUtf8? (a :: bytes) = some s) :
    (a.toNat < 0x80 ∧ ∃ t, ofUtf8? bytes = some t ∧ s = Char.ofNat a.toNat :: t) ∨
      ∃ more left c t, bytes = more ++ left ∧ (∀ b ∈ more, 0x80 ≤ b.toNat) ∧ 0x80 ≤ c.toNat ∧
        ofUtf8? left = some t ∧ s = c :: t := by
  rw [ofUtf8?.eq_def] at h
  simp only at h
  split at h
  · rename_i hascii
    obtain ⟨t, ht, rfl⟩ := Option.map_eq_some_iff.mp h
    exact .inl ⟨hascii, t, ht, rfl⟩
  · refine .inr ?_
    split at h
    · cases h
    · split at h
      · split at h
        · rename_i b left
          split at h
          · rename_i hb
            split at h
            · rename_i c hc
              obtain ⟨t, ht, rfl⟩ := Option.map_eq_some_iff.mp h
              exact ⟨[b], left, c, t, rfl, by simpa using le_of_low? hb, le_of_codePoint? hc, ht, rfl⟩
            · cases h
          · cases h
        · cases h
      · split at h
        · split at h
          · rename_i b c left
            split at h
            · rename_i hb hc
              split at h
              · rename_i d hd
                obtain ⟨t, ht, rfl⟩ := Option.map_eq_some_iff.mp h
                exact ⟨[b, c], left, d, t, rfl, by simpa using ⟨le_of_low? hb, le_of_low? hc⟩,
                  le_trans (by decide) (le_of_codePoint? hd), ht, rfl⟩
              · cases h
            · cases h
          · cases h
        · split at h
          · split at h
            · rename_i b c d left
              split at h
              · rename_i hb hc hd
                split at h
                · rename_i e he
                  obtain ⟨t, ht, rfl⟩ := Option.map_eq_some_iff.mp h
                  exact ⟨[b, c, d], left, e, t, rfl,
                    by simpa using ⟨le_of_low? hb, le_of_low? hc, le_of_low? hd⟩,
                    le_trans (by decide) (le_of_codePoint? he), ht, rfl⟩
                · cases h
              · cases h
            · cases h
          · cases h

/-! ## ASCII -/

theorem toUtf8_cons (c : Char) (s : Text) : toUtf8 (c :: s) = utf8Char c ++ toUtf8 s :=
  List.flatMap_cons

theorem utf8Char_ascii {c : Char} (hc : c.toNat < 0x80) : utf8Char c = [UInt8.ofNat c.toNat] := by
  rw [utf8Char, if_pos hc]

/-- An ASCII byte is the byte of its character. -/
theorem utf8Char_ofNat (ha : a.toNat < 0x80) : utf8Char (Char.ofNat a.toNat) = [a] := by
  have htoNat : (Char.ofNat a.toNat).toNat = a.toNat :=
    toNat_ofNat_of_isValidChar (.inl (by omega))
  rw [utf8Char_ascii (by omega), htoNat, UInt8.ofNat_toNat]

/-- An ASCII text is read from its bytes, whatever follows them. -/
theorem ofUtf8?_toUtf8_append {r : Text} (hr : ∀ c ∈ r, c.toNat < 0x80) (rest : List UInt8) :
    ofUtf8? (toUtf8 r ++ rest) = (ofUtf8? rest).map (r ++ ·) := by
  induction r with
  | nil => simp [toUtf8]
  | cons c r ih =>
    obtain ⟨hc, hr⟩ := List.forall_mem_cons.mp hr
    have hbyte : (UInt8.ofNat c.toNat).toNat = c.toNat := by
      rw [UInt8.toNat_ofNat']
      omega
    rw [toUtf8_cons, utf8Char_ascii hc, List.append_assoc, List.singleton_append, ofUtf8?.eq_def]
    simp only
    rw [hbyte, if_pos hc, ih hr, Char.ofNat_toNat, Option.map_map]
    rfl

theorem ofUtf8?_toUtf8 {r : Text} (hr : ∀ c ∈ r, c.toNat < 0x80) :
    ofUtf8? (toUtf8 r) = some r := by
  have hread := ofUtf8?_toUtf8_append hr []
  rwa [List.append_nil, ofUtf8?, Option.map_some, List.append_nil] at hread

/-- Bytes in front of an ASCII byte stand for a text of their own; if this is ASCII, then they are its
bytes. -/
theorem split_of_ofUtf8?_append {front : List UInt8} (ha : a.toNat < 0x80)
    (h : ofUtf8? (front ++ a :: rest) = some s) :
    ∃ r t, s = r ++ t ∧ ofUtf8? (a :: rest) = some t ∧
      ((∀ c ∈ r, c.toNat < 0x80) → front = toUtf8 r) := by
  induction hn : front.length using Nat.strongRecOn generalizing front s with
  | ind n ih =>
    subst hn
    cases front with
    | nil => exact ⟨[], s, rfl, h, fun _ => rfl⟩
    | cons b front =>
      rw [List.cons_append] at h
      rcases ofUtf8?_cons_cases h with
        ⟨hb, t, ht, rfl⟩ | ⟨more, left, c, t, hbytes, hmore, hc, ht, rfl⟩
      · obtain ⟨r, t, rfl, hrest, hfront⟩ := ih front.length (by simp) ht rfl
        refine ⟨Char.ofNat b.toNat :: r, t, rfl, hrest, fun hr => ?_⟩
        obtain ⟨-, hr⟩ := List.forall_mem_cons.mp hr
        rw [toUtf8_cons, utf8Char_ofNat hb, ← hfront hr]
        rfl
      · -- the bytes of the character end in front of the ASCII byte
        have hnotMem : a ∉ more := by
          intro hmem
          have hle := hmore a hmem
          omega
        have hsplit : front ++ a :: rest = [] ++ (more ++ left) := hbytes
        rcases append_cons_eq_append_cases hnotMem hsplit with ⟨behind, rfl, rfl⟩ | ⟨x, -, hx⟩
        · have hshorter : behind.length < (b :: (more ++ behind)).length := by
            rw [List.length_cons, List.length_append]
            omega
          obtain ⟨r, t, rfl, hrest, -⟩ := ih behind.length hshorter ht rfl
          refine ⟨c :: r, t, rfl, hrest, fun hr => ?_⟩
          have hascii := hr c List.mem_cons_self
          omega
        · simp at hx

end QueryGate.Text
