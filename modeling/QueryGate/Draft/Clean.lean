import QueryGate.Text.Blank
import QueryGate.Text.LetterCase

/-!
# Cleaning a drafted statement

A model may wrap its answer in fences of three back quotes, the opening one followed by `sql` and
a line feed.  Fences are removed wherever they stand, from left to right, and the rest is trimmed
and freed of trailing separators.
-/

namespace QueryGate.Draft

open Text

/-- What follows the language tag and the line feed behind a fence, either of which may be
missing. -/
def dropFenceTag (s : Text) : Text :=
  match (dropKeyword? "sql".toList s).getD s with
  | '\n' :: rest => rest
  | rest => rest

theorem length_le_of_dropKeyword? {keyword s rest : Text} (h : dropKeyword? keyword s = some rest) :
    rest.length ≤ s.length := by
  induction keyword generalizing s with
  | nil => simp only [dropKeyword?, Option.some.injEq] at h; simp [h]
  | cons a keyword ih =>
    cases s with
    | nil => simp [dropKeyword?] at h
    | cons c s =>
      simp only [dropKeyword?] at h
      split at h
      · exact Nat.le_succ_of_le (ih h)
      · simp at h

theorem length_dropFenceTag_le (s : Text) : (dropFenceTag s).length ≤ s.length := by
  have h : ((dropKeyword? "sql".toList s).getD s).length ≤ s.length := by
    cases hk : dropKeyword? "sql".toList s with
    | none => simp
    | some rest => exact length_le_of_dropKeyword? hk
  unfold dropFenceTag
  split
  · rename_i rest heq
    rw [heq] at h
    exact Nat.le_of_succ_le h
  · exact h

/-- A text without its fences. -/
def removeFences : Text → Text
  | '`' :: '`' :: '`' :: s => removeFences (dropFenceTag s)
  | c :: s => c :: removeFences s
  | [] => []
termination_by s => s.length
decreasing_by
  · have := length_dropFenceTag_le s
    simp only [List.length_cons]
    omega
  · simp

/-- A blank or a statement separator. -/
def isTrailing (c : Char) : Bool := c == ';' || isBlank c

/-- A drafted statement without fences and trailing separators. -/
def clean (s : Text) : Text := dropEndWhile isTrailing (trim (removeFences (trim s)))

end QueryGate.Draft
