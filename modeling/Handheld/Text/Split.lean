import Handheld.Text.Classes

/-!
# Splitting

A sequence with a separator in it falls into parts, and a text into its maximal runs of
characters that are not blank.  What is split at a separator may also be bytes that need
not be text.
-/

namespace Handheld.Text

/-! ## At a separator -/

section Separators

variable [DecidableEq α]

/-- Splits at the first separator, which belongs to neither side. -/
def splitFirst (separator : α) (xs : List α) : Option (List α × List α) :=
  match xs.dropWhile (· ≠ separator) with
  | [] => none
  | _ :: rest => some (xs.takeWhile (· ≠ separator), rest)

/-- Splits at every separator.  There is always at least one part. -/
def splitAll (separator : α) : List α → List (List α)
  | [] => [[]]
  | x :: rest =>
    if x = separator then [] :: splitAll separator rest
    else
      match splitAll separator rest with
      | [] => [[x]]
      | part :: parts => (x :: part) :: parts

theorem splitAll_ne_nil (separator : α) (xs : List α) : splitAll separator xs ≠ [] := by
  cases xs with
  | nil => simp [splitAll]
  | cons x rest =>
    simp only [splitAll]
    split
    · simp
    · split <;> simp

/-- Put together again, the parts are what was split. -/
theorem intercalate_splitAll (separator : α) (xs : List α) :
    [separator].intercalate (splitAll separator xs) = xs := by
  induction xs with
  | nil => rfl
  | cons x rest ih =>
    rcases h : splitAll separator rest with _ | ⟨part, parts⟩
    · exact absurd h (splitAll_ne_nil separator rest)
    · rw [h] at ih
      by_cases hx : x = separator
      · subst hx
        simpa [splitAll, h, List.intercalate] using ih
      · cases parts <;> simpa [splitAll, h, hx, List.intercalate] using ih

end Separators

/-! ## Into words -/

theorem length_dropWhile_le (p : α → Bool) (cs : List α) :
    (cs.dropWhile p).length ≤ cs.length :=
  (List.dropWhile_suffix p).length_le

/-- The maximal runs of characters that are not blank, in order. -/
def words (cs : List Char) : List (List Char) :=
  match _h : cs.dropWhile isBlank with
  | [] => []
  | c :: rest =>
    (c :: rest.takeWhile (!isBlank ·)) :: words (rest.dropWhile (!isBlank ·))
termination_by cs.length
decreasing_by
  have h₁ := length_dropWhile_le isBlank cs
  have h₂ := length_dropWhile_le (!isBlank ·) rest
  rw [_h] at h₁
  simp only [List.length_cons] at h₁
  omega

end Handheld.Text
