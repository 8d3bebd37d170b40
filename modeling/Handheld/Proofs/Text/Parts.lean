import Mathlib.Data.List.TakeWhile
import Handheld.Text.Split

/-!
# What splitting a text yields

The ways in which a text is taken apart, by those of the standard library.  The parts between
separators are those of `List.splitOn`; the words are the parts between blanks, empty ones aside;
and the two sides of the first separator are the only ones that it can have.  So words that are
put together with single blanks are found again (`words_intercalate`).
-/

namespace Handheld.Text

/-! ## Separators -/

/-- Around one part, the others come with a separator each. -/
theorem intercalate_append_cons (separator : α) (before after : List (List α))
    (part : List α) :
    [separator].intercalate (before ++ part :: after) =
      before.flatMap (· ++ [separator]) ++ part ++ after.flatMap (separator :: ·) := by
  induction before with
  | nil =>
      induction after generalizing part with
      | nil => simp
      | cons next after ih =>
          simp only [List.nil_append] at ih ⊢
          rw [List.intercalate_cons_cons, ih]
          simp
  | cons first before ih =>
      rw [List.cons_append, List.intercalate_cons_of_ne_nil (by simp), ih]
      simp

section Separators

variable [DecidableEq α] {separator : α} {xs key value part : List α}

theorem splitAll_eq_splitOn (separator : α) (xs : List α) :
    splitAll separator xs = xs.splitOn separator := by
  induction xs with
  | nil => rfl
  | cons x rest ih =>
      rw [splitAll, List.splitOn_cons_eq_if_modifyHead, ih]
      by_cases hx : x = separator
      · rw [if_pos hx, if_pos (beq_iff_eq.mpr hx)]
      · rw [if_neg hx, if_neg (mt beq_iff_eq.mp hx)]
        cases h : rest.splitOn separator with
        | nil => exact absurd h (List.splitOn_ne_nil separator rest)
        | cons part parts => rfl

theorem splitAll_append_cons (xs ys : List α) :
    splitAll separator (xs ++ separator :: ys) = splitAll separator xs ++ splitAll separator ys := by
  simp only [splitAll_eq_splitOn]
  exact List.splitOn_append_cons_self xs ys

theorem splitAll_of_notMem (h : separator ∉ xs) : splitAll separator xs = [xs] := by
  rw [splitAll_eq_splitOn]
  exact List.splitOn_eq_singleton h

theorem notMem_of_mem_splitAll (h : part ∈ splitAll separator xs) : separator ∉ part := by
  induction xs generalizing part with
  | nil =>
      rw [List.mem_singleton.mp h]
      exact List.not_mem_nil
  | cons x rest ih =>
      rw [splitAll] at h
      by_cases hx : x = separator
      · rw [if_pos hx, List.mem_cons] at h
        rcases h with rfl | h
        · exact List.not_mem_nil
        · exact ih h
      · rw [if_neg hx] at h
        cases hparts : splitAll separator rest with
        | nil => exact absurd hparts (splitAll_ne_nil separator rest)
        | cons first parts =>
            rw [hparts] at h ih
            rcases List.mem_cons.mp h with rfl | h
            · rw [List.mem_cons, not_or]
              exact ⟨Ne.symm hx, ih List.mem_cons_self⟩
            · exact ih (List.mem_cons_of_mem _ h)

/-- What precedes the separator has none in it. -/
theorem splitFirst_eq_some_iff :
    splitFirst separator xs = some (key, value) ↔
      xs = key ++ separator :: value ∧ separator ∉ key := by
  constructor
  · intro h
    unfold splitFirst at h
    split at h
    · cases h
    next c rest hdrop =>
      obtain ⟨rfl, rfl⟩ := Prod.mk.inj (Option.some.inj h)
      have hhead : c = separator := by
        have hstop := List.head?_dropWhile_not (· ≠ separator) xs
        rw [hdrop] at hstop
        simpa using hstop
      constructor
      · calc
          xs = xs.takeWhile (· ≠ separator) ++ xs.dropWhile (· ≠ separator) :=
            List.takeWhile_append_dropWhile.symm
          _ = xs.takeWhile (· ≠ separator) ++ separator :: rest := by rw [hdrop, hhead]
      · intro hmem
        simpa using List.mem_takeWhile_imp hmem
  · rintro ⟨rfl, hkey⟩
    have hall : ∀ x ∈ key, decide (x ≠ separator) = true := by
      intro x hx
      rw [decide_eq_true_eq]
      rintro rfl
      exact hkey hx
    rw [splitFirst, List.dropWhile_append_of_pos hall, List.takeWhile_append_of_pos hall]
    simp

end Separators

/-! ## Blanks -/

/-- Separators before the first part make no difference to the parts that are not empty. -/
theorem filter_splitOnP_dropWhile (p : α → Bool) (xs : List α) :
    ((xs.dropWhile p).splitOnP p).filter (!·.isEmpty) =
      (xs.splitOnP p).filter (!·.isEmpty) := by
  induction xs with
  | nil => rfl
  | cons x rest ih =>
      by_cases hx : p x = true
      · rw [List.dropWhile_cons_of_pos hx, ih, List.splitOnP_cons_eq_if_modifyHead, if_pos hx]
        rfl
      · rw [List.dropWhile_cons_of_neg hx]

/-- The words are the parts between blanks that are not empty.  The induction goes by the words,
each of which the blank after it ends. -/
theorem words_eq_filter_splitOnP (cs : List Char) :
    words cs = (cs.splitOnP isBlank).filter (!·.isEmpty) := by
  induction cs using words.induct with
  | case1 cs h =>
      rw [← filter_splitOnP_dropWhile, h, words]
      split
      · rfl
      next c rest h' =>
        rw [h] at h'
        cases h'
  | case2 cs c rest h ih =>
      have hword : ∀ d ∈ c :: rest.takeWhile (!isBlank ·), isBlank d = false := by
        intro d hd
        rw [List.mem_cons] at hd
        rcases hd with rfl | hd
        · have hstop := List.head?_dropWhile_not isBlank cs
          rw [h] at hstop
          simpa using hstop
        · simpa using List.mem_takeWhile_imp hd
      have hwords : words cs =
          (c :: rest.takeWhile (!isBlank ·)) :: words (rest.dropWhile (!isBlank ·)) := by
        rw [words]
        split
        next h' =>
          rw [h] at h'
          cases h'
        next h' =>
          rw [h] at h'
          cases h'
          rfl
      have hparts : c :: rest =
          (c :: rest.takeWhile (!isBlank ·)) ++ rest.dropWhile (!isBlank ·) := by
        rw [List.cons_append, List.takeWhile_append_dropWhile]
      rw [hwords, ih, ← filter_splitOnP_dropWhile isBlank cs, h, hparts]
      cases hrest : rest.dropWhile (!isBlank ·) with
      | nil =>
          rw [List.append_nil, List.splitOnP_eq_singleton hword]
          rfl
      | cons d ds =>
          have hd : isBlank d = true := by
            have hstop := List.head?_dropWhile_not (!isBlank ·) rest
            rw [hrest] at hstop
            simpa using hstop
          rw [List.splitOnP_append_cons_of_forall_mem hword d hd,
            List.splitOnP_cons_eq_if_modifyHead, if_pos hd]
          rfl

section Words

variable {cs ds word : List Char} {c : Char}

theorem words_append_cons (cs ds : List Char) (hc : isBlank c = true) :
    words (cs ++ c :: ds) = words cs ++ words ds := by
  simp only [words_eq_filter_splitOnP]
  rw [List.splitOnP_append_cons cs ds hc, List.filter_append]

theorem words_of_unbroken (hne : word ≠ []) (h : ∀ c ∈ word, isBlank c = false) :
    words word = [word] := by
  rw [words_eq_filter_splitOnP, List.splitOnP_eq_singleton h]
  exact List.filter_eq_self.mpr (by simpa using hne)

/-- Words that are put together with single blanks are found again. -/
theorem words_intercalate {parts : List (List Char)}
    (h : ∀ word ∈ parts, word ≠ [] ∧ ∀ c ∈ word, isBlank c = false) :
    words ([' '].intercalate parts) = parts := by
  induction parts with
  | nil => rw [List.intercalate_nil, words_eq_filter_splitOnP]; rfl
  | cons word parts ih =>
      rw [List.forall_mem_cons] at h
      obtain ⟨⟨hne, hword⟩, hparts⟩ := h
      cases parts with
      | nil => rw [List.intercalate_singleton, words_of_unbroken hne hword]
      | cons next parts =>
          rw [List.intercalate_cons_cons, List.append_assoc, List.singleton_append,
            words_append_cons _ _ rfl, words_of_unbroken hne hword, ih hparts,
            List.singleton_append]

end Words

end Handheld.Text
