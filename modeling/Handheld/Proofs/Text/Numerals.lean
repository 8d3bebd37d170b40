import Mathlib.Data.List.Induction
import Mathlib.Data.Nat.Digits.Defs
import Handheld.Text.Hex

/-!
# Hexadecimal numerals

What the reader of numbers accepts, and why it refuses what it does not accept.  A numeral is at
most one plus sign and then one or more digits, of a value within the limit (`parse_eq_ok_iff`).
All else is refused for the first character that cannot be read on to the digits before it
(`parse_eq_error_iff`): the digits before it are a number within the limit, and with it they are
no number or one beyond the limit.
-/

namespace Handheld.Hex

/-! ## Numerals -/

def IsDigit (c : Char) : Prop :=
  (value? c).isSome = true

/-- The number that digits stand for, the most significant one first. -/
def valueOf (digits : List Char) : Nat :=
  Nat.ofDigits 16 (digits.reverse.map fun c => (value? c).getD 0)

/-- What follows the plus sign, if there is one. -/
def unsigned : List Char → List Char
  | '+' :: digits => digits
  | digits => digits

/-- The characters are digits, none at all possibly, of a number within the limit. -/
structure Fits (limit : Nat) (digits : List Char) : Prop where
  isDigit : ∀ c ∈ digits, IsDigit c
  le_limit : valueOf digits ≤ limit

/-- The characters are a numeral for the number, which is within the limit. -/
structure IsNumeral (limit : Nat) (cs : List Char) (n : Nat) : Prop where
  ne_nil : unsigned cs ≠ []
  fits : Fits limit (unsigned cs)
  value : valueOf (unsigned cs) = n

/-- Why the characters are no numeral within the limit. -/
inductive IsRefused (limit : Nat) (cs : List Char) : ParseError → Prop where
  | empty (h : cs = []) : IsRefused limit cs .empty
  | lonePlus (h : cs = ['+']) : IsRefused limit cs .invalidDigit
  /-- After digits within the limit there is a character that is no digit. -/
  | invalidDigit (digits rest : List Char) (c : Char)
    (h : unsigned cs = digits ++ c :: rest) (hfits : Fits limit digits) (hc : ¬ IsDigit c) :
    IsRefused limit cs .invalidDigit
  /-- After digits within the limit there is one that takes their value past it. -/
  | tooLarge (digits rest : List Char) (c : Char)
    (h : unsigned cs = digits ++ c :: rest) (hfits : Fits limit digits) (hc : IsDigit c)
    (hlimit : limit < valueOf (digits ++ [c])) :
    IsRefused limit cs .tooLarge

variable {limit n : Nat} {cs digits rest before : List Char} {c : Char} {e : ParseError}

/-! ## Values -/

@[simp] theorem valueOf_nil : valueOf [] = 0 := rfl

theorem valueOf_append_digit {d : Nat} (digits : List Char) (hc : value? c = some d) :
    valueOf (digits ++ [c]) = valueOf digits * 16 + d := by
  rw [valueOf, List.reverse_append, List.reverse_singleton, List.singleton_append, List.map_cons,
    Nat.ofDigits_cons, hc, Nat.add_comm, Nat.mul_comm]
  rfl

theorem valueOf_le_append (digits rest : List Char) :
    valueOf digits ≤ valueOf (digits ++ rest) := by
  rw [valueOf, valueOf, List.reverse_append, List.map_append, Nat.ofDigits_append]
  exact Nat.le_add_left_of_le (Nat.le_mul_of_pos_left _ (pow_pos (by decide) _))

theorem fits_nil (limit : Nat) : Fits limit [] :=
  ⟨by simp, Nat.zero_le limit⟩

theorem Fits.append_digit (h : Fits limit digits) (hc : IsDigit c)
    (hlimit : valueOf (digits ++ [c]) ≤ limit) : Fits limit (digits ++ [c]) where
  isDigit := by
    intro d hd
    rw [List.mem_append, List.mem_singleton] at hd
    rcases hd with hd | rfl
    · exact h.isDigit d hd
    · exact hc
  le_limit := hlimit

/-! ## Reading digits -/

theorem parseDigits_cons_digit (hc : IsDigit c) (hlimit : valueOf (digits ++ [c]) ≤ limit) :
    parseDigits limit (valueOf digits) (c :: rest) =
      parseDigits limit (valueOf (digits ++ [c])) rest := by
  obtain ⟨d, hd⟩ := Option.isSome_iff_exists.mp hc
  rw [valueOf_append_digit digits hd] at hlimit ⊢
  rw [parseDigits, hd]
  exact if_neg (Nat.not_lt.mpr hlimit)

/-- Digits within the limit are read on to those before them. -/
theorem parseDigits_append (hfits : Fits limit (before ++ digits)) :
    parseDigits limit (valueOf before) (digits ++ rest) =
      parseDigits limit (valueOf (before ++ digits)) rest := by
  induction digits generalizing before with
  | nil => rw [List.append_nil, List.nil_append]
  | cons c digits ih =>
      rw [List.append_cons] at hfits ⊢
      have hc : IsDigit c := hfits.isDigit c (by simp)
      have hlimit := (valueOf_le_append (before ++ [c]) digits).trans hfits.le_limit
      rw [List.cons_append, parseDigits_cons_digit hc hlimit, ih hfits]

/-- Of the characters, digits within the limit are read first, and then the rest onto them. -/
theorem parseDigits_of_fits_append (h : Fits limit digits) (rest : List Char) :
    parseDigits limit 0 (digits ++ rest) = parseDigits limit (valueOf digits) rest := by
  rw [← List.nil_append digits] at h
  have hread : parseDigits limit (valueOf []) (digits ++ rest) = _ := parseDigits_append h
  rwa [valueOf_nil, List.nil_append] at hread

theorem parseDigits_of_fits (h : Fits limit digits) :
    parseDigits limit 0 digits = .ok (valueOf digits) := by
  have hread := parseDigits_of_fits_append h []
  rwa [List.append_nil] at hread

theorem parseDigits_of_not_digit (h : Fits limit digits) (hc : ¬ IsDigit c) :
    parseDigits limit 0 (digits ++ c :: rest) = .error .invalidDigit := by
  have hnone : value? c = none := by simpa [IsDigit] using hc
  rw [parseDigits_of_fits_append h, parseDigits, hnone]

theorem parseDigits_of_lt (h : Fits limit digits) (hc : IsDigit c)
    (hlimit : limit < valueOf (digits ++ [c])) :
    parseDigits limit 0 (digits ++ c :: rest) = .error .tooLarge := by
  obtain ⟨d, hd⟩ := Option.isSome_iff_exists.mp hc
  rw [valueOf_append_digit digits hd] at hlimit
  rw [parseDigits_of_fits_append h, parseDigits, hd]
  exact if_pos hlimit

/-- Either all characters are digits within the limit, or there is a first one that is no digit
or takes the value past the limit. -/
theorem fits_or_exists_first (limit : Nat) (cs : List Char) :
    Fits limit cs ∨ ∃ digits c rest, cs = digits ++ c :: rest ∧ Fits limit digits ∧
      (IsDigit c → limit < valueOf (digits ++ [c])) := by
  induction cs using List.reverseRecOn with
  | nil => exact .inl (fits_nil limit)
  | append_singleton cs c ih =>
      rcases ih with hfits | ⟨digits, d, rest, rfl, hfirst⟩
      · by_cases hc : IsDigit c ∧ valueOf (cs ++ [c]) ≤ limit
        · exact .inl (hfits.append_digit hc.1 hc.2)
        · refine .inr ⟨cs, c, [], rfl, hfits, ?_⟩
          intro hdigit
          exact Nat.lt_of_not_le fun hle => hc ⟨hdigit, hle⟩
      · exact .inr ⟨digits, d, rest ++ [c], by simp, hfirst⟩

/-! ## Reading numbers -/

theorem parse_eq_parseDigits (h : unsigned cs ≠ []) :
    parse limit cs = parseDigits limit 0 (unsigned cs) := by
  unfold parse
  split
  · exact absurd rfl h
  · exact absurd rfl h
  · rfl
  next hplus =>
    rw [unsigned]
    intro digits hcs
    exact hplus digits hcs

theorem parse_of_isNumeral (h : IsNumeral limit cs n) : parse limit cs = .ok n := by
  rw [parse_eq_parseDigits h.ne_nil, parseDigits_of_fits h.fits, h.value]

theorem parse_of_isRefused (h : IsRefused limit cs e) : parse limit cs = .error e := by
  cases h with
  | empty h => rw [h, parse]
  | lonePlus h => rw [h, parse]
  | invalidDigit digits rest c h hfits hc =>
      rw [parse_eq_parseDigits (by simp [h]), h, parseDigits_of_not_digit hfits hc]
  | tooLarge digits rest c h hfits hc hlimit =>
      rw [parse_eq_parseDigits (by simp [h]), h, parseDigits_of_lt hfits hc hlimit]

/-- Every sequence of characters is a numeral or refused. -/
theorem isNumeral_or_isRefused (limit : Nat) (cs : List Char) :
    (∃ n, IsNumeral limit cs n) ∨ ∃ e, IsRefused limit cs e := by
  by_cases hnil : unsigned cs = []
  · right
    unfold unsigned at hnil
    split at hnil
    · exact ⟨_, .lonePlus (by rw [hnil])⟩
    · exact ⟨_, .empty hnil⟩
  · rcases fits_or_exists_first limit (unsigned cs) with
      hfits | ⟨digits, c, rest, h, hfits, hfirst⟩
    · exact .inl ⟨_, hnil, hfits, rfl⟩
    · right
      by_cases hc : IsDigit c
      · exact ⟨_, .tooLarge digits rest c h hfits hc (hfirst hc)⟩
      · exact ⟨_, .invalidDigit digits rest c h hfits hc⟩

/-- The reader accepts the numerals within the limit, and nothing else. -/
theorem parse_eq_ok_iff : parse limit cs = .ok n ↔ IsNumeral limit cs n := by
  constructor
  · intro h
    rcases isNumeral_or_isRefused limit cs with ⟨m, hm⟩ | ⟨e, he⟩
    · rw [parse_of_isNumeral hm] at h
      obtain rfl := Except.ok.inj h
      exact hm
    · rw [parse_of_isRefused he] at h
      cases h
  · exact parse_of_isNumeral

theorem parse_eq_error_iff : parse limit cs = .error e ↔ IsRefused limit cs e := by
  constructor
  · intro h
    rcases isNumeral_or_isRefused limit cs with ⟨m, hm⟩ | ⟨e', he⟩
    · rw [parse_of_isNumeral hm] at h
      cases h
    · rw [parse_of_isRefused he] at h
      obtain rfl := Except.error.inj h
      exact he
  · exact parse_of_isRefused

theorem IsNumeral.le_limit (h : IsNumeral limit cs n) : n ≤ limit :=
  h.value ▸ h.fits.le_limit

end Handheld.Hex
