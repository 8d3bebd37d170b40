import Mathlib.Data.Nat.Bitwise
import Mathlib.Tactic.IntervalCases
import Handheld.Text.Utf8

/-!
# What is well-formed UTF-8

The reader of UTF-8, which goes byte by byte, against the encoding of the standard library, which
goes character by character.  After a byte that starts a character of more than one byte, an
unfinished character admits certain numbers (`Pending.Admits`): those of the characters whose
encoding starts with that byte (`encodes_of_admits`, `exists_leads`).  What is left of such an
encoding are digits to the base 64 (`trail`), which the reader puts together again
(`piecesFrom_trail`).  So bytes are the encoding of a text if and only if the reader finds no
malformed piece in them, and then it reads that text (`decode?_eq_some_iff`).
-/

namespace Handheld.Utf8

/-- The bytes of a text. -/
def encode (cs : List Char) : List Byte :=
  cs.flatMap String.utf8EncodeChar

theorem encode_cons (c : Char) (cs : List Char) :
    encode (c :: cs) = String.utf8EncodeChar c ++ encode cs := rfl

/-- The last bytes of a character: its last digits to the base 64. -/
def trail : (count : Nat) → (n : Nat) → List Byte
  | 0, _ => []
  | count + 1, n => UInt8.ofNat (n / 64 ^ count % 64 + 0x80) :: trail count n

variable {b : Byte} {p : Pending} {n : Nat} {c : Char} {bytes rest : List Byte} {cs : List Char}

theorem toNat_trailing (n : Nat) : (UInt8.ofNat (n % 64 + 0x80)).toNat = n % 64 + 0x80 := by
  have hlt : n % 64 + 0x80 < 256 := by omega
  exact UInt8.toNat_ofNat_of_lt' hlt

theorem le_of_mem_trail {count : Nat} (h : b ∈ trail count n) : 0x80 ≤ b.toNat := by
  induction count with
  | zero => exact absurd h List.not_mem_nil
  | succ count ih =>
      rcases List.mem_cons.mp h with rfl | h
      · rw [toNat_trailing]
        exact Nat.le_add_left _ _
      · exact ih h

/-! ## Unfinished characters -/

/-- An unfinished character lacks a byte, and the next one has to be a trailing byte. -/
structure Pending.IsRegular (p : Pending) : Prop where
  owed_pos : 0 < p.owed
  le_least : 0x80 ≤ p.least
  greatest_le : p.greatest ≤ 0xBF

/-- The number of a character that the unfinished one may become: what it has is the number less
the digits that it lacks, and the next of these is in its range. -/
structure Pending.Admits (p : Pending) (n : Nat) : Prop where
  value : n / 64 ^ (p.owed - 1) / 64 = p.value
  least : p.least ≤ n / 64 ^ (p.owed - 1) % 64 + 0x80
  greatest : n / 64 ^ (p.owed - 1) % 64 + 0x80 ≤ p.greatest

/-- The next byte is in the range. -/
abbrev Pending.Takes (p : Pending) (b : Byte) : Prop :=
  p.least ≤ b.toNat ∧ b.toNat ≤ p.greatest

/-- The number so far with the digit of the next byte. -/
def Pending.extended (p : Pending) (b : Byte) : Nat :=
  p.value * 64 + (b.toNat - 0x80)

theorem isRegular_plain (value k : Nat) : (Pending.plain value (k + 1)).IsRegular :=
  ⟨Nat.succ_pos k, Nat.le_refl _, Nat.le_refl _⟩

/-- Without a restriction, the digits that are known are all that counts. -/
theorem admits_plain_iff {value k : Nat} :
    (Pending.plain value (k + 1)).Admits n ↔ n / 64 ^ (k + 1) = value := by
  rw [pow_succ, ← Nat.div_div_eq_div_mul]
  constructor
  · intro h
    exact h.value
  · intro h
    refine ⟨h, Nat.le_add_left _ _, ?_⟩
    exact Nat.add_le_add_right (Nat.le_of_lt_succ (Nat.mod_lt _ (by decide))) 0x80

/-- The first byte that a number has left is one that the unfinished character takes. -/
theorem exists_of_admits {k : Nat} (howed : p.owed = k + 1) (h : p.Admits n) :
    ∃ b, trail p.owed n = b :: trail k n ∧ p.Takes b ∧ p.extended b = n / 64 ^ k := by
  obtain ⟨hvalue, hleast, hgreatest⟩ := h
  rw [howed, Nat.add_sub_cancel] at hvalue hleast hgreatest
  have hbyte := toNat_trailing (n / 64 ^ k)
  refine ⟨UInt8.ofNat (n / 64 ^ k % 64 + 0x80), by rw [howed, trail], ?_, ?_⟩
  · rw [Pending.Takes, hbyte]
    exact ⟨hleast, hgreatest⟩
  · unfold Pending.extended
    omega

theorem admits_of_takes {k : Nat} (hregular : p.IsRegular) (howed : p.owed = k + 1)
    (hb : p.Takes b) (hn : n / 64 ^ k = p.extended b) :
    p.Admits n ∧ trail p.owed n = b :: trail k n := by
  obtain ⟨hleast, hgreatest⟩ := hb
  have hleast' := hregular.le_least
  have hgreatest' := hregular.greatest_le
  unfold Pending.extended at hn
  have hvalue : n / 64 ^ k / 64 = p.value := by omega
  have hdigit : n / 64 ^ k % 64 + 0x80 = b.toNat := by omega
  constructor
  · constructor
    · rwa [howed, Nat.add_sub_cancel]
    · rwa [howed, Nat.add_sub_cancel, hdigit]
    · rwa [howed, Nat.add_sub_cancel, hdigit]
  · rw [howed, trail, hdigit, UInt8.ofNat_toNat]

/-! ## Reading on -/

/-- The last byte that is owed completes the character. -/
theorem piecesFrom_of_last (howed : p.owed = 1) (hb : p.Takes b) (rest : List Byte) :
    piecesFrom (some p) (b :: rest) = some (Char.ofNat (p.extended b)) :: piecesFrom none rest := by
  have hresume : resume p b = ([some (Char.ofNat (p.extended b))], none) := by
    rw [resume, if_pos hb, if_pos howed.le]
    rfl
  rw [piecesFrom, hresume]
  rfl

theorem piecesFrom_of_more {k : Nat} (howed : p.owed = k + 2) (hb : p.Takes b)
    (rest : List Byte) :
    piecesFrom (some p) (b :: rest) = piecesFrom (some (.plain (p.extended b) (k + 1))) rest := by
  have hmore : ¬ p.owed ≤ 1 := by omega
  have hresume : resume p b = ([], some (.plain (p.extended b) (k + 1))) := by
    rw [resume, if_pos hb, if_neg hmore, howed]
    rfl
  rw [piecesFrom, hresume]
  rfl

/-- A byte out of the range leaves the character malformed. -/
theorem takes_of_whole (h : none ∉ piecesFrom (some p) (b :: rest)) : p.Takes b := by
  by_contra hb
  apply h
  rw [piecesFrom, resume, if_neg hb]
  exact List.mem_append_left _ List.mem_cons_self

/-- The digits of a number that an unfinished character admits complete it.  The induction goes by
the bytes owed; after the first of them, nothing restricts the next. -/
theorem piecesFrom_trail (hregular : p.IsRegular) (h : p.Admits n) (rest : List Byte) :
    piecesFrom (some p) (trail p.owed n ++ rest) =
      some (Char.ofNat n) :: piecesFrom none rest := by
  obtain ⟨k, howed⟩ := Nat.exists_eq_add_one.mpr hregular.owed_pos
  induction k generalizing p with
  | zero =>
      obtain ⟨b, htrail, hb, hextended⟩ := exists_of_admits howed h
      rw [htrail, List.cons_append, piecesFrom_of_last howed hb, hextended, pow_zero, Nat.div_one]
      rfl
  | succ k ih =>
      obtain ⟨b, htrail, hb, hextended⟩ := exists_of_admits howed h
      rw [htrail, List.cons_append, piecesFrom_of_more howed hb]
      exact ih (isRegular_plain _ k) (admits_plain_iff.mpr hextended.symm) rfl

/-- Nothing else completes an unfinished character. -/
theorem exists_trail (hregular : p.IsRegular) (h : none ∉ piecesFrom (some p) bytes) :
    ∃ n rest, p.Admits n ∧ bytes = trail p.owed n ++ rest := by
  induction bytes generalizing p with
  | nil => exact absurd List.mem_cons_self h
  | cons b rest ih =>
      have hb := takes_of_whole h
      obtain ⟨k, howed⟩ := Nat.exists_eq_add_one.mpr hregular.owed_pos
      cases k with
      | zero =>
          obtain ⟨hadmits, htrail⟩ := admits_of_takes (n := p.extended b) hregular howed hb
            (Nat.div_one _)
          exact ⟨p.extended b, rest, hadmits, by rw [htrail]; rfl⟩
      | succ k =>
          rw [piecesFrom_of_more howed hb] at h
          obtain ⟨n, rest, hnext, rfl⟩ := ih (isRegular_plain _ k) h
          obtain ⟨hadmits, htrail⟩ := admits_of_takes hregular howed hb
            (admits_plain_iff.mp hnext)
          exact ⟨n, rest, hadmits, by rw [htrail]; rfl⟩

/-! ## The first byte of a character -/

/-- Two bytes are owed.  The next one is restricted where fewer bytes would do, and where the
numbers are those of surrogates. -/
def Pending.ofThree (v : Nat) : Pending :=
  ⟨v, 2, if v = 0 then 0xA0 else 0x80, if v = 0xD then 0x9F else 0xBF⟩

/-- Three bytes are owed.  The next one is restricted where fewer bytes would do, and where the
numbers of characters end. -/
def Pending.ofFour (v : Nat) : Pending :=
  ⟨v, 3, if v = 0 then 0x90 else 0x80, if v = 4 then 0x8F else 0xBF⟩

theorem isRegular_ofThree (v : Nat) : (Pending.ofThree v).IsRegular := by
  refine ⟨Nat.succ_pos 1, ?_, ?_⟩
  · simp only [Pending.ofThree]
    split <;> decide
  · simp only [Pending.ofThree]
    split <;> decide

theorem isRegular_ofFour (v : Nat) : (Pending.ofFour v).IsRegular := by
  refine ⟨Nat.succ_pos 2, ?_, ?_⟩
  · simp only [Pending.ofFour]
    split <;> decide
  · simp only [Pending.ofFour]
    split <;> decide

theorem admits_ofThree_iff {v : Nat} :
    (Pending.ofThree v).Admits n ↔
      n / 4096 = v ∧ 0x800 ≤ n ∧ ¬ (0xD800 ≤ n ∧ n ≤ 0xDFFF) := by
  constructor
  · rintro ⟨hvalue, hleast, hgreatest⟩
    simp only [Pending.ofThree] at hvalue hleast hgreatest
    split at hleast <;> split at hgreatest <;> omega
  · rintro ⟨hvalue, hlong, hsurrogate⟩
    constructor
    · simp only [Pending.ofThree]
      omega
    · simp only [Pending.ofThree]
      split <;> omega
    · simp only [Pending.ofThree]
      split <;> omega

theorem admits_ofFour_iff {v : Nat} (hv : v < 5) :
    (Pending.ofFour v).Admits n ↔ n / 262144 = v ∧ 0x10000 ≤ n ∧ n < 0x110000 := by
  constructor
  · rintro ⟨hvalue, hleast, hgreatest⟩
    simp only [Pending.ofFour] at hvalue hleast hgreatest
    split at hleast <;> split at hgreatest <;> omega
  · rintro ⟨hvalue, hlong, hend⟩
    constructor
    · simp only [Pending.ofFour]
      omega
    · simp only [Pending.ofFour]
      split <;> omega
    · simp only [Pending.ofFour]
      split <;> omega

/-- The bytes that start a character of more than one byte, and what they leave unfinished. -/
inductive Leads : Byte → Pending → Prop
  | two (v : Nat) (h : 2 ≤ v) (h' : v < 32) : Leads (UInt8.ofNat (v + 0xC0)) (.plain v 1)
  | three (v : Nat) (h : v < 16) : Leads (UInt8.ofNat (v + 0xE0)) (.ofThree v)
  | four (v : Nat) (h : v < 5) : Leads (UInt8.ofNat (v + 0xF0)) (.ofFour v)

theorem Leads.isRegular (h : Leads b p) : p.IsRegular := by
  cases h with
  | two v => exact isRegular_plain v 0
  | three v => exact isRegular_ofThree v
  | four v => exact isRegular_ofFour v

theorem Leads.le_toNat (h : Leads b p) : 0x80 ≤ b.toNat := by
  cases h with
  | two v h h' => interval_cases v <;> decide
  | three v h => interval_cases v <;> decide
  | four v h => interval_cases v <;> decide

theorem Leads.start_eq (h : Leads b p) : start b = ([], some p) := by
  cases h with
  | two v h h' => interval_cases v <;> rfl
  | three v h => interval_cases v <;> rfl
  | four v h => interval_cases v <;> rfl

/-- All other bytes are characters by themselves, or malformed. -/
theorem start_cases (b : Byte) :
    (b.toNat < 0x80 ∧ start b = ([some (Char.ofNat b.toNat)], none)) ∨
      start b = ([none], none) ∨ ∃ p, Leads b p := by
  have hlt := b.toNat_lt
  by_cases hone : b.toNat < 0x80
  · refine .inl ⟨hone, ?_⟩
    rw [start]
    exact if_pos (Nat.le_of_lt_succ hone)
  right
  by_cases htrail : b.toNat < 0xC2
  · left
    simp only [start]
    rw [if_neg (by omega), if_pos htrail]
  by_cases htwo : b.toNat < 0xE0
  · have hleads := Leads.two (b.toNat - 0xC0) (by omega) (by omega)
    rw [Nat.sub_add_cancel (by omega), UInt8.ofNat_toNat] at hleads
    exact .inr ⟨_, hleads⟩
  by_cases hthree : b.toNat < 0xF0
  · have hleads := Leads.three (b.toNat - 0xE0) (by omega)
    rw [Nat.sub_add_cancel (by omega), UInt8.ofNat_toNat] at hleads
    exact .inr ⟨_, hleads⟩
  by_cases hfour : b.toNat < 0xF5
  · have hleads := Leads.four (b.toNat - 0xF0) (by omega)
    rw [Nat.sub_add_cancel (by omega), UInt8.ofNat_toNat] at hleads
    exact .inr ⟨_, hleads⟩
  · left
    simp only [start]
    -- No range of first bytes goes this far.
    repeat rw [if_neg (by omega)]

/-! ## Characters -/

section Characters

variable (hn : c.toNat = n)
include hn

theorem utf8EncodeChar_of_one (h : n < 0x80) : String.utf8EncodeChar c = [UInt8.ofNat n] := by
  have hval : c.val.toNat = n := hn
  simp only [String.utf8EncodeChar, hval]
  rw [if_pos (Nat.le_of_lt_succ h)]

theorem utf8EncodeChar_of_two (h : 0x80 ≤ n) (h' : n < 0x800) :
    String.utf8EncodeChar c = UInt8.ofNat (n / 64 + 0xC0) :: trail 1 n := by
  have hval : c.val.toNat = n := hn
  have hlead : n / 64 % 32 = n / 64 := Nat.mod_eq_of_lt (by omega)
  simp only [String.utf8EncodeChar, hval]
  rw [if_neg (by omega), if_pos (by omega), hlead]
  simp [trail]

theorem utf8EncodeChar_of_three (h : 0x800 ≤ n) (h' : n < 0x10000) :
    String.utf8EncodeChar c = UInt8.ofNat (n / 4096 + 0xE0) :: trail 2 n := by
  have hval : c.val.toNat = n := hn
  have hlead : n / 4096 % 16 = n / 4096 := Nat.mod_eq_of_lt (by omega)
  simp only [String.utf8EncodeChar, hval]
  rw [if_neg (by omega), if_neg (by omega), if_pos (by omega), hlead]
  simp [trail]

theorem utf8EncodeChar_of_four (h : 0x10000 ≤ n) (h' : n < 0x110000) :
    String.utf8EncodeChar c = UInt8.ofNat (n / 262144 + 0xF0) :: trail 3 n := by
  have hval : c.val.toNat = n := hn
  have hlead : n / 262144 % 8 = n / 262144 := Nat.mod_eq_of_lt (by omega)
  simp only [String.utf8EncodeChar, hval]
  rw [if_neg (by omega), if_neg (by omega), if_neg (by omega), hlead]
  simp [trail]

end Characters

theorem toNat_ofNat_of_isValidChar (h : n.isValidChar) : (Char.ofNat n).toNat = n := by
  rw [Char.ofNat, dif_pos h]
  rfl

/-- An unfinished character admits the numbers of those characters only whose encoding starts with
the byte that has started it. -/
theorem encodes_of_admits (hleads : Leads b p) (h : p.Admits n) :
    String.utf8EncodeChar (Char.ofNat n) = b :: trail p.owed n := by
  cases hleads with
  | two v hv hv' =>
      rw [admits_plain_iff, pow_one] at h
      have hvalid : n.isValidChar := .inl (by omega)
      rw [utf8EncodeChar_of_two (toNat_ofNat_of_isValidChar hvalid) (by omega) (by omega), h]
      rfl
  | three v hv =>
      obtain ⟨hvalue, hlong, hsurrogate⟩ := admits_ofThree_iff.mp h
      have hvalid : n.isValidChar := by
        rw [Nat.isValidChar]
        omega
      rw [utf8EncodeChar_of_three (toNat_ofNat_of_isValidChar hvalid) hlong (by omega), hvalue]
      rfl
  | four v hv =>
      obtain ⟨hvalue, hlong, hend⟩ := (admits_ofFour_iff hv).mp h
      have hvalid : n.isValidChar := .inr ⟨by omega, hend⟩
      rw [utf8EncodeChar_of_four (toNat_ofNat_of_isValidChar hvalid) hlong hend, hvalue]
      rfl

/-- The encoding of a character of more than one byte starts with a byte that leaves it
unfinished. -/
theorem exists_leads (h : 0x80 ≤ c.toNat) :
    ∃ b p, Leads b p ∧ p.Admits c.toNat ∧
      String.utf8EncodeChar c = b :: trail p.owed c.toNat := by
  have hvalid : c.toNat < 0xD800 ∨ 0xDFFF < c.toNat ∧ c.toNat < 0x110000 := c.valid
  by_cases htwo : c.toNat < 0x800
  · refine ⟨_, _, Leads.two (c.toNat / 64) (by omega) (by omega), ?_,
      utf8EncodeChar_of_two rfl h htwo⟩
    rw [admits_plain_iff, pow_one]
  by_cases hthree : c.toNat < 0x10000
  · refine ⟨_, _, Leads.three (c.toNat / 4096) (by omega), ?_,
      utf8EncodeChar_of_three rfl (Nat.not_lt.mp htwo) hthree⟩
    exact admits_ofThree_iff.mpr ⟨rfl, by omega, by omega⟩
  · have hv : c.toNat / 262144 < 5 := by omega
    refine ⟨_, _, Leads.four (c.toNat / 262144) hv, ?_,
      utf8EncodeChar_of_four rfl (Nat.not_lt.mp hthree) (by omega)⟩
    exact (admits_ofFour_iff hv).mpr ⟨rfl, by omega, by omega⟩

/-- Bytes of a character of more than one byte are none of those that are characters by
themselves. -/
theorem le_of_mem_utf8EncodeChar (h : 0x80 ≤ c.toNat) (hb : b ∈ String.utf8EncodeChar c) :
    0x80 ≤ b.toNat := by
  obtain ⟨lead, p, hleads, -, hencodes⟩ := exists_leads h
  rw [hencodes, List.mem_cons] at hb
  rcases hb with rfl | hb
  · exact hleads.le_toNat
  · exact le_of_mem_trail hb

theorem piecesFrom_of_leads (h : Leads b p) (rest : List Byte) :
    piecesFrom none (b :: rest) = piecesFrom (some p) rest := by
  rw [piecesFrom, h.start_eq]
  rfl

/-- The encoding of a character is read as that character. -/
theorem piecesFrom_utf8EncodeChar (c : Char) (rest : List Byte) :
    piecesFrom none (String.utf8EncodeChar c ++ rest) = some c :: piecesFrom none rest := by
  by_cases hone : c.toNat < 0x80
  · have hbyte : (UInt8.ofNat c.toNat).toNat = c.toNat :=
      UInt8.toNat_ofNat_of_lt' (hone.trans (by decide))
    have hstart : start (UInt8.ofNat c.toNat) = ([some c], none) := by
      rw [start, hbyte, Char.ofNat_toNat]
      exact if_pos (Nat.le_of_lt_succ hone)
    rw [utf8EncodeChar_of_one rfl hone, List.singleton_append, piecesFrom, hstart]
    rfl
  · obtain ⟨b, p, hleads, hadmits, hencodes⟩ := exists_leads (Nat.not_lt.mp hone)
    rw [hencodes, List.cons_append, piecesFrom_of_leads hleads,
      piecesFrom_trail hleads.isRegular hadmits, Char.ofNat_toNat]

/-- Where nothing is malformed, the first character has been encoded. -/
theorem exists_utf8EncodeChar (h : none ∉ piecesFrom none (b :: bytes)) :
    ∃ c rest, b :: bytes = String.utf8EncodeChar c ++ rest := by
  rcases start_cases b with ⟨hone, -⟩ | hmalformed | ⟨p, hleads⟩
  · refine ⟨Char.ofNat b.toNat, bytes, ?_⟩
    have hvalid : b.toNat.isValidChar := .inl (by omega)
    rw [utf8EncodeChar_of_one (toNat_ofNat_of_isValidChar hvalid) hone, UInt8.ofNat_toNat]
    rfl
  · rw [piecesFrom, hmalformed] at h
    exact absurd List.mem_cons_self h
  · rw [piecesFrom_of_leads hleads] at h
    obtain ⟨n, rest, hadmits, rfl⟩ := exists_trail hleads.isRegular h
    exact ⟨Char.ofNat n, rest, by rw [encodes_of_admits hleads hadmits]; rfl⟩

/-! ## Texts -/

theorem pieces_encode (cs : List Char) : pieces (encode cs) = cs.map some := by
  induction cs with
  | nil => rfl
  | cons c cs ih =>
      rw [pieces, encode_cons, piecesFrom_utf8EncodeChar, List.map_cons, ← ih]
      rfl

/-- Bytes without a malformed piece are the encoding of a text.  The induction takes one character
off at a time. -/
theorem exists_encode (h : none ∉ pieces bytes) : ∃ cs, bytes = encode cs := by
  induction hlength : bytes.length using Nat.strong_induction_on generalizing bytes with
  | _ length ih =>
      cases bytes with
      | nil => exact ⟨[], rfl⟩
      | cons b bytes =>
          obtain ⟨c, rest, hsplit⟩ := exists_utf8EncodeChar h
          rw [hsplit] at h hlength ⊢
          rw [pieces, piecesFrom_utf8EncodeChar, List.mem_cons, not_or] at h
          have hshorter : rest.length < length := by
            have hpos := List.length_pos_iff.mpr (String.utf8EncodeChar_ne_nil (c := c))
            rw [List.length_append] at hlength
            omega
          obtain ⟨cs, rfl⟩ := ih rest.length hshorter h.2 rfl
          exact ⟨c :: cs, rfl⟩

theorem mapM_id_eq_some_iff {ps : List Piece} : ps.mapM id = some cs ↔ ps = cs.map some := by
  induction ps generalizing cs with
  | nil => cases cs <;> simp
  | cons piece ps ih =>
      cases piece with
      | none => cases cs <;> simp
      | some c =>
          rw [List.mapM_cons]
          constructor
          · intro h
            obtain ⟨d, hd, h⟩ := Option.bind_eq_some_iff.mp h
            obtain ⟨ds, hds, h⟩ := Option.bind_eq_some_iff.mp h
            cases hd
            cases h
            rw [ih.mp hds, List.map_cons]
          · intro h
            cases cs with
            | nil => cases h
            | cons d ds =>
                obtain ⟨hc, hps⟩ := List.cons.inj h
                cases hc
                rw [ih.mpr hps]
                rfl

theorem decode?_eq_some_iff_pieces : decode? bytes = some cs ↔ pieces bytes = cs.map some :=
  mapM_id_eq_some_iff

/-- The reader reads the encodings of texts and nothing else. -/
theorem decode?_eq_some_iff : decode? bytes = some cs ↔ bytes = encode cs := by
  rw [decode?_eq_some_iff_pieces]
  constructor
  · intro h
    have hwhole : none ∉ pieces bytes := by
      rw [h]
      simp
    obtain ⟨ds, rfl⟩ := exists_encode hwhole
    rw [pieces_encode] at h
    rw [(List.map_inj_right fun _ _ => Option.some.inj).mp h]
  · rintro rfl
    exact pieces_encode cs

theorem encode_injective : Function.Injective encode := by
  intro cs ds h
  have hread : decode? (encode ds) = some cs := decode?_eq_some_iff.mpr h.symm
  exact Option.some.inj (hread.symm.trans (decode?_eq_some_iff.mpr rfl))

theorem piecesFrom_ne_nil (p : Pending) (bytes : List Byte) : piecesFrom (some p) bytes ≠ [] := by
  induction bytes generalizing p with
  | nil => exact List.cons_ne_nil _ _
  | cons b rest ih =>
      by_cases hb : p.Takes b
      · by_cases hlast : p.owed ≤ 1
        · rw [piecesFrom, resume, if_pos hb, if_pos hlast]
          exact List.cons_ne_nil _ _
        · rw [piecesFrom, resume, if_pos hb, if_neg hlast]
          exact ih _
      · rw [piecesFrom, resume, if_neg hb]
        exact List.cons_ne_nil _ _

/-- No byte is lost: where there is one there is a piece. -/
theorem decodeLossy_eq_nil_iff : decodeLossy bytes = [] ↔ bytes = [] := by
  rw [decodeLossy, List.map_eq_nil_iff, pieces]
  cases bytes with
  | nil => exact iff_of_true rfl rfl
  | cons b rest =>
      refine iff_of_false ?_ (List.cons_ne_nil _ _)
      rcases start_cases b with ⟨-, hone⟩ | hmalformed | ⟨p, hleads⟩
      · rw [piecesFrom, hone]
        exact List.cons_ne_nil _ _
      · rw [piecesFrom, hmalformed]
        exact List.cons_ne_nil _ _
      · rw [piecesFrom_of_leads hleads]
        exact piecesFrom_ne_nil p rest

/-- In a text there is nothing to replace. -/
theorem decodeLossy_encode (cs : List Char) : decodeLossy (encode cs) = cs := by
  rw [decodeLossy, pieces_encode, List.map_map]
  exact List.map_id cs

/-- Bytes that are characters by themselves are a text. -/
theorem encode_map_ofNat (h : ∀ b ∈ bytes, b.toNat < 0x80) :
    encode (bytes.map fun b => Char.ofNat b.toNat) = bytes := by
  induction bytes with
  | nil => rfl
  | cons b bytes ih =>
      rw [List.forall_mem_cons] at h
      have hvalid : b.toNat.isValidChar := .inl (h.1.trans (by decide))
      rw [List.map_cons, encode_cons,
        utf8EncodeChar_of_one (toNat_ofNat_of_isValidChar hvalid) h.1, ih h.2, UInt8.ofNat_toNat]
      rfl

/-! ## The bytes of a string -/

theorem toList_loop (bytes : ByteArray) (i : Nat) (done : List Byte) :
    ByteArray.toList.loop bytes i done = done.reverse ++ bytes.data.toList.drop i := by
  fun_induction ByteArray.toList.loop bytes i done with
  | case1 i done hlt ih =>
      have hlength : i < bytes.data.toList.length := hlt
      have hget : bytes.get! i = bytes.data.toList[i] := by
        rw [Array.getElem_toList]
        exact getElem!_pos bytes.data i hlt
      rw [ih, List.drop_eq_getElem_cons hlength, hget, List.reverse_cons, List.append_assoc]
      rfl
  | case2 i done hge =>
      have hlength : bytes.data.toList.length ≤ i := Nat.not_lt.mp hge
      rw [List.drop_eq_nil_of_le hlength, List.append_nil]

theorem toList_toUTF8 (text : String) : text.toUTF8.toList = encode text.toList := by
  have hencode : text.toUTF8 = (encode text.toList).toByteArray := (String.utf8Encode_toList).symm
  rw [ByteArray.toList, toList_loop, hencode, List.toList_data_toByteArray]
  rfl

/-- The bytes are those of a string. -/
def IsText (bytes : List Byte) : Prop :=
  ∃ text : String, text.toUTF8.toList = bytes

theorem isText_encode (cs : List Char) : IsText (encode cs) :=
  ⟨String.ofList cs, by rw [toList_toUTF8, String.toList_ofList]⟩

theorem decode?_eq_none_iff : decode? bytes = none ↔ ¬ IsText bytes := by
  rw [Option.eq_none_iff_forall_ne_some]
  constructor
  · rintro h ⟨text, rfl⟩
    exact h text.toList (decode?_eq_some_iff.mpr (toList_toUTF8 text))
  · intro h cs hread
    rw [decode?_eq_some_iff.mp hread] at h
    exact h (isText_encode cs)

end Handheld.Utf8
