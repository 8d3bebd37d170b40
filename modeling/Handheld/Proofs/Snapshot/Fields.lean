import Mathlib.Data.List.Basic
import Handheld.Cpu.Snapshot
import Handheld.Proofs.Text.Parts

/-!
# Fields of a line

Of a line, only the fields count: the words with a colon in them, in their order, each split into
a key and a value at its first colon.  To read the line is to assign them one after the other
(`parse_eq_assignAll`).  The fields of the line of a snapshot are those that were written, since
there is no blank in any of them and no colon in a key (`entriesOf_text`).
-/

namespace Handheld

namespace Hex

/-! ## The characters of numbers -/

theorem isBlank_digit : ∀ {n : Nat}, n < 16 → Text.isBlank (digit n) = false := by
  decide

theorem digit_ne_comma : ∀ {n : Nat}, n < 16 → digit n ≠ ',' := by
  decide

theorem exists_digit_of_mem_byte {b : Byte} {c : Char} (h : c ∈ byte b) :
    ∃ n < 16, c = digit n := by
  have hb := b.toNat_lt
  rw [byte, List.mem_cons, List.mem_singleton] at h
  rcases h with h | h
  · exact ⟨b.toNat / 16, by omega, h⟩
  · exact ⟨b.toNat % 16, by omega, h⟩

theorem isBlank_of_mem_byte (b : Byte) : ∀ c ∈ byte b, Text.isBlank c = false := by
  intro c hc
  obtain ⟨n, hn, rfl⟩ := exists_digit_of_mem_byte hc
  exact isBlank_digit hn

theorem isBlank_of_mem_word (w : Word) : ∀ c ∈ word w, Text.isBlank c = false := by
  intro c hc
  rw [word, List.mem_append] at hc
  exact hc.elim (isBlank_of_mem_byte _ c) (isBlank_of_mem_byte _ c)

theorem comma_notMem_byte (b : Byte) : ',' ∉ byte b := by
  intro h
  obtain ⟨n, hn, hcomma⟩ := exists_digit_of_mem_byte h
  exact digit_ne_comma hn hcomma.symm

end Hex

namespace Snapshot

/-- A field by its key and its value. -/
abbrev Entry := List Char × List Char

/-! ## Any line -/

/-- The fields of a line in their order. -/
def entriesOf (line : String) : List Entry :=
  (line.toList.splitOnP Text.isBlank).filterMap (Text.splitFirst ':')

/-- Assigns fields one after the other, to a snapshot that is zero at first. -/
def assignAll (entries : List Entry) : Except ParseError Snapshot :=
  entries.foldlM (fun s entry => s.assign entry.1 entry.2) zero

/-- The empty parts between blanks, which are no words, are no fields either. -/
theorem filterMap_words (cs : List Char) :
    (Text.words cs).filterMap (Text.splitFirst ':') =
      (cs.splitOnP Text.isBlank).filterMap (Text.splitFirst ':') := by
  rw [Text.words_eq_filter_splitOnP, List.filterMap_filter]
  congr 1
  funext part
  cases part <;> rfl

theorem parse_eq_assignAll (line : String) : parse line = assignAll (entriesOf line) := by
  rw [assignAll, entriesOf, ← filterMap_words, List.foldlM_filterMap, parse, parseChars]
  congr 1
  funext s word
  rw [readWord]
  cases Text.splitFirst ':' word <;> rfl

/-! ## The line of a snapshot -/

variable {s : Snapshot} {entry : Entry}

/-- The four bytes as they stand in a line. -/
def codeParts (s : Snapshot) : List (List Char) :=
  s.code.toList.map Hex.byte

theorem exists_bytes (code : Vector Byte 4) :
    ∃ v₀ v₁ v₂ v₃, code = #v[v₀, v₁, v₂, v₃] := by
  refine ⟨code[0], code[1], code[2], code[3], ?_⟩
  ext i hi
  have hcases : i = 0 ∨ i = 1 ∨ i = 2 ∨ i = 3 := by omega
  rcases hcases with rfl | rfl | rfl | rfl <;> rfl

theorem exists_codeParts (s : Snapshot) :
    ∃ v₀ v₁ v₂ v₃, s.code = #v[v₀, v₁, v₂, v₃] ∧
      s.codeParts = [Hex.byte v₀, Hex.byte v₁, Hex.byte v₂, Hex.byte v₃] := by
  obtain ⟨v₀, v₁, v₂, v₃, h⟩ := exists_bytes s.code
  refine ⟨v₀, v₁, v₂, v₃, h, ?_⟩
  rw [codeParts, h]
  rfl

/-- What is written of a snapshot. -/
def entries (s : Snapshot) : List Entry :=
  [(['A'], Hex.byte s.a), (['F'], Hex.byte s.f), (['B'], Hex.byte s.b), (['C'], Hex.byte s.c),
    (['D'], Hex.byte s.d), (['E'], Hex.byte s.e), (['H'], Hex.byte s.h), (['L'], Hex.byte s.l),
    (['S', 'P'], Hex.word s.sp), (['P', 'C'], Hex.word s.pc),
    (['P', 'C', 'M', 'E', 'M'], [','].intercalate s.codeParts)]

theorem fields_eq_map_entries (s : Snapshot) :
    s.fields = s.entries.map fun entry => field entry.1 entry.2 := by
  obtain ⟨v₀, v₁, v₂, v₃, hcode, hparts⟩ := s.exists_codeParts
  simp [fields, entries, hcode, hparts, List.intercalate]

/-- A key has neither a blank nor a colon in it, whatever it is the key of. -/
theorem key_of_mem_entries (h : entry ∈ s.entries) :
    (∀ c ∈ entry.1, Text.isBlank c = false) ∧ ':' ∉ entry.1 := by
  have hkeys : (s.entries.map Prod.fst).all (·.all fun c => !Text.isBlank c && c != ':') := by
    show [['A'], ['F'], ['B'], ['C'], ['D'], ['E'], ['H'], ['L'], ['S', 'P'], ['P', 'C'],
      ['P', 'C', 'M', 'E', 'M']].all _ = true
    decide
  have hkey := List.all_eq_true.mp hkeys entry.1 (List.mem_map_of_mem h)
  simp only [List.all_eq_true, Bool.and_eq_true, Bool.not_eq_true', bne_iff_ne] at hkey
  constructor
  · intro c hc
    exact (hkey c hc).1
  · intro hcolon
    exact (hkey ':' hcolon).2 rfl

theorem isBlank_of_mem_code (s : Snapshot) :
    ∀ c ∈ [','].intercalate s.codeParts, Text.isBlank c = false := by
  intro c hc
  have hcomma : Text.isBlank ',' = false := by decide
  obtain ⟨v₀, v₁, v₂, v₃, -, hparts⟩ := s.exists_codeParts
  simp only [hparts, List.intercalate_cons_cons, List.intercalate_singleton, List.mem_append,
    List.mem_singleton] at hc
  rcases hc with (hc | rfl) | (hc | rfl) | (hc | rfl) | hc
  all_goals first | exact hcomma | exact Hex.isBlank_of_mem_byte _ c hc

theorem value_of_mem_entries (h : entry ∈ s.entries) :
    ∀ c ∈ entry.2, Text.isBlank c = false := by
  have hvalues : ∀ entry ∈ s.entries, ∀ c ∈ entry.2, Text.isBlank c = false := by
    simp only [entries, List.forall_mem_cons]
    exact ⟨Hex.isBlank_of_mem_byte _, Hex.isBlank_of_mem_byte _, Hex.isBlank_of_mem_byte _,
      Hex.isBlank_of_mem_byte _, Hex.isBlank_of_mem_byte _, Hex.isBlank_of_mem_byte _,
      Hex.isBlank_of_mem_byte _, Hex.isBlank_of_mem_byte _, Hex.isBlank_of_mem_word _,
      Hex.isBlank_of_mem_word _, s.isBlank_of_mem_code, by simp⟩
  exact hvalues entry h

theorem words_chars (s : Snapshot) : Text.words s.chars = s.fields := by
  apply Text.words_intercalate
  intro word hword
  rw [fields_eq_map_entries, List.mem_map] at hword
  obtain ⟨entry, hentry, rfl⟩ := hword
  constructor
  · simp [field]
  · intro c hc
    rw [field, List.mem_append, List.mem_cons] at hc
    rcases hc with hc | rfl | hc
    · exact (key_of_mem_entries hentry).1 c hc
    · decide
    · exact value_of_mem_entries hentry c hc

/-- The fields of the line of a snapshot are those that were written. -/
theorem entriesOf_text (s : Snapshot) : entriesOf s.text = s.entries := by
  have hsplit : ∀ entry ∈ s.entries,
      Text.splitFirst ':' (field entry.1 entry.2) = some entry := by
    intro entry hentry
    exact Text.splitFirst_eq_some_iff.mpr ⟨rfl, (key_of_mem_entries hentry).2⟩
  rw [entriesOf, text, String.toList_ofList, ← filterMap_words, words_chars,
    fields_eq_map_entries, List.filterMap_map]
  calc
    s.entries.filterMap (Text.splitFirst ':' ∘ fun entry => field entry.1 entry.2) =
        s.entries.filterMap some := List.filterMap_congr hsplit
    _ = s.entries := List.filterMap_some

end Snapshot

end Handheld
