import Handheld.Proofs.Snapshot.Fields

/-!
# Lines of snapshots read back

Each field of the line of a snapshot assigns the value that was written, and together they are all
there is to a snapshot.  So what is written reads back (`parse_text`), different snapshots have
different lines, and a line is that of a snapshot if and only if what is read from it is written
in the same way again.
-/

namespace Handheld.Snapshot

/-! ## Values -/

theorem parseByte_byte (b : Byte) : parseByte (Hex.byte b) = .ok b := by
  rw [parseByte, Hex.parse_byte]
  rfl

theorem parseWord_word (w : Word) : parseWord (Hex.word w) = .ok w := by
  rw [parseWord, Hex.parse_word]
  rfl

theorem splitAll_code (s : Snapshot) :
    Text.splitAll ',' ([','].intercalate s.codeParts) = s.codeParts := by
  obtain ⟨v₀, v₁, v₂, v₃, -, hparts⟩ := s.exists_codeParts
  rw [Text.splitAll_eq_splitOn]
  apply List.splitOn_intercalate
  · simp [hparts, Hex.comma_notMem_byte]
  · simp [hparts]

/-- Four parts take all four places. -/
theorem parseCode_codeParts (code : Vector Byte 4) (s : Snapshot) :
    parseCode code 0 s.codeParts = .ok s.code := by
  obtain ⟨v₀, v₁, v₂, v₃, hcode, hparts⟩ := s.exists_codeParts
  obtain ⟨w₀, w₁, w₂, w₃, rfl⟩ := exists_bytes code
  rw [hcode, hparts]
  simp only [parseCode, parseByte_byte]
  rfl

/-! ## Lines -/

theorem assignAll_entries (s : Snapshot) : assignAll s.entries = .ok s := by
  simp only [assignAll, entries, List.foldlM_cons, List.foldlM_nil, assign, parseByte_byte,
    parseWord_word, splitAll_code, parseCode_codeParts]
  rfl

/-- What is written of a snapshot reads back. -/
theorem parse_text (s : Snapshot) : parse s.text = .ok s := by
  rw [parse_eq_assignAll, entriesOf_text, assignAll_entries]

theorem text_injective {s s' : Snapshot} (h : s.text = s'.text) : s = s' := by
  have hread := parse_text s
  rw [h, parse_text] at hread
  exact (Except.ok.inj hread).symm

/-- The line of a snapshot reads back as that snapshot.  So different snapshots have different
lines, and the lines of snapshots are just those that come out again when what is read from them
is written. -/
theorem lines_read_back :
    (∀ s : Snapshot, parse s.text = .ok s) ∧
    (∀ s s' : Snapshot, s.text = s'.text ↔ s = s') ∧
    ∀ line : String, (∃ s : Snapshot, s.text = line) ↔ (parse line).map text = .ok line := by
  refine ⟨parse_text, ?_, ?_⟩
  · intro s s'
    exact ⟨text_injective, congrArg text⟩
  · intro line
    constructor
    · rintro ⟨s, rfl⟩
      rw [parse_text]
      rfl
    · intro h
      cases hread : parse line with
      | error e =>
          rw [hread] at h
          cases h
      | ok s =>
          rw [hread] at h
          exact ⟨s, Except.ok.inj h⟩

end Handheld.Snapshot
