import Mathlib.Data.List.Basic
import Mathlib.Data.List.Induction
import Handheld.Cartridge.FileName
import Handheld.Proofs.Text.Parts
import Handheld.Proofs.Text.Utf8

/-!
# How names of cartridge files are written

What a path is taken for, by how it is written.  A path ends in a component if nothing follows it
but slashes, and slashes with a single dot (`EndsIn`); the name of the file is the only component
that leads anywhere of which this is true (`fileName?_eq_some_iff`), and its extension is what
follows the last dot in it (`extension?_eq_some_iff`).  A name is accepted for its extension,
whatever the case of the letters (`validate_eq_ok_iff`).  It is refused because it has no extension
that is a text (`validate_eq_missingExtension_iff`), or because it has another one, which is
reported as it is (`validate_eq_invalidExtension_iff`).
-/

namespace Handheld.FileName

variable {path name stem extension : List Byte}

/-! ## The last component -/

/-- Nothing follows a component of this name but what leads nowhere: slashes, and slashes with a
single dot. -/
def EndsIn (path name : List Byte) : Prop :=
  ∃ directory, ∃ skipped : List (List Byte),
    path = directory ++ name ++ skipped.flatten ∧
    (directory = [] ∨ ∃ above, directory = above ++ [slash]) ∧
    slash ∉ name ∧
    ∀ piece ∈ skipped, piece = [slash] ∨ piece = [slash, dot]

/-- What leads nowhere adds parts that are empty or single dots. -/
theorem exists_splitAll_skipped {skipped : List (List Byte)} (hname : slash ∉ name)
    (h : ∀ piece ∈ skipped, piece = [slash] ∨ piece = [slash, dot]) :
    ∃ parts, Text.splitAll slash (name ++ skipped.flatten) = name :: parts ∧
      ∀ part ∈ parts, part = [] ∨ part = [dot] := by
  induction skipped generalizing name with
  | nil =>
      refine ⟨[], ?_, by simp⟩
      rw [List.flatten_nil, List.append_nil, Text.splitAll_of_notMem hname]
  | cons piece skipped ih =>
      rw [List.forall_mem_cons] at h
      obtain ⟨part, rfl, hpart⟩ : ∃ part, piece = slash :: part ∧ (part = [] ∨ part = [dot]) := by
        rcases h.1 with rfl | rfl
        · exact ⟨[], rfl, .inl rfl⟩
        · exact ⟨[dot], rfl, .inr rfl⟩
      have hslash : slash ∉ part := by
        rcases hpart with rfl | rfl <;> decide
      obtain ⟨parts, hsplit, hparts⟩ := ih hslash h.2
      refine ⟨part :: parts, ?_, List.forall_mem_cons.mpr ⟨hpart, hparts⟩⟩
      rw [List.flatten_cons, List.cons_append, Text.splitAll_append_cons,
        Text.splitAll_of_notMem hname, hsplit]
      rfl

theorem endsIn_iff_splitAll :
    EndsIn path name ↔ ∃ before after, Text.splitAll slash path = before ++ name :: after ∧
      ∀ part ∈ after, part = [] ∨ part = [dot] := by
  constructor
  · rintro ⟨directory, skipped, rfl, hdirectory, hname, hskipped⟩
    obtain ⟨parts, hsplit, hparts⟩ := exists_splitAll_skipped hname hskipped
    rcases hdirectory with rfl | ⟨above, rfl⟩
    · exact ⟨[], parts, hsplit, hparts⟩
    · refine ⟨Text.splitAll slash above, parts, ?_, hparts⟩
      rw [List.append_assoc, List.append_assoc, List.singleton_append, Text.splitAll_append_cons,
        hsplit]
  · rintro ⟨before, after, hsplit, hafter⟩
    refine ⟨before.flatMap (· ++ [slash]), after.map (slash :: ·), ?_, ?_, ?_, ?_⟩
    · rw [← Text.intercalate_splitAll slash path, hsplit, Text.intercalate_append_cons,
        List.flatMap_def]
      rfl
    · cases before using List.reverseRecOn with
      | nil => exact .inl rfl
      | append_singleton before last =>
          refine .inr ⟨before.flatMap (· ++ [slash]) ++ last, ?_⟩
          rw [List.flatMap_append, List.flatMap_singleton, List.append_assoc]
    · have hmem : name ∈ Text.splitAll slash path := by
        rw [hsplit]
        simp
      exact Text.notMem_of_mem_splitAll hmem
    · intro piece hpiece
      obtain ⟨part, hpart, rfl⟩ := List.mem_map.mp hpiece
      rcases hafter part hpart with rfl | rfl
      · exact .inl rfl
      · exact .inr rfl

/-- Such parts lead nowhere. -/
theorem leadsNowhere_iff {part : List Byte} :
    (!(part != [] && part != [dot])) = true ↔ part = [] ∨ part = [dot] := by
  simp [or_iff_not_imp_left]

theorem getLast?_components_eq_some_iff :
    (components path).getLast? = some name ↔ EndsIn path name ∧ name ≠ [] ∧ name ≠ [dot] := by
  rw [components, List.getLast?_filter, List.find?_eq_some_iff_append, endsIn_iff_splitAll,
    Bool.and_eq_true, bne_iff_ne, bne_iff_ne, and_comm]
  refine and_congr_left fun _ => ?_
  constructor
  · rintro ⟨after, before, hsplit, hafter⟩
    refine ⟨before.reverse, after.reverse, ?_, ?_⟩
    · rw [← List.reverse_reverse (Text.splitAll slash path), hsplit]
      simp
    · intro part hpart
      exact leadsNowhere_iff.mp (hafter part (List.mem_reverse.mp hpart))
  · rintro ⟨before, after, hsplit, hafter⟩
    refine ⟨after.reverse, before.reverse, ?_, ?_⟩
    · rw [hsplit]
      simp
    · intro part hpart
      exact leadsNowhere_iff.mpr (hafter part (List.mem_reverse.mp hpart))

/-- The name of the file is the component that the path ends in, unless that leads nowhere or to
the directory above. -/
theorem fileName?_eq_some_iff :
    fileName? path = some name ↔
      EndsIn path name ∧ name ≠ [] ∧ name ≠ [dot] ∧ name ≠ [dot, dot] := by
  rw [← and_assoc, ← and_assoc, and_assoc (a := EndsIn path name),
    ← getLast?_components_eq_some_iff, fileName?]
  cases (components path).getLast? with
  | none => simp
  | some last =>
      by_cases hlast : last = [dot, dot]
      · simp only [hlast, if_true, Option.some.injEq]
        constructor
        · intro h
          cases h
        · rintro ⟨rfl, h⟩
          exact absurd rfl h
      · simp only [hlast, if_false, Option.some.injEq]
        constructor
        · rintro rfl
          exact ⟨rfl, hlast⟩
        · exact And.left

/-! ## The extension -/

/-- The last dot of a name is the first one from its end. -/
theorem splitLastDot?_eq_map (name : List Byte) :
    splitLastDot? name =
      (Text.splitFirst dot name.reverse).map fun parts => (parts.2.reverse, parts.1.reverse) := by
  have htest : (fun b : Byte => b != dot) = fun b => decide (b ≠ dot) := by
    funext b
    rw [bne, Bool.beq_eq_decide_eq, decide_not]
  rw [splitLastDot?, Text.splitFirst, htest]
  cases name.reverse.dropWhile fun b => decide (b ≠ dot) with
  | nil => rfl
  | cons b rest => rfl

theorem splitLastDot?_eq_some_iff :
    splitLastDot? name = some (stem, extension) ↔
      name = stem ++ dot :: extension ∧ dot ∉ extension := by
  rw [splitLastDot?_eq_map, Option.map_eq_some_iff]
  constructor
  · rintro ⟨⟨after, before⟩, hsplit, hparts⟩
    obtain ⟨hreverse, hafter⟩ := Text.splitFirst_eq_some_iff.mp hsplit
    obtain ⟨rfl, rfl⟩ := Prod.mk.inj hparts
    refine ⟨?_, mt List.mem_reverse.mp hafter⟩
    rw [← List.reverse_reverse name, hreverse]
    simp
  · rintro ⟨rfl, hextension⟩
    refine ⟨(extension.reverse, stem.reverse), Text.splitFirst_eq_some_iff.mpr ⟨?_, ?_⟩, ?_⟩
    · simp
    · exact mt List.mem_reverse.mp hextension
    · simp

/-- The component that the path ends in does not lead to the directory above, and this is what
follows its last dot, which something precedes. -/
def HasExtension (path extension : List Byte) : Prop :=
  ∃ stem, EndsIn path (stem ++ dot :: extension) ∧ stem ≠ [] ∧
    stem ++ dot :: extension ≠ [dot, dot] ∧ dot ∉ extension

theorem extension?_eq_some_iff_split :
    extension? path = some extension ↔
      ∃ stem, stem ≠ [] ∧ (fileName? path).bind splitLastDot? = some (stem, extension) := by
  rw [extension?]
  cases (fileName? path).bind splitLastDot? with
  | none => simp
  | some parts =>
      obtain ⟨stem, last⟩ := parts
      cases stem with
      | nil => simp
      | cons b stem => simp

theorem extension?_eq_some_iff : extension? path = some extension ↔ HasExtension path extension := by
  rw [extension?_eq_some_iff_split]
  refine exists_congr fun stem => ?_
  rw [Option.bind_eq_some_iff]
  constructor
  · rintro ⟨hstem, name, hname, hsplit⟩
    obtain ⟨hends, -, -, habove⟩ := fileName?_eq_some_iff.mp hname
    obtain ⟨rfl, hlast⟩ := splitLastDot?_eq_some_iff.mp hsplit
    exact ⟨hends, hstem, habove, hlast⟩
  · rintro ⟨hends, hstem, habove, hlast⟩
    refine ⟨hstem, stem ++ dot :: extension, fileName?_eq_some_iff.mpr ⟨hends, ?_, ?_, habove⟩,
      splitLastDot?_eq_some_iff.mpr ⟨rfl, hlast⟩⟩
    · simp
    · intro hdot
      rw [List.append_eq_singleton_iff] at hdot
      simp [hstem] at hdot

/-! ## Letters of either case -/

/-- The byte of a small letter for that of a capital one, and any other byte for itself. -/
def lowered (b : Byte) : Byte :=
  if 0x41 ≤ b ∧ b ≤ 0x5A then b + 0x20 else b

/-- The bytes of `gb` or `gbc`, in letters of either case. -/
def IsCartridgeExtension (extension : List Byte) : Prop :=
  extension.map lowered = [0x67, 0x62] ∨ extension.map lowered = [0x67, 0x62, 0x63]

instance (extension : List Byte) : Decidable (IsCartridgeExtension extension) :=
  inferInstanceAs (Decidable (_ ∨ _))

theorem lowered_of_le {b : Byte} (h : 0x80 ≤ b.toNat) : lowered b = b := by
  apply if_neg
  rintro ⟨_, hle⟩
  have hle' := UInt8.le_iff_toNat_le.mp hle
  exact absurd (h.trans hle') (by decide)

theorem toNat_lt_of_lowered {b : Byte} (h : (lowered b).toNat < 0x80) : b.toNat < 0x80 := by
  by_contra hle
  rw [lowered_of_le (Nat.not_lt.mp hle)] at h
  exact hle h

/-- The letters that have two cases are characters of one byte. -/
theorem utf8EncodeChar_toLower (c : Char) :
    String.utf8EncodeChar c.toLower = (String.utf8EncodeChar c).map lowered := by
  by_cases hone : c.toNat < 0x80
  · have hall : ∀ i : Fin 0x80, String.utf8EncodeChar (Char.ofNat i).toLower =
        (String.utf8EncodeChar (Char.ofNat i)).map lowered := by decide
    have hc := hall ⟨c.toNat, hone⟩
    rwa [Char.ofNat_toNat] at hc
  · have hsmall : c.toLower = c := by
      apply dif_neg
      rintro ⟨_, hle⟩
      exact hone (lt_of_le_of_lt (UInt32.le_iff_toNat_le.mp hle) (by decide))
    have hsame : (String.utf8EncodeChar c).map lowered = (String.utf8EncodeChar c).map id := by
      apply List.map_congr_left
      intro b hb
      exact lowered_of_le (Utf8.le_of_mem_utf8EncodeChar (Nat.not_lt.mp hone) hb)
    rw [hsmall, hsame, List.map_id]

theorem encode_map_toLower (cs : List Char) :
    Utf8.encode (cs.map Char.toLower) = (Utf8.encode cs).map lowered := by
  induction cs with
  | nil => rfl
  | cons c cs ih =>
      rw [List.map_cons, Utf8.encode_cons, Utf8.encode_cons, List.map_append,
        utf8EncodeChar_toLower, ih]

theorem isCartridgeExtension_encode_iff (cs : List Char) :
    IsCartridgeExtension (Utf8.encode cs) ↔
      cs.map Char.toLower = ['g', 'b'] ∨ cs.map Char.toLower = ['g', 'b', 'c'] := by
  have hshort : Utf8.encode ['g', 'b'] = [0x67, 0x62] := by decide
  have hlong : Utf8.encode ['g', 'b', 'c'] = [0x67, 0x62, 0x63] := by decide
  rw [IsCartridgeExtension, ← encode_map_toLower, ← hshort, ← hlong,
    Utf8.encode_injective.eq_iff, Utf8.encode_injective.eq_iff]

theorem IsCartridgeExtension.lowered_cases (h : IsCartridgeExtension extension) {b : Byte}
    (hb : b ∈ extension) : lowered b = 0x67 ∨ lowered b = 0x62 ∨ lowered b = 0x63 := by
  have hmem := List.mem_map_of_mem (f := lowered) hb
  rcases h with h | h
  · rw [h, List.mem_pair] at hmem
    exact hmem.imp_right .inl
  · rw [h, List.mem_cons, List.mem_pair] at hmem
    exact hmem

theorem IsCartridgeExtension.isText (h : IsCartridgeExtension extension) :
    Utf8.IsText extension := by
  have hone : ∀ b ∈ extension, b.toNat < 0x80 := by
    intro b hb
    apply toNat_lt_of_lowered
    rcases h.lowered_cases hb with hletter | hletter | hletter <;> rw [hletter] <;> decide
  rw [← Utf8.encode_map_ofNat hone]
  exact Utf8.isText_encode _

theorem IsCartridgeExtension.dot_notMem (h : IsCartridgeExtension extension) :
    dot ∉ extension := by
  intro hdot
  rcases h.lowered_cases hdot with hletter | hletter | hletter <;>
    exact absurd hletter (by decide)

/-- A name with such an extension does not lead to the directory above. -/
theorem IsCartridgeExtension.hasExtension (h : IsCartridgeExtension extension)
    (hends : EndsIn path (stem ++ dot :: extension)) (hstem : stem ≠ []) :
    HasExtension path extension := by
  refine ⟨stem, hends, hstem, ?_, h.dot_notMem⟩
  intro hdots
  have hlength := congrArg List.length hdots
  have hpos := List.length_pos_iff.mpr hstem
  rw [List.length_append, List.length_cons, List.length_cons, List.length_singleton] at hlength
  obtain rfl : extension = [] := List.eq_nil_of_length_eq_zero (by omega)
  exact absurd h (by decide)

/-! ## What is accepted -/

/-- An extension that is a text decides. -/
theorem validate_of_isText {found : String} (h : extension? path = some found.toUTF8.toList) :
    validate path =
      if IsCartridgeExtension found.toUTF8.toList then .ok ()
      else .error (.invalidExtension ".gb or .gbc" found) := by
  rw [Utf8.toList_toUTF8] at h ⊢
  have hread : (extension? path).bind Utf8.decode? = some found.toList := by
    rw [h, Option.bind_some, Utf8.decode?_eq_some_iff]
  rw [validate, hread]
  simp only [isCartridgeExtension_encode_iff, String.ofList_toList]

/-- Otherwise there is none to accept. -/
theorem validate_of_not_isText (h : ∀ extension, extension? path = some extension →
    ¬ Utf8.IsText extension) : validate path = .error .missingExtension := by
  have hread : (extension? path).bind Utf8.decode? = none := by
    cases hextension : extension? path with
    | none => rfl
    | some extension => exact Utf8.decode?_eq_none_iff.mpr (h extension hextension)
  rw [validate, hread]

theorem isText_or_not (path : Path) :
    (∃ found : String, extension? path = some found.toUTF8.toList) ∨
      ∀ extension, extension? path = some extension → ¬ Utf8.IsText extension := by
  by_cases h : ∃ extension, extension? path = some extension ∧ Utf8.IsText extension
  · obtain ⟨_, hextension, found, rfl⟩ := h
    exact .inl ⟨found, hextension⟩
  · exact .inr fun extension hextension htext => h ⟨extension, hextension, htext⟩

/-- Accepted are the names that end in a dot with something before it, and `gb` or `gbc` after
it. -/
theorem validate_eq_ok_iff :
    validate path = .ok () ↔
      ∃ stem extension, EndsIn path (stem ++ dot :: extension) ∧ stem ≠ [] ∧
        IsCartridgeExtension extension := by
  constructor
  · intro h
    rcases isText_or_not path with ⟨found, hfound⟩ | hnone
    · rw [validate_of_isText hfound] at h
      obtain ⟨stem, hends, hstem, -, -⟩ := extension?_eq_some_iff.mp hfound
      by_cases hext : IsCartridgeExtension found.toUTF8.toList
      · exact ⟨stem, _, hends, hstem, hext⟩
      · rw [if_neg hext] at h
        cases h
    · rw [validate_of_not_isText hnone] at h
      cases h
  · rintro ⟨stem, extension, hends, hstem, hext⟩
    have hhas := hext.hasExtension hends hstem
    obtain ⟨found, rfl⟩ := hext.isText
    rw [validate_of_isText (extension?_eq_some_iff.mpr hhas), if_pos hext]

theorem validate_eq_missingExtension_iff :
    validate path = .error .missingExtension ↔
      extension? path = none ∨
        ∃ extension, extension? path = some extension ∧ ¬ Utf8.IsText extension := by
  constructor
  · intro h
    rcases isText_or_not path with ⟨found, hfound⟩ | hnone
    · rw [validate_of_isText hfound] at h
      split at h <;> cases h
    · cases hextension : extension? path with
      | none => exact .inl rfl
      | some extension => exact .inr ⟨extension, rfl, hnone extension hextension⟩
  · intro h
    apply validate_of_not_isText
    intro extension hextension
    rcases h with hnone | ⟨extension', hextension', hmalformed⟩
    · rw [hnone] at hextension
      cases hextension
    · obtain rfl := Option.some.inj (hextension.symm.trans hextension')
      exact hmalformed

/-- The extension that is reported is the one that the name has, letter by letter. -/
theorem validate_eq_invalidExtension_iff {expected found : String} :
    validate path = .error (.invalidExtension expected found) ↔
      expected = ".gb or .gbc" ∧ extension? path = some found.toUTF8.toList ∧
        ¬ IsCartridgeExtension found.toUTF8.toList := by
  constructor
  · intro h
    rcases isText_or_not path with ⟨found', hfound⟩ | hnone
    · rw [validate_of_isText hfound] at h
      by_cases hext : IsCartridgeExtension found'.toUTF8.toList
      · rw [if_pos hext] at h
        cases h
      · rw [if_neg hext] at h
        cases h
        exact ⟨rfl, hfound, hext⟩
    · rw [validate_of_not_isText hnone] at h
      cases h
  · rintro ⟨rfl, hfound, hext⟩
    rw [validate_of_isText hfound, if_neg hext]

/-- There is no other reason for which a name is refused. -/
theorem eq_of_validate_eq_error {e : LoadError} (h : validate path = .error e) :
    e = .missingExtension ∨ ∃ found, e = .invalidExtension ".gb or .gbc" found := by
  rcases isText_or_not path with ⟨found, hfound⟩ | hnone
  · rw [validate_of_isText hfound] at h
    split at h
    · cases h
    · cases h
      exact .inr ⟨found, rfl⟩
  · rw [validate_of_not_isText hnone] at h
    cases h
    exact .inl rfl

end Handheld.FileName
