import Handheld.CommandLine.Session
import Handheld.Proofs.Cartridge.FileName

/-!
# Names are checked before files are read

A cartridge is loaded from the image in a file.  The image is found by a path, which need not be
a text, wherever files are read from (`readImage`); the paths in arguments are texts, and loading
by one of them is to read the image and to make a cartridge of it (`load_eq_readImage`).  Whether
a name is accepted depends on how the path is written and on nothing else, so what the files hold
makes no difference to a name that is refused.
-/

namespace Handheld.CommandLine

open FileName

/-- Reads the image in a cartridge file, with the events of doing so.  In place of the content of a
file there may be the reason that it cannot be read.  The name is checked first, and the path is
shown with U+FFFD in place of what is no text in it. -/
def readImage (read : Path → Except String (Array Byte)) (path : Path) :
    Except LoadError (Array Byte) × List Event :=
  match validate path with
  | .error e => (.error e, [])
  | .ok () =>
    match read path with
    | .error reason => (.error (.unreadable reason), [])
    | .ok image => (.ok image, [.fileRead (String.ofList (Utf8.decodeLossy path)) image.size])

variable {path : Path} {e : LoadError}

theorem load_eq_readImage (text : String) (content : Except String (Array Byte)) :
    load text content =
      match readImage (fun _ => content) text.toUTF8.toList with
      | (.error e, events) => (.error e, events)
      | (.ok image, events) =>
        (Cartridge.ofImage image, events ++ Cartridge.ofImageEvents image) := by
  have hshown : String.ofList (Utf8.decodeLossy text.toUTF8.toList) = text := by
    rw [Utf8.toList_toUTF8, Utf8.decodeLossy_encode, String.ofList_toList]
  unfold load readImage
  rw [hshown]
  cases validate text.toUTF8.toList with
  | error e => rfl
  | ok _ =>
      cases content with
      | error reason => rfl
      | ok image => rfl

theorem readImage_of_refused (h : validate path = .error e)
    (read : Path → Except String (Array Byte)) : readImage read path = (.error e, []) := by
  rw [readImage, h]

theorem load_of_refused {text : String} (h : validate text.toUTF8.toList = .error e)
    (content : Except String (Array Byte)) : load text content = (.error e, []) := by
  rw [load_eq_readImage, readImage_of_refused h]

theorem loadAndPlay_of_refused {arguments : Arguments}
    (h : validate arguments.cartridgePath.toUTF8.toList = .error e) (filter : Event → Bool)
    (tree : FileTree) (fuel : Nat) :
    loadAndPlay filter tree arguments fuel = some ⟨some (.load e), "", []⟩ := by
  simp only [loadAndPlay, load_of_refused h]
  rfl

/-- A path is accepted if and only if, but for slashes and slashes with a single dot at its end,
its last component is a stem that is not empty, a dot, and `gb` or `gbc` in letters of either case.
It is refused for the lack of an extension if and only if it has none or one that is not a text,
and for its extension, which is reported as it is, also when it is empty, if and only if that is
another text.  There are no other refusals, and with a name that is refused an image is not read
and a session ends with the same error, whatever the files hold. -/
theorem only_names_of_cartridges_are_accepted (path : Path) :
    (validate path = .ok () ↔
      ∃ stem extension, EndsIn path (stem ++ dot :: extension) ∧ stem ≠ [] ∧
        IsCartridgeExtension extension) ∧
    (∀ extension, extension? path = some extension ↔ HasExtension path extension) ∧
    (validate path = .error .missingExtension ↔
      extension? path = none ∨
        ∃ extension, extension? path = some extension ∧ ¬ Utf8.IsText extension) ∧
    (∀ found : String, validate path = .error (.invalidExtension ".gb or .gbc" found) ↔
      extension? path = some found.toUTF8.toList ∧
        ¬ IsCartridgeExtension found.toUTF8.toList) ∧
    ∀ e, validate path = .error e →
      (e = .missingExtension ∨ ∃ found, e = .invalidExtension ".gb or .gbc" found) ∧
      (∀ read, readImage read path = (.error e, [])) ∧
      ∀ arguments : Arguments, arguments.cartridgePath.toUTF8.toList = path →
        ∀ filter tree fuel,
          loadAndPlay filter tree arguments fuel = some ⟨some (.load e), "", []⟩ := by
  refine ⟨validate_eq_ok_iff, fun _ => extension?_eq_some_iff, validate_eq_missingExtension_iff,
    ?_, ?_⟩
  · intro found
    rw [validate_eq_invalidExtension_iff]
    exact and_iff_right rfl
  · intro e h
    refine ⟨eq_of_validate_eq_error h, readImage_of_refused h, ?_⟩
    rintro arguments rfl filter tree fuel
    exact loadAndPlay_of_refused h filter tree fuel

/-- What leads nowhere at the end of a path and the case of letters make no difference.  A name that
ends in a dot has an empty extension, and the directory above has none, nor has a name whose
extension is malformed. -/
theorem names_of_cartridges_are_told_apart :
    validate (Utf8.encode ['a', '/', '.', '/', 'b', '.', 'G', 'b', '/', '.', '/']) = .ok () ∧
    validate (Utf8.encode ['b', '.', 'g', 'b', '/', '.', '.']) = .error .missingExtension ∧
    validate [0x62, 0x2E, 0xFF] = .error .missingExtension ∧
    validate (Utf8.encode ['b', '.', 'g', 'b', '.']) =
      .error (.invalidExtension ".gb or .gbc" "") ∧
    (∀ read, readImage read (Utf8.encode ['b', '.', 'g', 'b', '.']) =
      (.error (.invalidExtension ".gb or .gbc" ""), [])) ∧
    ∀ filter tree fuel, loadAndPlay filter tree ⟨"b.gb.", none, none⟩ fuel =
      some ⟨some (.load (.invalidExtension ".gb or .gbc" "")), "", []⟩ := by
  obtain ⟨haccepts, -⟩ := only_names_of_cartridges_are_accepted
    (Utf8.encode ['a', '/', '.', '/', 'b', '.', 'G', 'b', '/', '.', '/'])
  obtain ⟨-, -, hmissing, -⟩ := only_names_of_cartridges_are_accepted
    (Utf8.encode ['b', '.', 'g', 'b', '/', '.', '.'])
  obtain ⟨-, -, hmalformed, -⟩ := only_names_of_cartridges_are_accepted [0x62, 0x2E, 0xFF]
  obtain ⟨-, -, -, hinvalid, hrefused⟩ := only_names_of_cartridges_are_accepted
    (Utf8.encode ['b', '.', 'g', 'b', '.'])
  have hempty := (hinvalid "").mpr ⟨by decide +kernel, by decide +kernel⟩
  obtain ⟨-, hunread, hsession⟩ := hrefused _ hempty
  refine ⟨haccepts.mpr ?_, hmissing.mpr (.inl (by decide)), hmalformed.mpr (.inr ?_), hempty,
    hunread, hsession ⟨"b.gb.", none, none⟩ (Utf8.toList_toUTF8 "b.gb.")⟩
  · refine ⟨[0x62], [0x47, 0x62], ⟨[0x61, 0x2F, 0x2E, 0x2F], [[0x2F, 0x2E], [0x2F]], ?_⟩, ?_⟩
    · refine ⟨by decide, .inr ⟨[0x61, 0x2F, 0x2E], rfl⟩, by decide, by decide⟩
    · decide
  · refine ⟨[0xFF], by decide, ?_⟩
    rw [← Utf8.decode?_eq_none_iff]
    decide

end Handheld.CommandLine
