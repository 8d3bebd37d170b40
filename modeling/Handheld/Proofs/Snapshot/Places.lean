import Handheld.Proofs.Snapshot.Fields
import Handheld.Proofs.Text.Numerals

/-!
# Places of a snapshot

A snapshot has a place for each register and for each of the four bytes, and is what it holds in
these places (`ext_value`).  A field has a text for some of the places: a register takes the whole
value of the field with its key, a byte takes its own part of the value for the bytes.  To assign
a field is to put the numbers that its texts stand for into their places, one after the other, and
to stop at the first text that is no such number (`assign_eq_putAll`).
-/

namespace Handheld.Snapshot

inductive Place where
  | a
  | f
  | b
  | c
  | d
  | e
  | h
  | l
  | sp
  | pc
  | code (i : Fin 4)
  deriving DecidableEq

namespace Place

/-- All places in the order in which they are written. -/
def all : List Place :=
  [a, f, b, c, d, e, h, l, sp, pc] ++ (List.finRange 4).map code

/-- The key of the fields that the place takes its value from. -/
def key : Place → List Char
  | a => ['A']
  | f => ['F']
  | b => ['B']
  | c => ['C']
  | d => ['D']
  | e => ['E']
  | h => ['H']
  | l => ['L']
  | sp => ['S', 'P']
  | pc => ['P', 'C']
  | code _ => ['P', 'C', 'M', 'E', 'M']

/-- The greatest number that the place can hold. -/
def limit : Place → Nat
  | sp | pc => 0xFFFF
  | _ => 0xFF

/-- What a value has for the place, if the key is that of the place. -/
def part? (p : Place) (value : List Char) : Option (List Char) :=
  match p with
  | code i => (value.splitOn ',')[i.val]?
  | _ => some value

/-- The text that a field has for the place. -/
def text? (p : Place) (entry : Entry) : Option (List Char) :=
  if entry.1 = p.key then p.part? entry.2 else none

theorem mem_all (p : Place) : p ∈ all := by
  cases p with
  | code i => revert i; decide
  | _ => decide

theorem nodup_all : all.Nodup := by
  decide

end Place

/-- The number in a place. -/
def value (s : Snapshot) : Place → Nat
  | .a => s.a.toNat
  | .f => s.f.toNat
  | .b => s.b.toNat
  | .c => s.c.toNat
  | .d => s.d.toNat
  | .e => s.e.toNat
  | .h => s.h.toNat
  | .l => s.l.toNat
  | .sp => s.sp.toNat
  | .pc => s.pc.toNat
  | .code i => s.code[i].toNat

/-- Puts a number into a place. -/
def put (s : Snapshot) (p : Place) (n : Nat) : Snapshot :=
  match p with
  | .a => { s with a := .ofNat n }
  | .f => { s with f := .ofNat n }
  | .b => { s with b := .ofNat n }
  | .c => { s with c := .ofNat n }
  | .d => { s with d := .ofNat n }
  | .e => { s with e := .ofNat n }
  | .h => { s with h := .ofNat n }
  | .l => { s with l := .ofNat n }
  | .sp => { s with sp := .ofNat n }
  | .pc => { s with pc := .ofNat n }
  | .code i => { s with code := s.code.set i (.ofNat n) }

/-- The text of a number that is to be put into a place. -/
structure Setting where
  place : Place
  text : List Char

/-- What a field sets, in reading order. -/
def settings (entry : Entry) : List Setting :=
  Place.all.filterMap fun p => (p.text? entry).map (⟨p, ·⟩)

/-- Puts the number that a text stands for into its place. -/
def putText (s : Snapshot) (setting : Setting) : Except ParseError Snapshot :=
  match Hex.parse setting.place.limit setting.text with
  | .ok n => .ok (s.put setting.place n)
  | .error reason => .error ⟨setting.text, reason⟩

def putAll (s : Snapshot) (all : List Setting) : Except ParseError Snapshot :=
  all.foldlM putText s

variable {s s' : Snapshot} {p q : Place} {n : Nat} {text : List Char}

/-! ## What places hold -/

@[simp] theorem value_zero (p : Place) : zero.value p = 0 := by
  cases p with
  | code i => revert i; decide
  | _ => rfl

theorem value_put_self (s : Snapshot) (hn : n ≤ p.limit) : (s.put p n).value p = n := by
  cases p <;> simp only [Place.limit] at hn <;> simp [put, value] <;> omega

theorem value_put_of_ne (s : Snapshot) (n : Nat) (h : p ≠ q) :
    (s.put p n).value q = s.value q := by
  cases p with
  | code i =>
      cases q with
      | code j =>
          have hij : i.val ≠ j.val := fun hval => h (congrArg Place.code (Fin.ext hval))
          simp [put, value, Vector.getElem_set_ne, hij]
      | _ => rfl
  | _ => cases q <;> first | rfl | exact absurd rfl h

theorem ext_value (h : ∀ p, s.value p = s'.value p) : s = s' := by
  cases s
  cases s'
  rw [mk.injEq]
  exact ⟨UInt8.toNat_inj.mp (h .a), UInt8.toNat_inj.mp (h .f), UInt8.toNat_inj.mp (h .b),
    UInt8.toNat_inj.mp (h .c), UInt8.toNat_inj.mp (h .d), UInt8.toNat_inj.mp (h .e),
    UInt8.toNat_inj.mp (h .h), UInt8.toNat_inj.mp (h .l), UInt16.toNat_inj.mp (h .sp),
    UInt16.toNat_inj.mp (h .pc),
    Vector.ext fun i hi => UInt8.toNat_inj.mp (h (.code ⟨i, hi⟩))⟩

/-! ## Assigning a field -/

theorem settings_of_forall_ne {entry : Entry} (h : ∀ p : Place, entry.1 ≠ p.key) :
    settings entry = [] := by
  rw [settings, List.filterMap_eq_nil_iff]
  intro p _
  rw [Place.text?, if_neg (h p), Option.map_none]

theorem putAll_singleton (s : Snapshot) (setting : Setting) :
    s.putAll [setting] = s.putText setting := by
  rw [putAll, List.foldlM_cons]
  exact bind_pure _

theorem parseByte_bind (text : List Char) (f : Byte → Except ParseError α) :
    parseByte text >>= f =
      match Hex.parse 0xFF text with
      | .ok n => f (.ofNat n)
      | .error reason => .error ⟨text, reason⟩ := by
  rw [parseByte, Hex.parseByte]
  cases Hex.parse 0xFF text <;> rfl

theorem parseWord_bind (text : List Char) (f : Word → Except ParseError α) :
    parseWord text >>= f =
      match Hex.parse 0xFFFF text with
      | .ok n => f (.ofNat n)
      | .error reason => .error ⟨text, reason⟩ := by
  rw [parseWord, Hex.parseWord]
  cases Hex.parse 0xFFFF text <;> rfl

/-- What parts set from a place on. -/
def codeSettings : (place : Nat) → List (List Char) → List Setting
  | _, [] => []
  | place, part :: parts =>
    if h : place < 4 then ⟨.code ⟨place, h⟩, part⟩ :: codeSettings (place + 1) parts else []

theorem codeSettings_eq (value : List Char) :
    codeSettings 0 (value.splitOn ',') = settings (['P', 'C', 'M', 'E', 'M'], value) := by
  have hsettings : settings (['P', 'C', 'M', 'E', 'M'], value) =
      [0, 1, 2, 3].filterMap fun i : Fin 4 =>
        (value.splitOn ',')[i.val]?.map (⟨.code i, ·⟩) := rfl
  rw [hsettings]
  match value.splitOn ',' with
  | [] | [_] | [_, _] | [_, _, _] | [_, _, _, _] | _ :: _ :: _ :: _ :: _ :: _ => rfl

/-- The parts are put into their places one after the other. -/
theorem parseCode_bind (s : Snapshot) (place : Nat) (parts : List (List Char)) :
    (parseCode s.code place parts >>= fun code => .ok { s with code }) =
      s.putAll (codeSettings place parts) := by
  induction parts generalizing s place with
  | nil => rfl
  | cons part parts ih =>
      rw [parseCode, codeSettings]
      by_cases h : place < 4
      · rw [dif_pos h, dif_pos h, bind_assoc, parseByte_bind, putAll, List.foldlM_cons, putText]
        have hlimit : (Place.code ⟨place, h⟩).limit = 0xFF := rfl
        rw [hlimit]
        cases Hex.parse 0xFF part with
        | error reason => rfl
        | ok n => exact ih (s.put (.code ⟨place, h⟩) n) (place + 1)
      · rw [dif_neg h, dif_neg h]
        rfl

theorem assign_eq_putAll (s : Snapshot) (entry : Entry) :
    s.assign entry.1 entry.2 = s.putAll (settings entry) := by
  obtain ⟨key, value⟩ := entry
  dsimp only
  unfold assign
  split
  · exact (parseByte_bind _ _).trans (putAll_singleton s ⟨.a, value⟩).symm
  · exact (parseByte_bind _ _).trans (putAll_singleton s ⟨.f, value⟩).symm
  · exact (parseByte_bind _ _).trans (putAll_singleton s ⟨.b, value⟩).symm
  · exact (parseByte_bind _ _).trans (putAll_singleton s ⟨.c, value⟩).symm
  · exact (parseByte_bind _ _).trans (putAll_singleton s ⟨.d, value⟩).symm
  · exact (parseByte_bind _ _).trans (putAll_singleton s ⟨.e, value⟩).symm
  · exact (parseByte_bind _ _).trans (putAll_singleton s ⟨.h, value⟩).symm
  · exact (parseByte_bind _ _).trans (putAll_singleton s ⟨.l, value⟩).symm
  · exact (parseWord_bind _ _).trans (putAll_singleton s ⟨.sp, value⟩).symm
  · exact (parseWord_bind _ _).trans (putAll_singleton s ⟨.pc, value⟩).symm
  · rw [Text.splitAll_eq_splitOn, ← codeSettings_eq]
    exact parseCode_bind s 0 _
  next ha hf hb hc hd he hh hl hsp hpc hcode =>
    have hkey : ∀ p : Place, key ≠ p.key := by
      intro p
      cases p with
      | a => exact ha
      | f => exact hf
      | b => exact hb
      | c => exact hc
      | d => exact hd
      | e => exact he
      | h => exact hh
      | l => exact hl
      | sp => exact hsp
      | pc => exact hpc
      | code i => exact hcode
    rw [settings_of_forall_ne hkey]
    rfl

end Handheld.Snapshot
