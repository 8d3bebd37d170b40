import Mathlib.Data.List.Nodup
import Handheld.Proofs.Snapshot.Places

/-!
# The grammar of lines

A line is accepted if every text that it has for a place is a numeral within the limit of the
place (`IsAccepted`), and then each place holds the last number that there is for it, and zero if
there is none (`IsReadFrom`).  Otherwise the line is refused for the first text in reading order
that is no such numeral (`IsRefusedAt`).  So it does not matter what else there is in a line and
what separates its fields, and an accepted line may have fields with different keys in any order.
-/

namespace Handheld.Snapshot

/-! ## What a line says -/

/-- The texts that a line has for a place, in their order. -/
def textsFor (p : Place) (line : String) : List (List Char) :=
  (entriesOf line).filterMap p.text?

def IsAccepted (line : String) : Prop :=
  ∀ p : Place, ∀ text ∈ textsFor p line, ∃ n, Hex.IsNumeral p.limit text n

/-- The number of the last text, and zero if there is no text. -/
def IsLast (limit : Nat) (texts : List (List Char)) (n : Nat) : Prop :=
  match texts.getLast? with
  | some text => Hex.IsNumeral limit text n
  | none => n = 0

def IsReadFrom (s : Snapshot) (line : String) : Prop :=
  ∀ p : Place, IsLast p.limit (textsFor p line) (s.value p)

/-- What a line sets, in reading order. -/
def settingsOf (line : String) : List Setting :=
  (entriesOf line).flatMap settings

/-- A setting is good if its text is a numeral that its place can hold. -/
def Setting.IsGood (setting : Setting) : Prop :=
  ∃ n, Hex.IsNumeral setting.place.limit setting.text n

/-- The error tells of the first setting that is not good. -/
def IsRefusedAt (all : List Setting) (e : ParseError) : Prop :=
  ∃ before p after, all = before ++ ⟨p, e.value⟩ :: after ∧
    (∀ setting ∈ before, setting.IsGood) ∧ Hex.IsRefused p.limit e.value e.reason

variable {s s' : Snapshot} {p q : Place} {n : Nat} {text : List Char} {e : ParseError}
  {all before after : List Setting} {setting : Setting} {line line' : String}

/-! ## Putting texts into places -/

theorem putText_of_isNumeral (s : Snapshot) (h : Hex.IsNumeral p.limit text n) :
    s.putText ⟨p, text⟩ = .ok (s.put p n) := by
  rw [putText, Hex.parse_of_isNumeral h]

theorem putText_of_isRefused (s : Snapshot) (h : Hex.IsRefused p.limit e.value e.reason) :
    s.putText ⟨p, e.value⟩ = .error e := by
  rw [putText, Hex.parse_of_isRefused h]

theorem isGood_or_isRefused (setting : Setting) :
    setting.IsGood ∨ ∃ reason, Hex.IsRefused setting.place.limit setting.text reason :=
  Hex.isNumeral_or_isRefused setting.place.limit setting.text

theorem exists_of_putText_ok (h : s.putText ⟨p, text⟩ = .ok s') :
    ∃ n, Hex.IsNumeral p.limit text n ∧ s' = s.put p n := by
  rcases isGood_or_isRefused ⟨p, text⟩ with ⟨n, hn⟩ | ⟨reason, hreason⟩
  · rw [putText_of_isNumeral s hn] at h
    exact ⟨n, hn, (Except.ok.inj h).symm⟩
  · rw [putText_of_isRefused (e := ⟨text, reason⟩) s hreason] at h
    cases h

theorem putAll_append (s : Snapshot) (before after : List Setting) :
    s.putAll (before ++ after) = s.putAll before >>= fun s => s.putAll after :=
  List.foldlM_append

theorem putAll_of_isGood (s : Snapshot) (h : ∀ setting ∈ all, setting.IsGood) :
    ∃ s', s.putAll all = .ok s' := by
  induction all generalizing s with
  | nil => exact ⟨s, rfl⟩
  | cons setting all ih =>
      rw [List.forall_mem_cons] at h
      obtain ⟨⟨n, hn⟩, hall⟩ := h
      obtain ⟨s', hs'⟩ := ih (s.put setting.place n) hall
      refine ⟨s', ?_⟩
      rw [putAll, List.foldlM_cons, putText_of_isNumeral s hn]
      exact hs'

theorem putAll_of_isRefusedAt (s : Snapshot) (h : IsRefusedAt all e) :
    s.putAll all = .error e := by
  obtain ⟨before, p, after, rfl, hbefore, hrefused⟩ := h
  obtain ⟨s', hs'⟩ := putAll_of_isGood s hbefore
  rw [putAll_append, hs']
  show s'.putAll (⟨p, e.value⟩ :: after) = _
  rw [putAll, List.foldlM_cons, putText_of_isRefused s' hrefused]
  rfl

/-- Either all settings are good, or there is a first one that is not. -/
theorem isGood_or_isRefusedAt (all : List Setting) :
    (∀ setting ∈ all, setting.IsGood) ∨ ∃ e, IsRefusedAt all e := by
  induction all with
  | nil => exact .inl (by simp)
  | cons setting all ih =>
      obtain ⟨p, text⟩ := setting
      rcases isGood_or_isRefused ⟨p, text⟩ with hgood | ⟨reason, hreason⟩
      · rcases ih with hall | ⟨e, before, q, after, rfl, hbefore, hrefused⟩
        · exact .inl (List.forall_mem_cons.mpr ⟨hgood, hall⟩)
        · exact .inr ⟨e, ⟨p, text⟩ :: before, q, after, rfl,
            List.forall_mem_cons.mpr ⟨hgood, hbefore⟩, hrefused⟩
      · exact .inr ⟨⟨text, reason⟩, [], p, all, rfl, by simp, hreason⟩

theorem putAll_eq_error_iff : s.putAll all = .error e ↔ IsRefusedAt all e := by
  constructor
  · intro h
    rcases isGood_or_isRefusedAt all with hgood | ⟨e', he'⟩
    · obtain ⟨s', hs'⟩ := putAll_of_isGood s hgood
      rw [hs'] at h
      cases h
    · rw [putAll_of_isRefusedAt s he'] at h
      obtain rfl := Except.error.inj h
      exact he'
  · exact putAll_of_isRefusedAt s

/-! ## What the places hold afterwards -/

/-- The texts for a place among settings. -/
def textsAt (p : Place) (all : List Setting) : List (List Char) :=
  all.filterMap fun setting => if setting.place = p then some setting.text else none

theorem textsAt_append (p : Place) (before after : List Setting) :
    textsAt p (before ++ after) = textsAt p before ++ textsAt p after :=
  List.filterMap_append

theorem textsAt_concat_self (p : Place) (text : List Char) (all : List Setting) :
    textsAt p (all ++ [⟨p, text⟩]) = textsAt p all ++ [text] := by
  rw [textsAt_append]
  simp [textsAt]

theorem textsAt_concat_of_ne (h : q ≠ p) (text : List Char) (all : List Setting) :
    textsAt p (all ++ [⟨q, text⟩]) = textsAt p all := by
  rw [textsAt_append]
  simp [textsAt, h]

theorem mem_textsAt : text ∈ textsAt p all ↔ ⟨p, text⟩ ∈ all := by
  rw [textsAt, List.mem_filterMap]
  constructor
  · rintro ⟨⟨q, text'⟩, hmem, h⟩
    split at h
    next hq =>
      obtain rfl := hq
      obtain rfl := Option.some.inj h
      exact hmem
    next => cases h
  · intro hmem
    exact ⟨_, hmem, if_pos rfl⟩

theorem exists_of_putAll_append (h : s.putAll (before ++ after) = .ok s') :
    ∃ s₁, s.putAll before = .ok s₁ ∧ s₁.putAll after = .ok s' := by
  rw [putAll_append] at h
  cases hbefore : s.putAll before with
  | error e =>
      rw [hbefore] at h
      cases h
  | ok s₁ =>
      rw [hbefore] at h
      exact ⟨s₁, rfl, h⟩

/-- What is put into a place last stays there.  The induction is on the last setting. -/
theorem isLast_textsAt (h : zero.putAll all = .ok s) (p : Place) :
    IsLast p.limit (textsAt p all) (s.value p) := by
  induction all using List.reverseRecOn generalizing s with
  | nil =>
      obtain rfl := Except.ok.inj h
      exact value_zero p
  | append_singleton all setting ih =>
      obtain ⟨q, text⟩ := setting
      obtain ⟨s₁, hs₁, hlast⟩ := exists_of_putAll_append h
      rw [putAll_singleton] at hlast
      obtain ⟨n, hn, rfl⟩ := exists_of_putText_ok hlast
      by_cases hq : q = p
      · subst hq
        rw [textsAt_concat_self, value_put_self s₁ hn.le_limit, IsLast, List.getLast?_concat]
        exact hn
      · rw [textsAt_concat_of_ne hq, value_put_of_ne s₁ n hq]
        exact ih hs₁

theorem isLast_unique {limit m : Nat} {texts : List (List Char)} (h : IsLast limit texts n)
    (h' : IsLast limit texts m) : n = m := by
  rw [IsLast] at h h'
  cases hlast : texts.getLast? with
  | none =>
      rw [hlast] at h h'
      exact h.trans h'.symm
  | some text =>
      rw [hlast] at h h'
      exact h.value.symm.trans h'.value

theorem putAll_zero_eq_ok_iff :
    zero.putAll all = .ok s ↔
      (∀ setting ∈ all, setting.IsGood) ∧ ∀ p, IsLast p.limit (textsAt p all) (s.value p) := by
  constructor
  · intro h
    constructor
    · rcases isGood_or_isRefusedAt all with hgood | ⟨e, he⟩
      · exact hgood
      · rw [putAll_of_isRefusedAt zero he] at h
        cases h
    · exact isLast_textsAt h
  · rintro ⟨hgood, hlast⟩
    obtain ⟨s', hs'⟩ := putAll_of_isGood zero hgood
    have heq : s' = s := ext_value fun p => isLast_unique (isLast_textsAt hs' p) (hlast p)
    rw [hs', heq]

/-! ## Reading a line -/

theorem putAll_flatMap (s : Snapshot) (entries : List Entry) :
    s.putAll (entries.flatMap settings) =
      entries.foldlM (fun s entry => s.putAll (settings entry)) s := by
  induction entries generalizing s with
  | nil => rfl
  | cons entry entries ih =>
      rw [List.flatMap_cons, putAll_append, List.foldlM_cons]
      congr 1
      funext s'
      exact ih s'

theorem parse_eq_putAll (line : String) : parse line = zero.putAll (settingsOf line) := by
  rw [parse_eq_assignAll, assignAll, settingsOf, putAll_flatMap]
  simp only [assign_eq_putAll]

/-- A field sets each place once at most. -/
theorem textsAt_settings (p : Place) (entry : Entry) :
    textsAt p (settings entry) = (p.text? entry).toList := by
  have hplace : Place.all.filter (· == p) = [p] := by
    rw [List.filter_beq, List.count_eq_one_of_mem Place.nodup_all p.mem_all]
    rfl
  have htexts : textsAt p (settings entry) =
      (Place.all.filter (· == p)).filterMap fun q => q.text? entry := by
    rw [textsAt, settings, List.filterMap_filterMap, List.filterMap_filter]
    congr 1
    funext q
    by_cases hq : q = p
    · cases q.text? entry <;> simp [hq]
    · cases q.text? entry <;> simp [hq]
  rw [htexts, hplace]
  cases h : p.text? entry <;> simp [h]

theorem textsAt_settingsOf (p : Place) (line : String) :
    textsAt p (settingsOf line) = textsFor p line := by
  rw [textsAt, settingsOf, List.filterMap_flatMap, textsFor, List.filterMap_eq_flatMap_toList]
  congr 1
  funext entry
  exact textsAt_settings p entry

theorem isAccepted_iff :
    IsAccepted line ↔ ∀ setting ∈ settingsOf line, setting.IsGood := by
  constructor
  · rintro h ⟨p, text⟩ hmem
    rw [← mem_textsAt, textsAt_settingsOf] at hmem
    exact h p text hmem
  · intro h p text hmem
    rw [← textsAt_settingsOf, mem_textsAt] at hmem
    exact h ⟨p, text⟩ hmem

theorem parse_eq_ok_iff : parse line = .ok s ↔ IsAccepted line ∧ s.IsReadFrom line := by
  rw [parse_eq_putAll, putAll_zero_eq_ok_iff, isAccepted_iff, IsReadFrom]
  simp only [textsAt_settingsOf]

theorem parse_eq_error_iff : parse line = .error e ↔ IsRefusedAt (settingsOf line) e := by
  rw [parse_eq_putAll, putAll_eq_error_iff]

/-! ## What does not matter -/

/-- The values of the fields with a key, in their order. -/
def valuesOf (key : List Char) (entries : List Entry) : List (List Char) :=
  entries.filterMap fun entry => if entry.1 = key then some entry.2 else none

theorem textsFor_eq_filterMap (p : Place) (line : String) :
    textsFor p line = (valuesOf p.key (entriesOf line)).filterMap p.part? := by
  rw [textsFor, valuesOf, List.filterMap_filterMap]
  congr 1
  funext entry
  rw [Place.text?]
  split <;> rfl

/-- Lines with the same values for each key are accepted alike and read alike. -/
theorem parse_eq_ok_congr
    (h : ∀ p : Place, valuesOf p.key (entriesOf line) = valuesOf p.key (entriesOf line')) :
    parse line = .ok s ↔ parse line' = .ok s := by
  have htexts : ∀ p, textsFor p line = textsFor p line' := by
    intro p
    rw [textsFor_eq_filterMap, textsFor_eq_filterMap, h]
  simp only [parse_eq_ok_iff, IsAccepted, IsReadFrom, htexts]

/-- Whether the key of a field is that of a place. -/
def hasPlace (entry : Entry) : Bool :=
  Place.all.any fun p => entry.1 = p.key

theorem settings_of_not_hasPlace {entry : Entry} (h : hasPlace entry = false) :
    settings entry = [] := by
  apply settings_of_forall_ne
  intro p hkey
  rw [hasPlace, List.any_eq_false] at h
  exact h p p.mem_all (decide_eq_true hkey)

theorem flatMap_settings_filter (entries : List Entry) :
    (entries.filter hasPlace).flatMap settings = entries.flatMap settings := by
  induction entries with
  | nil => rfl
  | cons entry entries ih =>
      cases h : hasPlace entry with
      | true => rw [List.filter_cons_of_pos h, List.flatMap_cons, List.flatMap_cons, ih]
      | false =>
          rw [List.filter_cons_of_neg (by simp [h]), List.flatMap_cons, ih,
            settings_of_not_hasPlace h, List.nil_append]

/-- Lines with the same fields that have a place read alike, and are refused alike. -/
theorem parse_congr
    (h : (entriesOf line).filter hasPlace = (entriesOf line').filter hasPlace) :
    parse line = parse line' := by
  rw [parse_eq_putAll, parse_eq_putAll, settingsOf, settingsOf, ← flatMap_settings_filter, h,
    flatMap_settings_filter]

theorem valuesOf_swap {x y : Entry} (hxy : x.1 ≠ y.1) (key : List Char)
    (before after : List Entry) :
    valuesOf key (before ++ x :: y :: after) = valuesOf key (before ++ y :: x :: after) := by
  simp only [valuesOf, List.filterMap_append, List.filterMap_cons]
  by_cases hx : x.1 = key
  · have hy : y.1 ≠ key := fun hy => hxy (hx.trans hy.symm)
    simp [hx, hy]
  · simp [hx]

/-- A line is read if and only if each text that it has for a place is a numeral that fits there,
and what is read holds in each place the number of the last such text, or zero.  A line that is
not read is refused for the first text in reading order that is no such numeral, with a message
that shows this text.  Only the fields with the key of a place matter, neither blanks nor anything
else; and of these only the order of those with the same key matters to what is read, so that
neighbours with different keys may change places. -/
theorem lines_are_read_by_grammar :
    (∀ (line : String) (s : Snapshot),
      parse line = .ok s ↔ IsAccepted line ∧ s.IsReadFrom line) ∧
    (∀ line message : String,
      (parse line).mapError ParseError.message = .error message ↔
        ∃ e, IsRefusedAt (settingsOf line) e ∧
          message = String.ofList e.value ++ ": " ++ e.reason.message) ∧
    (∀ line line' : String,
      (entriesOf line).filter hasPlace = (entriesOf line').filter hasPlace →
        parse line = parse line') ∧
    (∀ (line line' : String),
      (∀ p : Place, valuesOf p.key (entriesOf line) = valuesOf p.key (entriesOf line')) →
        ∀ s, parse line = .ok s ↔ parse line' = .ok s) ∧
    ∀ (line line' : String) (before after : List Entry) (x y : Entry),
      x.1 ≠ y.1 → entriesOf line = before ++ x :: y :: after →
        entriesOf line' = before ++ y :: x :: after →
          ∀ s, parse line = .ok s ↔ parse line' = .ok s := by
  refine ⟨fun line s => parse_eq_ok_iff, ?_, fun line line' => parse_congr,
    fun line line' h s => parse_eq_ok_congr h, ?_⟩
  · intro line message
    simp only [← parse_eq_error_iff]
    cases parse line with
    | ok s => simp [Except.mapError]
    | error e => simp [Except.mapError, ParseError.message, eq_comm]
  · intro line line' before after x y hxy hline hline' s
    apply parse_eq_ok_congr
    intro p
    rw [hline, hline', valuesOf_swap hxy]

/-- A line with two fields for one register and two lists of bytes, the first of them too long and
the second too short. -/
def crowded : String :=
  "A:FF PCMEM:1,2,3,4,x A:+0b PC:0051 PCMEM:9"

/-- What is read from it: of each place, the last that is said. -/
def crowdedRead : Snapshot :=
  { zero with a := 0x0B, pc := 0x0051, code := #v[9, 2, 3, 4] }

theorem entriesOf_crowded :
    entriesOf crowded =
      [(['A'], ['F', 'F']),
        (['P', 'C', 'M', 'E', 'M'], ['1', ',', '2', ',', '3', ',', '4', ',', 'x']),
        (['A'], ['+', '0', 'b']), (['P', 'C'], ['0', '0', '5', '1']),
        (['P', 'C', 'M', 'E', 'M'], ['9'])] := by
  decide

theorem parse_crowded : parse crowded = .ok crowdedRead := by
  rw [parse_eq_putAll, settingsOf, entriesOf_crowded]
  rfl

/-- The same is read with other blanks and with fields of no place in between, with fields of the
same key together, and with two neighbours exchanged. -/
theorem crowded_is_read_by_grammar :
    parse "\tA:FF q:zz PCMEM:1,2,3,4,x\n x A:+0b PC:0051  PCMEM:9 " = .ok crowdedRead ∧
      parse "PC:0051 PCMEM:1,2,3,4,x PCMEM:9 A:FF A:+0b" = .ok crowdedRead ∧
      parse "PCMEM:1,2,3,4,x A:FF A:+0b PC:0051 PCMEM:9" = .ok crowdedRead := by
  obtain ⟨_, _, hspaced, hsorted, hexchanged⟩ := lines_are_read_by_grammar
  have hread := parse_crowded
  refine ⟨?_, ?_, ?_⟩
  · rw [← hspaced crowded _ (by decide)]
    exact hread
  · refine (hsorted crowded _ ?_ crowdedRead).mp hread
    have hentries : entriesOf "PC:0051 PCMEM:1,2,3,4,x PCMEM:9 A:FF A:+0b" =
        [(['P', 'C'], ['0', '0', '5', '1']),
          (['P', 'C', 'M', 'E', 'M'], ['1', ',', '2', ',', '3', ',', '4', ',', 'x']),
          (['P', 'C', 'M', 'E', 'M'], ['9']), (['A'], ['F', 'F']),
          (['A'], ['+', '0', 'b'])] := by decide
    rw [entriesOf_crowded, hentries]
    intro p
    cases p <;> rfl
  · refine (hexchanged crowded _ [] _ _ _ ?_ entriesOf_crowded ?_ crowdedRead).mp hread
    · decide
    · decide

end Handheld.Snapshot
