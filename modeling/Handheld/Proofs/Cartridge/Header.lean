import Mathlib.Algebra.BigOperators.Intervals
import Handheld.Cartridge.Header

/-!
# What the header checks detect

A header is valid if it shows the logo and if its checksum belongs to it.  The checksum takes each
byte and one more off, so it belongs to the header if and only if the bytes it covers, the checksum
itself among them, add up to a multiple of 256 together with their number less one
(`hasChecksum_iff`).  A sum changes with each of its terms, and less than 256 is no multiple of
256, so there is no byte under the two checks that could be replaced unnoticed.  No other byte of
an image has a part in them.
-/

namespace Handheld.Header

variable {image image' : Array Byte} {first stop i : Nat}

/-! ## Bytes of an image -/

/-- The images agree from one offset up to another. -/
def AgreeOn (image image' : Array Byte) (first stop : Nat) : Prop :=
  ∀ i, first ≤ i → i < stop → image[i]? = image'[i]?

theorem AgreeOn.mono {first' stop' : Nat} (h : AgreeOn image image' first stop)
    (hfirst : first ≤ first') (hstop : stop' ≤ stop) : AgreeOn image image' first' stop' := by
  intro i hi hlt
  exact h i (hfirst.trans hi) (hlt.trans_le hstop)

theorem AgreeOn.getD (h : AgreeOn image image' first stop) (hfirst : first ≤ i) (hstop : i < stop) :
    image.getD i 0 = image'.getD i 0 := by
  rw [Array.getD_eq_getD_getElem?, h i hfirst hstop, ← Array.getD_eq_getD_getElem?]

/-- Bytes that are appended follow all others. -/
theorem agreeOn_append (more : Array Byte) (h : stop ≤ image.size) :
    AgreeOn image (image ++ more) first stop := by
  intro i _ hlt
  rw [Array.getElem?_append_left (hlt.trans_le h)]

theorem getElem?_slice (image : Array Byte) (first stop i : Nat) :
    (slice image first stop)[i]? = if first + i < stop then image[first + i]? else none := by
  rw [slice, Array.getElem?_toList, Array.getElem?_extract]
  by_cases hsize : first + i < image.size
  · by_cases hstop : first + i < stop
    · rw [if_pos (by omega), if_pos hstop]
    · rw [if_neg (by omega), if_neg hstop]
  · rw [Array.getElem?_eq_none (Nat.not_lt.mp hsize), if_neg (by omega), ite_self]

theorem slice_congr (h : AgreeOn image image' first stop) :
    slice image first stop = slice image' first stop := by
  apply List.ext_getElem?
  intro i
  rw [getElem?_slice, getElem?_slice]
  split
  next hlt => exact h _ (Nat.le_add_right first i) hlt
  next => rfl

theorem slice_toArray (bytes : List Byte) (first stop : Nat) :
    slice bytes.toArray first stop = (bytes.drop first).take (stop - first) := by
  simp [slice]

theorem slice_self (image : Array Byte) (first : Nat) : slice image first first = [] := by
  apply List.eq_nil_of_length_eq_zero
  rw [slice, Array.length_toList, Array.size_extract]
  omega

theorem slice_succ (hfirst : first ≤ stop) (hstop : stop < image.size) :
    slice image first (stop + 1) = slice image first stop ++ [image.getD stop 0] := by
  rw [slice, Array.extract_succ_right (Nat.lt_succ_of_le hfirst) hstop, Array.toList_push,
    Array.getD_eq_getD_getElem?, Array.getElem?_eq_getElem hstop]
  rfl

/-- The title in the bytes that are kept for it. -/
def titleOf? (bytes : List Byte) : Option String :=
  match bytes.takeWhile (· != 0) with
  | [] => none
  | title => some (String.ofList (Utf8.decodeLossy title))

theorem readTitle?_eq (image : Array Byte) :
    readTitle? image = titleOf? (slice image 0x134 0x144) := by
  unfold readTitle?
  -- The slice is not to be worked out where the two matches are compared.
  generalize slice image 0x134 0x144 = bytes
  rfl

/-- Only the bytes before its end are read for a header. -/
theorem ofImage_congr (hsize : endOffset ≤ image.size) (hsize' : endOffset ≤ image'.size)
    (h : AgreeOn image image' 0 endOffset) : ofImage image = ofImage image' := by
  have hslice : ∀ first stop, stop ≤ endOffset →
      slice image first stop = slice image' first stop := by
    intro first stop hstop
    exact slice_congr (h.mono (Nat.zero_le first) hstop)
  have hbyte : ∀ i < endOffset, image.getD i 0 = image'.getD i 0 := by
    intro i hi
    exact h.getD (Nat.zero_le i) hi
  rw [ofImage, ofImage, if_neg (Nat.not_lt.mpr hsize), if_neg (Nat.not_lt.mpr hsize'),
    readTitle?_eq, readTitle?_eq, computeChecksum, computeChecksum]
  simp (disch := decide) only [hslice, hbyte]

/-! ## The checksum -/

/-- The sum of the bytes from one offset up to another. -/
def byteSum (image : Array Byte) (first stop : Nat) : Nat :=
  ∑ i ∈ Finset.Ico first stop, (image.getD i 0).toNat

theorem byteSum_succ (image : Array Byte) (h : first ≤ stop) :
    byteSum image first (stop + 1) = byteSum image first stop + (image.getD stop 0).toNat :=
  Finset.sum_Ico_succ_top h _

theorem byteSum_congr (h : AgreeOn image image' first stop) :
    byteSum image first stop = byteSum image' first stop := by
  apply Finset.sum_congr rfl
  intro i hi
  obtain ⟨hfirst, hstop⟩ := Finset.mem_Ico.mp hi
  rw [h.getD hfirst hstop]

theorem getD_set (image : Array Byte) (hi : i < image.size) (v : Byte) (j : Nat) :
    (image.set i v).getD j 0 = if i = j then v else image.getD j 0 := by
  rw [Array.getD_eq_getD_getElem?, Array.getElem?_set, Array.getD_eq_getD_getElem?]
  split
  · rfl
  · rfl

/-- To replace a byte is to exchange one term of the sum. -/
theorem byteSum_set (hi : i < image.size) (v : Byte) (hfirst : first ≤ i) (hstop : i < stop) :
    byteSum (image.set i v) first stop + (image.getD i 0).toNat =
      byteSum image first stop + v.toNat := by
  have hmem : i ∈ Finset.Ico first stop := Finset.mem_Ico.mpr ⟨hfirst, hstop⟩
  have hothers : ∀ j ∈ (Finset.Ico first stop).erase i,
      ((image.set i v).getD j 0).toNat = (image.getD j 0).toNat := by
    intro j hj
    rw [getD_set, if_neg (Finset.ne_of_mem_erase hj).symm]
  rw [byteSum, byteSum, ← Finset.add_sum_erase _ _ hmem, Finset.sum_congr rfl hothers, getD_set,
    if_pos rfl, ← Finset.add_sum_erase _ _ hmem]
  omega

/-- The fold leaves what is missing from the sum of the bytes and their number to a multiple of
256. -/
theorem foldl_slice_add_byteSum (hfirst : first ≤ stop) (hstop : stop ≤ image.size) :
    (((slice image first stop).foldl (fun sum b => sum - b - 1) 0).toNat +
      byteSum image first stop + (stop - first)) % 256 = 0 := by
  induction stop, hfirst using Nat.le_induction with
  | base => simp [slice_self, byteSum]
  | succ stop hfirst ih =>
      have hbefore := ih (Nat.le_of_succ_le hstop)
      rw [slice_succ hfirst hstop, List.foldl_append, byteSum_succ image hfirst]
      generalize (slice image first stop).foldl (fun sum b => sum - b - 1) 0 = sum at hbefore ⊢
      have hsum := sum.toNat_lt
      have hbyte := (image.getD stop 0).toNat_lt
      simp only [List.foldl_cons, List.foldl_nil, UInt8.toNat_sub, UInt8.toNat_one]
      omega

theorem hasChecksum_iff (h : endOffset ≤ image.size) :
    (ofImage image).hasChecksum = true ↔ (byteSum image 0x134 0x14E + 25) % 256 = 0 := by
  have hfold : ((computeChecksum image).toNat + byteSum image 0x134 0x14D + 25) % 256 = 0 :=
    foldl_slice_add_byteSum (by decide) (Nat.le_trans (by decide) h)
  have hlast : byteSum image 0x134 0x14E =
      byteSum image 0x134 0x14D + (image.getD 0x14D 0).toNat := byteSum_succ image (by decide)
  have hcomputed := (computeChecksum image).toNat_lt
  have hrecorded := (image.getD 0x14D 0).toNat_lt
  have hcompared : (ofImage image).hasChecksum =
      (computeChecksum image == image.getD 0x14D 0) := by
    rw [ofImage, if_neg (Nat.not_lt.mpr h)]
  rw [hcompared, beq_iff_eq, ← UInt8.toNat_inj, hlast]
  omega

/-! ## The logo -/

theorem hasLogo_iff (h : endOffset ≤ image.size) :
    (ofImage image).hasLogo = true ↔ ∀ k < 48, image[0x104 + k]? = logo[k]? := by
  rw [ofImage, if_neg (Nat.not_lt.mpr h), beq_iff_eq, List.ext_getElem?_iff]
  have hlength : logo.length = 48 := rfl
  constructor
  · intro hlogo k hk
    rw [← hlogo k, getElem?_slice, if_pos (by omega)]
  · intro hlogo k
    rw [getElem?_slice]
    split
    next hlt => exact hlogo k (by omega)
    next hle => rw [List.getElem?_eq_none (by omega)]

/-! ## Replaced bytes -/

theorem not_isValid_blank : blank.isValid = false := rfl

theorem endOffset_le_of_isValid (h : (ofImage image).isValid = true) : endOffset ≤ image.size := by
  by_contra hshort
  rw [ofImage, if_pos (Nat.not_le.mp hshort), not_isValid_blank] at h
  cases h

/-- The checks read nothing but the bytes from the logo to the checksum. -/
theorem checks_congr (hsize : endOffset ≤ image.size) (hsize' : endOffset ≤ image'.size)
    (h : AgreeOn image image' 0x104 0x14E) :
    (ofImage image').hasLogo = (ofImage image).hasLogo ∧
      (ofImage image').hasChecksum = (ofImage image).hasChecksum := by
  constructor
  · rw [Bool.eq_iff_iff, hasLogo_iff hsize, hasLogo_iff hsize']
    refine forall₂_congr fun k hk => ?_
    rw [h (0x104 + k) (by omega) (by omega)]
  · rw [Bool.eq_iff_iff, hasChecksum_iff hsize, hasChecksum_iff hsize',
      byteSum_congr (h.mono (by decide) (Nat.le_refl _))]

theorem not_hasLogo_set (h : endOffset ≤ image.size) (hlogo : (ofImage image).hasLogo = true)
    (hi : i < image.size) {v : Byte} (hv : v ≠ image[i]) (hfirst : 0x104 ≤ i) (hstop : i < 0x134) :
    (ofImage (image.set i v)).hasLogo = false := by
  have hsize : endOffset ≤ (image.set i v).size := by rwa [Array.size_set]
  obtain ⟨k, rfl⟩ := Nat.exists_eq_add_of_le hfirst
  rw [← Bool.not_eq_true, hasLogo_iff hsize]
  intro hlogo'
  have hbefore := (hasLogo_iff h).mp hlogo k (by omega)
  have hafter := hlogo' k (by omega)
  rw [Array.getElem?_set, if_pos rfl, ← hbefore, Array.getElem?_eq_getElem hi] at hafter
  exact hv (Option.some.inj hafter)

theorem not_hasChecksum_set (h : endOffset ≤ image.size)
    (hchecksum : (ofImage image).hasChecksum = true) (hi : i < image.size) {v : Byte}
    (hv : v ≠ image[i]) (hfirst : 0x134 ≤ i) (hstop : i < 0x14E) :
    (ofImage (image.set i v)).hasChecksum = false := by
  have hsize : endOffset ≤ (image.set i v).size := by rwa [Array.size_set]
  have hbefore := (hasChecksum_iff h).mp hchecksum
  have hexchange := byteSum_set hi v hfirst hstop
  have hne : v.toNat ≠ (image.getD i 0).toNat := by
    rw [Array.getD_eq_getD_getElem?, Array.getElem?_eq_getElem hi]
    exact fun heq => hv (UInt8.toNat_inj.mp heq)
  have hnew := v.toNat_lt
  have hold := (image.getD i 0).toNat_lt
  rw [← Bool.not_eq_true, hasChecksum_iff hsize]
  omega

theorem not_isValid_set (hvalid : (ofImage image).isValid = true) (hi : i < image.size) {v : Byte}
    (hv : v ≠ image[i]) (hfirst : 0x104 ≤ i) (hlast : i ≤ 0x14D) :
    (ofImage (image.set i v)).isValid = false := by
  have hsize := endOffset_le_of_isValid hvalid
  rw [isValid, Bool.and_eq_true] at hvalid
  by_cases hlogo : i < 0x134
  · rw [isValid, not_hasLogo_set hsize hvalid.1 hi hv hfirst hlogo, Bool.false_and]
  · rw [isValid, not_hasChecksum_set hsize hvalid.2 hi hv (Nat.not_lt.mp hlogo)
      (Nat.lt_succ_of_le hlast), Bool.and_false]

/-! ## Accesses in range -/

/-- The bytes from one offset up to another, if the image has all of them. -/
def sliceChecked (image : Array Byte) (first stop : Nat) : Option (List Byte) :=
  if stop ≤ image.size then some (slice image first stop) else none

/-- The header of an image, read with a check of every access. -/
def ofImageChecked (image : Array Byte) : Option Header :=
  if image.size < endOffset then some blank
  else do
    let checksum ← image[0x14D]?
    let title ← sliceChecked image 0x134 0x144
    let newLicenseeHigh ← image[0x144]?
    let newLicenseeLow ← image[0x145]?
    let sgbFlag ← image[0x146]?
    let kind ← image[0x147]?
    let romSizeCode ← image[0x148]?
    let ramSizeCode ← image[0x149]?
    let destination ← image[0x14A]?
    let oldLicensee ← image[0x14B]?
    let version ← image[0x14C]?
    let globalHigh ← image[0x14E]?
    let globalLow ← image[0x14F]?
    let bitmap ← sliceChecked image 0x104 0x134
    let covered ← sliceChecked image 0x134 0x14D
    return {
      title? := titleOf? title
      newLicensee := Word.ofBytes newLicenseeHigh newLicenseeLow
      sgbFlag, kind, romSizeCode, ramSizeCode, destination, oldLicensee, version, checksum
      globalChecksum := Word.ofBytes globalHigh globalLow
      hasLogo := bitmap == logo
      hasChecksum := covered.foldl (fun sum b => sum - b - 1) 0 == checksum }

theorem ofImageChecked_eq (image : Array Byte) : ofImageChecked image = some (ofImage image) := by
  by_cases hshort : image.size < endOffset
  · rw [ofImageChecked, ofImage, if_pos hshort, if_pos hshort]
  · have hend : endOffset ≤ image.size := Nat.not_lt.mp hshort
    have hbyte : ∀ i < endOffset, image[i]? = some (image.getD i 0) := by
      intro i hi
      rw [Array.getD_eq_getD_getElem?, Array.getElem?_eq_getElem (hi.trans_le hend)]
      rfl
    have hslice : ∀ first stop, stop ≤ endOffset →
        sliceChecked image first stop = some (slice image first stop) := by
      intro first stop hstop
      exact if_pos (hstop.trans hend)
    rw [ofImageChecked, ofImage, if_neg hshort, if_neg hshort, readTitle?_eq, computeChecksum]
    simp (disch := decide) only [hbyte, hslice, Option.bind_eq_bind, Option.bind_some,
      Option.pure_def]

/-! ## The law -/

/-- Reading a header stays within the image, and finds none in an image of less than 0x150 bytes.
In any other image the checksum is right if and only if the bytes from 0x0134 to 0x014D and 25 add
up to a multiple of 256, and the logo if and only if the bytes from 0x0104 to 0x0133 show it.  So
nothing outside of these bytes makes a difference, be it replaced or appended; and if a header is
valid, it is not any more once any single one of them is replaced by a different byte. -/
theorem every_corruption_is_detected (image : Array Byte) :
    ofImageChecked image = some (ofImage image) ∧
    (image.size < 0x150 → ofImage image = blank) ∧
    (0x150 ≤ image.size →
      ((ofImage image).hasChecksum = true ↔
        ((∑ i ∈ Finset.Ico 0x134 0x14E, (image.getD i 0).toNat) + 25) % 256 = 0) ∧
      ((ofImage image).hasLogo = true ↔ ∀ k < 48, image[0x104 + k]? = logo[k]?) ∧
      (∀ image' : Array Byte, 0x150 ≤ image'.size → AgreeOn image image' 0x104 0x14E →
        (ofImage image').hasLogo = (ofImage image).hasLogo ∧
        (ofImage image').hasChecksum = (ofImage image).hasChecksum) ∧
      ∀ more : Array Byte,
        (ofImage (image ++ more)).hasLogo = (ofImage image).hasLogo ∧
        (ofImage (image ++ more)).hasChecksum = (ofImage image).hasChecksum) ∧
    ((ofImage image).isValid = true →
      ∀ (i : Nat) (hi : i < image.size) (v : Byte), 0x104 ≤ i → i ≤ 0x14D → v ≠ image[i] →
        (ofImage (image.set i v)).isValid = false) := by
  refine ⟨ofImageChecked_eq image, fun hshort => if_pos hshort, ?_, ?_⟩
  · intro hsize
    refine ⟨hasChecksum_iff hsize, hasLogo_iff hsize, ?_, ?_⟩
    · intro image' hsize' hagree
      exact checks_congr hsize hsize' hagree
    · intro more
      have hlonger : endOffset ≤ (image ++ more).size := by
        rw [Array.size_append]
        exact Nat.le_add_right_of_le hsize
      exact checks_congr hsize hlonger (agreeOn_append more (Nat.le_trans (by decide) hsize))
  · intro hvalid i hi v hfirst hlast hv
    exact not_isValid_set hvalid hi hv hfirst hlast

/-- The shortest image with a valid header, all zero but for the logo and the checksum. -/
def shortestValid : Array Byte :=
  (List.replicate 0x104 0 ++ logo ++ List.replicate 25 0 ++ [0xE7, 0, 0]).toArray

/-- An image that ends before its header does has none.  The shortest valid image does not pass
with a version, a checksum or a first byte of the logo that is different, and passes with a
different global checksum and with one byte more. -/
theorem corruption_of_shortestValid :
    #[0xCE, 0xED].size < 0x150 ∧ ofImage #[0xCE, 0xED] = blank ∧
      0x150 ≤ shortestValid.size ∧
      ((ofImage shortestValid).hasLogo = true ↔ ∀ k < 48, shortestValid[0x104 + k]? = logo[k]?) ∧
      AgreeOn shortestValid (shortestValid.setIfInBounds 0x14F 0x12) 0x104 0x14E ∧
      (ofImage (shortestValid.setIfInBounds 0x14F 0x12)).isValid = true ∧
      (ofImage (shortestValid ++ #[0xAB])).isValid = true ∧
      (ofImage shortestValid).isValid = true ∧
      (ofImage (shortestValid.set 0x14C 0x01 (by decide +kernel))).isValid = false ∧
      (ofImage (shortestValid.set 0x14D 0xE6 (by decide +kernel))).isValid = false ∧
      (ofImage (shortestValid.set 0x104 0xCF (by decide +kernel))).isValid = false := by
  have hsize : endOffset ≤ shortestValid.size := by decide +kernel
  have hvalid : (ofImage shortestValid).isValid = true := by
    rw [isValid, ofImage, if_neg (Nat.not_lt.mpr hsize), computeChecksum, shortestValid,
      slice_toArray, slice_toArray]
    decide +kernel
  have hagree :
      AgreeOn shortestValid (shortestValid.setIfInBounds 0x14F 0x12) 0x104 0x14E := by
    intro i _ hlt
    rw [Array.getElem?_setIfInBounds_ne (by omega)]
  obtain ⟨_, hshort, _⟩ := every_corruption_is_detected #[0xCE, 0xED]
  obtain ⟨_, _, hchecks, hdetects⟩ := every_corruption_is_detected shortestValid
  obtain ⟨_, hlogo, hothers, hlonger⟩ := hchecks hsize
  obtain ⟨hlogoOther, hchecksumOther⟩ := hothers _ (by decide +kernel) hagree
  obtain ⟨hlogoLonger, hchecksumLonger⟩ := hlonger #[0xAB]
  refine ⟨by decide, hshort (by decide), hsize, hlogo, hagree, ?_, ?_, hvalid, ?_, ?_, ?_⟩
  · rw [isValid, hlogoOther, hchecksumOther]
    exact hvalid
  · rw [isValid, hlogoLonger, hchecksumLonger]
    exact hvalid
  · exact hdetects hvalid 0x14C _ 0x01 (by decide) (by decide) (by decide +kernel)
  · exact hdetects hvalid 0x14D _ 0xE6 (by decide) (by decide) (by decide +kernel)
  · exact hdetects hvalid 0x104 _ 0xCF (by decide) (by decide) (by decide +kernel)

end Handheld.Header
