import CryptoUsb.UsbDevices
import Mathlib.Data.List.TakeWhile

/-!
# Tokens of a device instance path

Vendor, product and serial are looked up in a `PNPDeviceID` one by one.  The vendor
and the serial are always found where they stand.  The product is whatever follows
the first `PROD_`, and the vendor, which stands before the product, may hold one.
-/

namespace CryptoUsb

/-- A non-empty text of `[^&\\]`. -/
structure PnpToken where
  characters : List Char
  nonempty : characters ≠ []
  plain : ∀ character ∈ characters, isTokenCharacter character = true

def PnpToken.text (token : PnpToken) : String :=
  String.ofList token.characters

/-- A text of `\d`. -/
structure DigitString where
  characters : List Char
  decimal : ∀ character ∈ characters, isDecimalDigit character = true

/-- The form of a `PNPDeviceID` of `USBSTOR`. -/
def usbstorPath (vendor product revision serial : PnpToken) (number : DigitString) : String :=
  "USBSTOR\\DISK&VEN_" ++ vendor.text ++ "&PROD_" ++ product.text ++ "&REV_" ++ revision.text ++
    "\\" ++ serial.text ++ "&" ++ String.ofList number.characters

/-- The marker, in either case, with something behind it. -/
def MarkedAt (marker text before rest : List Char) : Prop :=
  ∃ mark, text = before ++ mark ++ rest ∧ mark.map Char.toUpper = marker ∧ rest ≠ []

/-- What is behind the first such marker. -/
def BehindFirst (marker text rest : List Char) : Prop :=
  ∃ before, MarkedAt marker text before rest ∧
    ∀ earlier other, MarkedAt marker text earlier other → before.length ≤ earlier.length

/-! ## The leftmost search -/

section Search

variable {marker text before rest token : List Char}

theorem takeWhile_token {stop : Char} (plain : ∀ character ∈ token, isTokenCharacter character)
    (stops : isTokenCharacter stop = false) :
    (token ++ stop :: rest).takeWhile isTokenCharacter = token := by
  rw [List.takeWhile_append_of_pos plain, List.takeWhile_cons_of_neg (by simp [stops]),
    List.append_nil]

theorem dropWhile_token {stop : Char} (plain : ∀ character ∈ token, isTokenCharacter character)
    (stops : isTokenCharacter stop = false) :
    (token ++ stop :: rest).dropWhile isTokenCharacter = stop :: rest := by
  rw [List.dropWhile_append_of_pos plain, List.dropWhile_cons_of_neg (by simp [stops])]

theorem searchToken_found {mark : List Char} (marks : mark.map Char.toUpper = marker)
    (markerNonempty : marker ≠ []) (nonempty : token ≠ [])
    (plain : ∀ character ∈ token, isTokenCharacter character) :
    searchToken marker (mark ++ token ++ '&' :: rest) = some token := by
  have lengths : mark.length = marker.length := by
    rw [← marks, List.length_map]
  cases mark with
  | nil => exact absurd marks.symm markerNonempty
  | cons first mark =>
      rw [List.cons_append, List.cons_append, searchToken]
      simp only [← List.cons_append, ← lengths]
      rw [List.append_assoc, List.take_left, List.drop_left, takeWhile_token plain (by decide),
        if_pos ⟨marks, nonempty⟩]

theorem searchToken_passed {character : Char}
    (unmarked : ∀ mark token after, character :: rest = mark ++ token ++ after →
      mark.map Char.toUpper = marker →
        (∀ inside ∈ token, isTokenCharacter inside = true) → token = []) :
    searchToken marker (character :: rest) = searchToken marker rest := by
  rw [searchToken, if_neg]
  rintro ⟨marks, nonempty⟩
  apply nonempty
  apply unmarked _ _ _ _ marks
  · intro inside member
    exact List.mem_takeWhile_imp member
  · exact ((character :: rest).drop marker.length).dropWhile isTokenCharacter
  · rw [List.append_assoc, List.takeWhile_append_dropWhile, List.take_append_drop]

theorem searchToken_skip {first : Char}
    (free : first ∉ before.map Char.toUpper) :
    searchToken (first :: marker) (before ++ rest) = searchToken (first :: marker) rest := by
  induction before with
  | nil => rfl
  | cons character before ih =>
      rw [List.map_cons] at free
      obtain ⟨other, free⟩ := List.ne_and_not_mem_of_not_mem_cons free
      rw [List.cons_append, searchToken_passed, ih free]
      rintro (_ | ⟨begin, mark⟩) token after split marks _
      · cases marks
      · obtain ⟨rfl, -⟩ := List.cons.inj split
        exact absurd (List.cons.inj marks).1.symm other

/-- A marker and its token do not reach over an `&`. -/
theorem marked_inside {mark after : List Char}
    (markerPlain : ∀ character ∈ marker, isTokenCharacter character = true)
    (split : text ++ '&' :: rest = mark ++ token ++ after)
    (marks : mark.map Char.toUpper = marker)
    (plain : ∀ character ∈ token, isTokenCharacter character = true) :
    ∃ more, text = mark ++ token ++ more := by
  rcases List.append_eq_append_iff.mp split with ⟨crossed, inside, behind⟩ | ⟨more, same, -⟩
  · cases crossed with
    | nil => exact ⟨[], by rw [inside]; simp⟩
    | cons character crossed =>
        obtain ⟨rfl, -⟩ := List.cons.inj behind
        exfalso
        have member : '&' ∈ mark ++ token := by simp [inside]
        rcases List.mem_append.mp member with inMark | inToken
        · have upper : '&' ∈ marker := by
            rw [← marks]
            exact List.mem_map.mpr ⟨'&', inMark, rfl⟩
          exact absurd (markerPlain _ upper) (by decide)
        · exact absurd (plain _ inToken) (by decide)
  · exact ⟨more, same⟩

/-- In the text before an `&`, the places without a marker are passed. -/
theorem searchToken_unmarked {tail : List Char}
    (markerPlain : ∀ character ∈ marker, isTokenCharacter character = true)
    (unmarked : ∀ earlier other, MarkedAt marker (before ++ tail) earlier other →
      before.length ≤ earlier.length) :
    searchToken marker (before ++ tail ++ '&' :: rest) =
      searchToken marker (tail ++ '&' :: rest) := by
  induction before with
  | nil => rfl
  | cons character before ih =>
      rw [List.cons_append, List.cons_append, searchToken_passed, ih]
      · rintro earlier other ⟨mark, split, marks, nonempty⟩
        have later := unmarked (character :: earlier) other
          ⟨mark, by simp [split], marks, nonempty⟩
        simpa using later
      · intro mark token after split marks plain
        by_contra nonempty
        obtain ⟨more, inside⟩ := @marked_inside marker (character :: (before ++ tail)) rest token
          mark after markerPlain split marks plain
        have here := unmarked [] (token ++ more) ⟨mark, by simp [inside], marks, by simp [nonempty]⟩
        simp at here

theorem searchToken_behindFirst
    (markerPlain : ∀ character ∈ marker, isTokenCharacter character = true)
    (markerNonempty : marker ≠ []) (plain : ∀ character ∈ text, isTokenCharacter character = true)
    (behind : BehindFirst marker text token) :
    searchToken marker (text ++ '&' :: rest) = some token := by
  obtain ⟨before, ⟨mark, rfl, marks, nonempty⟩, first⟩ := behind
  rw [List.append_assoc before] at first ⊢
  rw [searchToken_unmarked markerPlain first]
  apply searchToken_found marks markerNonempty nonempty
  intro character member
  exact plain character (List.mem_append_right _ member)

theorem exists_behindFirst (marked : MarkedAt marker text before rest) :
    ∃ token, BehindFirst marker text token := by
  classical
  have found : ∃ length before rest, before.length = length ∧ MarkedAt marker text before rest :=
    ⟨_, _, _, rfl, marked⟩
  obtain ⟨first, token, length, firstMarked⟩ := Nat.find_spec found
  refine ⟨token, first, firstMarked, fun earlier other earlierMarked => ?_⟩
  rw [length]
  exact Nat.find_min' found ⟨earlier, other, rfl, earlierMarked⟩

end Search

/-! ## The three searches -/

section Path

theorem searchSerial_skip {before rest : List Char} (free : '\\' ∉ before) :
    searchSerial (before ++ rest) = searchSerial rest := by
  induction before with
  | nil => rfl
  | cons character before ih =>
      have other : character ≠ '\\' := by
        rintro rfl
        exact free (List.mem_cons_self ..)
      rw [List.cons_append, searchSerial]
      simp only [other, false_and, if_false]
      exact ih fun member => free (List.mem_cons_of_mem _ member)

theorem searchSerial_segment {segment rest : List Char} (nonempty : segment ≠ [])
    (plain : ∀ character ∈ segment, isTokenCharacter character = true) :
    searchSerial ('\\' :: (segment ++ '&' :: rest)) =
      if endsWithDigits rest then some segment else searchSerial rest := by
  have free : '\\' ∉ segment ++ ['&'] := by
    intro member
    rcases List.mem_append.mp member with inside | stop
    · exact absurd (plain _ inside) (by decide)
    · exact absurd (List.mem_singleton.mp stop) (by decide)
  have skipped := @searchSerial_skip (segment ++ ['&']) rest free
  rw [List.append_assoc, List.singleton_append] at skipped
  rw [searchSerial, takeWhile_token plain (by decide), dropWhile_token plain (by decide), skipped]
  simp [nonempty]

theorem PnpToken.free (token : PnpToken) {character : Char}
    (stops : isTokenCharacter character = false) : character ∉ token.characters := by
  intro member
  rw [token.plain character member] at stops
  cases stops

theorem DigitString.endsWithDigits (number : DigitString) :
    endsWithDigits number.characters = decide (number.characters ≠ []) := by
  have digits : number.characters.takeWhile isDecimalDigit = number.characters :=
    List.takeWhile_eq_self_iff.mpr number.decimal
  have rest : number.characters.dropWhile isDecimalDigit = [] :=
    List.dropWhile_eq_nil_iff.mpr number.decimal
  simp [CryptoUsb.endsWithDigits, digits, rest]

theorem DigitString.searchSerial (number : DigitString) :
    searchSerial number.characters = none := by
  have free : '\\' ∉ number.characters := by
    intro member
    exact absurd (number.decimal _ member) (by decide)
  rw [← List.append_nil number.characters, searchSerial_skip free]
  rfl

private theorem vendorMarker : "VEN_".toList = ['V', 'E', 'N', '_'] :=
  rfl

private theorem productMarker : "PROD_".toList = ['P', 'R', 'O', 'D', '_'] :=
  rfl

private theorem productMarker_plain :
    ∀ character ∈ ['P', 'R', 'O', 'D', '_'], isTokenCharacter character = true :=
  List.all_eq_true.mp (by decide)

private theorem enumerator :
    "USBSTOR\\DISK&VEN_".toList =
      ['U', 'S', 'B', 'S', 'T', 'O', 'R', '\\', 'D', 'I', 'S', 'K', '&', 'V', 'E', 'N', '_'] :=
  rfl

private theorem revisionMarker : "&REV_".toList = ['&', 'R', 'E', 'V', '_'] :=
  rfl

private theorem productSeparator : "&PROD_".toList = '&' :: "PROD_".toList :=
  rfl

private theorem segmentSeparator : "\\".toList = ['\\'] :=
  rfl

private theorem numberSeparator : "&".toList = ['&'] :=
  rfl

variable (vendor product revision serial : PnpToken) (number : DigitString)

/-- What follows the product. -/
def behindProduct : List Char :=
  "&REV_".toList ++ (revision.characters ++
    '\\' :: (serial.characters ++ '&' :: number.characters))

theorem usbstorPath_toList :
    (usbstorPath vendor product revision serial number).toList =
      "USBSTOR\\DISK&VEN_".toList ++ (vendor.characters ++
        '&' :: ("PROD_".toList ++ (product.characters ++
          behindProduct revision serial number))) := by
  unfold usbstorPath
  simp only [behindProduct, PnpToken.text, String.toList_append, String.toList_ofList,
    productSeparator, segmentSeparator, numberSeparator, List.append_assoc, List.cons_append,
    List.nil_append]

theorem searchVendor :
    searchToken "VEN_".toList (usbstorPath vendor product revision serial number).toList =
      some vendor.characters := by
  rw [usbstorPath_toList, enumerator, vendorMarker]
  have skipped (rest : List Char) :=
    @searchToken_skip ['E', 'N', '_']
      ['U', 'S', 'B', 'S', 'T', 'O', 'R', '\\', 'D', 'I', 'S', 'K', '&'] rest 'V' (by decide)
  have found (rest : List Char) :=
    @searchToken_found ['V', 'E', 'N', '_'] rest vendor.characters ['V', 'E', 'N', '_'] (by decide)
      (by decide) vendor.nonempty vendor.plain
  exact (skipped _).trans (found _)

theorem searchProduct_skip (rest : List Char) :
    searchToken "PROD_".toList ("USBSTOR\\DISK&VEN_".toList ++ rest) =
      searchToken "PROD_".toList rest := by
  rw [enumerator, productMarker]
  exact searchToken_skip (by decide)

theorem searchProduct_of_behindFirst {behind : List Char}
    (marked : BehindFirst "PROD_".toList vendor.characters behind) :
    searchToken "PROD_".toList (usbstorPath vendor product revision serial number).toList =
      some behind := by
  rw [usbstorPath_toList, searchProduct_skip]
  rw [productMarker] at marked ⊢
  exact searchToken_behindFirst productMarker_plain (by decide) vendor.plain marked

theorem searchProduct_of_unmarked
    (unmarked : ∀ before rest, ¬ MarkedAt "PROD_".toList vendor.characters before rest) :
    searchToken "PROD_".toList (usbstorPath vendor product revision serial number).toList =
      some product.characters := by
  rw [usbstorPath_toList, searchProduct_skip]
  rw [productMarker] at unmarked ⊢
  have passed (rest : List Char) :=
    @searchToken_unmarked ['P', 'R', 'O', 'D', '_'] vendor.characters rest []
      productMarker_plain fun earlier other marked => by
        rw [List.append_nil] at marked
        exact absurd marked (unmarked earlier other)
  have skipped (rest : List Char) :=
    @searchToken_skip ['R', 'O', 'D', '_'] ['&'] rest 'P' (by decide)
  have found (rest : List Char) :=
    @searchToken_found ['P', 'R', 'O', 'D', '_'] rest product.characters ['P', 'R', 'O', 'D', '_']
      (by decide) (by decide) product.nonempty product.plain
  simp only [List.append_nil, List.nil_append] at passed
  rw [passed, behindProduct, revisionMarker]
  exact (skipped _).trans (found _)

theorem searchSerial_usbstorPath :
    searchSerial (usbstorPath vendor product revision serial number).toList =
      if number.characters ≠ [] then some serial.characters else none := by
  rw [usbstorPath_toList, enumerator, behindProduct, revisionMarker, productMarker]
  have bus (rest : List Char) :=
    @searchSerial_skip ['U', 'S', 'B', 'S', 'T', 'O', 'R'] rest (by decide)
  have disk (rest : List Char) :
      searchSerial ('\\' :: (['D', 'I', 'S', 'K'] ++ '&' :: ('V' :: rest))) =
        searchSerial ('V' :: rest) := by
    rw [searchSerial_segment (by decide) (List.all_eq_true.mp (by decide)), if_neg]
    simp [endsWithDigits, show isDecimalDigit 'V' = false by decide]
  have names := @searchSerial_skip
    (['V', 'E', 'N', '_'] ++ (vendor.characters ++ '&' :: (['P', 'R', 'O', 'D', '_'] ++
      (product.characters ++ (['&', 'R', 'E', 'V', '_'] ++ revision.characters)))))
    ('\\' :: (serial.characters ++ '&' :: number.characters))
    (by simp [vendor.free, product.free, revision.free,
      show isTokenCharacter '\\' = false by decide])
  rw [searchSerial_segment serial.nonempty serial.plain, number.endsWithDigits,
    number.searchSerial] at names
  simp only [List.append_assoc, List.cons_append, List.nil_append, decide_eq_true_eq]
    at names bus disk ⊢
  rw [bus, disk, names]

theorem searchProduct_iff :
    searchToken "PROD_".toList (usbstorPath vendor product revision serial number).toList =
        some product.characters ↔
      ∀ behind, BehindFirst "PROD_".toList vendor.characters behind →
        behind = product.characters := by
  constructor
  · intro found behind marked
    rw [searchProduct_of_behindFirst vendor product revision serial number marked] at found
    exact Option.some.inj found
  · intro only
    by_cases marked : ∃ before rest, MarkedAt "PROD_".toList vendor.characters before rest
    · obtain ⟨before, rest, marked⟩ := marked
      obtain ⟨behind, first⟩ := exists_behindFirst marked
      rw [searchProduct_of_behindFirst vendor product revision serial number first,
        only behind first]
    · apply searchProduct_of_unmarked
      intro before rest markedAt
      exact marked ⟨before, rest, markedAt⟩

theorem ofList_eq_text (found : Option (List Char)) (token : PnpToken) :
    found.map String.ofList = some token.text ↔ found = some token.characters := by
  cases found with
  | none => simp
  | some characters => simp [PnpToken.text, String.ofList_inj]

theorem parsePnpDeviceId_eq_iff {path : String} :
    parsePnpDeviceId path = some ⟨some vendor.text, some product.text, some serial.text⟩ ↔
      searchToken "VEN_".toList path.toList = some vendor.characters ∧
        searchToken "PROD_".toList path.toList = some product.characters ∧
          searchSerial path.toList = some serial.characters := by
  simp only [← ofList_eq_text]
  rw [parsePnpDeviceId]
  constructor
  · intro parsed
    split at parsed
    · cases parsed
    · obtain ⟨vendorFound, productFound, serialFound⟩ :=
        HardwareDescriptor.mk.inj (Option.some.inj parsed)
      exact ⟨vendorFound, productFound, serialFound⟩
  · rintro ⟨vendorFound, productFound, serialFound⟩
    simp only [vendorFound, productFound, serialFound]
    rfl

/-- The path is taken apart as it was put together exactly when a number ends it and no product
marker in the vendor comes before the product. -/
theorem parsePnpDeviceId_usbstorPath :
    parsePnpDeviceId (usbstorPath vendor product revision serial number) =
        some ⟨some vendor.text, some product.text, some serial.text⟩ ↔
      number.characters ≠ [] ∧
        ∀ behind, BehindFirst "PROD_".toList vendor.characters behind →
          behind = product.characters := by
  rw [parsePnpDeviceId_eq_iff, searchProduct_iff, searchSerial_usbstorPath]
  constructor
  · rintro ⟨-, only, serialFound⟩
    split at serialFound
    · next numbered => exact ⟨numbered, only⟩
    · cases serialFound
  · rintro ⟨numbered, only⟩
    exact ⟨searchVendor .., only, if_pos numbered⟩

end Path

/-! ## A product marker in the vendor -/

/-- A vendor that holds a product marker. -/
def markedVendor : PnpToken where
  characters := ['P', 'R', 'O', 'D', '_', 'X']
  nonempty := by decide
  plain := List.all_eq_true.mp (by decide)

def bladeProduct : PnpToken where
  characters := ['B', 'L', 'A', 'D', 'E']
  nonempty := by decide
  plain := List.all_eq_true.mp (by decide)

def firstRevision : PnpToken where
  characters := ['1', '.', '0', '0']
  nonempty := by decide
  plain := List.all_eq_true.mp (by decide)

def bladeSerial : PnpToken where
  characters := ['4', 'C', '5', '3']
  nonempty := by decide
  plain := List.all_eq_true.mp (by decide)

def firstSlot : DigitString where
  characters := ['0']
  decimal := List.all_eq_true.mp (by decide)

/-- The vendor `PROD_X` leaves `X` as the product. -/
theorem product_found_in_vendor :
    usbstorPath markedVendor bladeProduct firstRevision bladeSerial firstSlot =
        "USBSTOR\\DISK&VEN_PROD_X&PROD_BLADE&REV_1.00\\4C53&0" ∧
      parsePnpDeviceId
          (usbstorPath markedVendor bladeProduct firstRevision bladeSerial firstSlot) =
        some ⟨some "PROD_X", some "X", some "4C53"⟩ ∧
      parsePnpDeviceId
          (usbstorPath markedVendor bladeProduct firstRevision bladeSerial firstSlot) ≠
        some ⟨some markedVendor.text, some bladeProduct.text, some bladeSerial.text⟩ := by
  decide +kernel

end CryptoUsb
