import CryptoUsb.MetadataProtection
import CryptoUsb.TransparentPrimitives

/-!
# The authenticity of protected metadata

The MAC input joins the fields of an envelope by a separator that may occur in
most of them, so the same input has several readings.  The nonce and the
ciphertext are fixed by the decryption, and what is left ends in a decimal
number, which has no separator.  An envelope other than the one that was made is
refused.
-/

namespace CryptoUsb

open ByteString

/-! ## The fields of a MAC input -/

/-- The last of the fields is what follows the last separator. -/
theorem lastField_inj {first other field otherField : Bytes} (free : (124 : UInt8) ∉ field)
    (otherFree : (124 : UInt8) ∉ otherField)
    (same : first ++ 124 :: field = other ++ 124 :: otherField) :
    first = other ∧ field = otherField := by
  rcases List.append_eq_append_iff.mp same with ⟨between, longer, rest⟩ | ⟨between, longer, rest⟩
  · cases between with
    | nil => simpa [longer, eq_comm] using rest
    | cons byte between =>
        have inside : field = between ++ 124 :: otherField := (List.cons.inj rest).2
        simp [inside] at free
  · cases between with
    | nil => simpa [longer, eq_comm] using rest
    | cons byte between =>
        have inside : otherField = between ++ 124 :: field := (List.cons.inj rest).2
        simp [inside] at otherFree

/-- The decimal text of a number. -/
theorem toList_toString_int (number : Int) :
    (toString number).toList = JsonText.dumpsInt number := by
  rw [Int.toString_eq_repr, Int.repr_eq_if, JsonText.dumpsInt]
  split_ifs with positive
  · rw [show number.natAbs = number.toNat by omega, Nat.repr, String.toList_ofList]
  · rw [show number.natAbs = (-number).toNat by omega, String.toList_append, Nat.repr]
    simp

theorem toString_int_injective : Function.Injective (toString : Int → String) := by
  intro number other same
  have written := congrArg String.toList same
  rw [toList_toString_int, toList_toString_int] at written
  have read := JsonText.parseNumber_dumpsInt number JsonText.endsNumber_nil
  rw [written, JsonText.parseNumber_dumpsInt other JsonText.endsNumber_nil] at read
  cases read
  rfl

/-- A decimal number has no separator. -/
theorem separator_not_mem_decimal (number : Int) :
    (124 : UInt8) ∉ encodeUtf8 (toString number) := by
  have small : ∀ character ∈ (toString number).toList, character.toNat < 58 := by
    have digits {character : Char} (member : character ∈ Nat.toDigits 10 number.natAbs) :
        character.toNat < 58 :=
      (Char.isDigit_iff_toNat.mp
        (Nat.isDigit_of_mem_toDigits (by decide) (by decide) member)).2.trans_lt (by decide)
    intro character member
    rw [toList_toString_int, JsonText.dumpsInt] at member
    split_ifs at member
    · exact digits member
    · rcases List.mem_cons.mp member with rfl | inDigits
      · decide
      · exact digits inDigits
  have encoded := encodeUtf8_ofList_ascii fun character member =>
    (small character member).trans (by decide)
  rw [String.ofList_toList] at encoded
  rw [encoded, List.mem_map]
  rintro ⟨character, member, same⟩
  have value := congrArg UInt8.toNat same
  have bound := small character member
  have separator : (124 : UInt8).toNat = 124 := rfl
  rw [UInt8.toNat_ofNat'] at value
  omega

namespace MetadataProtector

/-- The MAC input of an envelope. -/
def inputOf (stored : ProtectedMetadata) : Bytes :=
  macInput stored.fileId stored.metadataVersion stored.nonce stored.ciphertext

/-- What is assumed of an envelope that someone without the keys presents.  Its tag
verifies only if it is the tag that was computed, for the input it was computed
for; its ciphertext decrypts only if it is the one that was produced, under the
nonce it was produced with. -/
structure Unforged (crypto : Cryptography) (keys : MetadataProtectionKeys)
    (stored other : ProtectedMetadata) : Prop where
  tag : HmacUtil.verifyHmac crypto keys.hmacKey (inputOf other) other.hmacTag = true →
    inputOf other = inputOf stored ∧ other.hmacTag = stored.hmacTag
  ciphertext : ∀ payload,
    AesCipher.decrypt crypto other.nonce other.ciphertext keys.encryptionKey = .ok payload →
      other.nonce = stored.nonce ∧ other.ciphertext = stored.ciphertext

/-- The MAC input with its nonce and ciphertext has one reading. -/
theorem macInput_inj {fileId otherId : String} {version otherVersion : Int}
    {nonce ciphertext : Bytes}
    (same : macInput fileId version nonce ciphertext =
      macInput otherId otherVersion nonce ciphertext) :
    fileId = otherId ∧ version = otherVersion := by
  have rebracket (fileId : String) (version : Int) :
      macInput fileId version nonce ciphertext =
        (encodeUtf8 fileId ++ 124 :: encodeUtf8 (toString version)) ++
          124 :: (nonce ++ 124 :: ciphertext) := by
    simp [macInput]
  rw [rebracket, rebracket] at same
  obtain ⟨sameId, sameVersion⟩ := lastField_inj (separator_not_mem_decimal version)
    (separator_not_mem_decimal otherVersion) (List.append_cancel_right same)
  exact ⟨encodeUtf8_injective sameId,
    toString_int_injective (encodeUtf8_injective sameVersion)⟩

variable {crypto : Cryptography} {keys : MetadataProtectionKeys} {nonce : AesCipher.Nonce}
  {metadata : FileMetadata} {stored : ProtectedMetadata}

theorem Unforged.eq_of_checks {other : ProtectedMetadata}
    (unforged : Unforged crypto keys stored other)
    (verified : HmacUtil.verifyHmac crypto keys.hmacKey (inputOf other) other.hmacTag = true)
    {payload : Bytes}
    (decrypted : AesCipher.decrypt crypto other.nonce other.ciphertext keys.encryptionKey =
      .ok payload) : other = stored := by
  obtain ⟨sameInput, sameTag⟩ := unforged.tag verified
  obtain ⟨sameNonce, sameCiphertext⟩ := unforged.ciphertext payload decrypted
  unfold inputOf at sameInput
  rw [sameNonce, sameCiphertext] at sameInput
  obtain ⟨sameId, sameVersion⟩ := macInput_inj sameInput
  exact ProtectedMetadata.ext sameId sameVersion sameNonce sameCiphertext sameTag

/-- A protected record is read as it was written, and every other envelope is
refused as tampered with. -/
theorem unprotect_authentic (laws : crypto.AesGcmLaws)
    (written : protect crypto keys nonce metadata = .ok stored) :
    unprotect crypto keys stored = .ok metadata ∧
      ∀ other, Unforged crypto keys stored other → other ≠ stored →
        ∃ message, unprotect crypto keys other = raise .metadataTamperError message := by
  refine ⟨unprotect_protect laws written, fun other unforged differs => ?_⟩
  cases verified : HmacUtil.verifyHmac crypto keys.hmacKey (inputOf other) other.hmacTag with
  | false => exact ⟨_, if_pos verified⟩
  | true =>
      have passed : ¬ HmacUtil.verifyHmac crypto keys.hmacKey (inputOf other) other.hmacTag =
          false := by simp [verified]
      cases decrypted : AesCipher.decrypt crypto other.nonce other.ciphertext
          keys.encryptionKey with
      | error exc =>
          exact ⟨_, (if_neg passed).trans (by rw [decrypted])⟩
      | ok payload => exact absurd (unforged.eq_of_checks verified decrypted) differs

/-! ## Another reading of a MAC input -/

/-- A nonce that begins like a version and a separator. -/
def versionNonce : AesCipher.Nonce :=
  ⟨[55, 124] ++ List.replicate 10 0, by decide⟩

/-- A record of the file `f`, protected under that nonce. -/
def versionStored : ProtectedMetadata :=
  let metadata := plainMetadata [104, 105] {} {}
  let ciphertext := plainKeys.encryptionKey ++ payload metadata
  { fileId := "f"
    metadataVersion := 1
    nonce := versionNonce.1
    ciphertext
    hmacTag := HmacUtil.computeHmac (plainCrypto [104, 105]) plainKeys.hmacKey
      (macInput "f" 1 versionNonce.1 ciphertext) }

/-- The same MAC input, read as version 7 of another file. -/
def relabelled : ProtectedMetadata :=
  { versionStored with
    fileId := "f|1"
    metadataVersion := 7
    nonce := List.replicate 10 0 }

theorem inputOf_relabelled : inputOf relabelled = inputOf versionStored := by
  have fileId : encodeUtf8 "f|1" = encodeUtf8 "f" ++ 124 :: encodeUtf8 "1" := by decide +kernel
  have version : encodeUtf8 (toString (7 : Int)) = [55] := by decide +kernel
  have one : encodeUtf8 (toString (1 : Int)) = encodeUtf8 "1" := rfl
  simp only [inputOf, relabelled, versionStored, macInput, fileId, version, one, versionNonce,
    List.append_assoc, List.cons_append, List.nil_append]

theorem unprotect_authentic_plain :
    unprotect (plainCrypto [104, 105]) plainKeys versionStored =
        .ok (plainMetadata [104, 105] {} {}) ∧
      inputOf relabelled = inputOf versionStored ∧
      ∃ message, unprotect (plainCrypto [104, 105]) plainKeys relabelled =
        raise .metadataTamperError message := by
  have written : protect (plainCrypto [104, 105]) plainKeys versionNonce
      (plainMetadata [104, 105] {} {}) = .ok versionStored :=
    protect_eq_ok.mpr ⟨AesCipher.encrypt_eq_ok.mpr
      ⟨by decide, rfl, transparent_encrypt.mpr ⟨by decide, rfl⟩⟩, rfl, rfl, rfl⟩
  have unforged : Unforged (plainCrypto [104, 105]) plainKeys versionStored relabelled := by
    refine ⟨fun _ => ⟨inputOf_relabelled, rfl⟩, fun payload decrypted => ?_⟩
    -- What is left of the nonce is too short for a decryption.
    obtain ⟨-, size, -⟩ := AesCipher.decrypt_eq_ok.mp decrypted
    cases size
  have differs : relabelled ≠ versionStored := fun same =>
    absurd (congrArg ProtectedMetadata.metadataVersion same) (by decide)
  obtain ⟨read, refused⟩ := unprotect_authentic transparent_aesGcmLaws written
  exact ⟨read, inputOf_relabelled, refused relabelled unforged differs⟩

end MetadataProtector

end CryptoUsb
