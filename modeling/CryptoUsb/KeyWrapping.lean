import CryptoUsb.CryptoPrimitives

/-!
# Key wrappers

`KeyWrapper` is the interface under which a file encryption key is wrapped and
unwrapped.  `rsaOaepKeyWrapper` is its asymmetric implementation and
`deviceBoundKeyWrapper` the decorator that adds an outer AES-GCM layer under a
key derived from a device.
-/

namespace CryptoUsb

open ByteString

/-- The random bytes one wrap draws: the padding of the asymmetric layer and
the nonce of a device layer. -/
structure WrapEntropy where
  paddingSeed : Bytes
  deviceNonce : AesCipher.Nonce

structure KeyWrapper where
  algorithm : String
  wrap : WrapEntropy → Bytes → Raises Bytes
  unwrap : Bytes → Raises Bytes

structure RSAPublicKey where
  encrypt : (seed keyMaterial : Bytes) → Except String Bytes

structure RSAPrivateKey where
  decrypt : Bytes → Except String Bytes
  publicKey : RSAPublicKey
  /-- The DER bytes of the key. -/
  privateBytes : Bytes

/-- `RSAOAEPKeyWrapper`, with the keys a caller can read back from it. -/
structure RSAOAEPKeyWrapper where
  publicKey : RSAPublicKey
  privateKey : Option RSAPrivateKey

def rsaOaepKeyWrapper (keys : RSAOAEPKeyWrapper) : KeyWrapper where
  algorithm := "RSA-OAEP"
  wrap entropy keyMaterial :=
    match keys.publicKey.encrypt entropy.paddingSeed keyMaterial with
    | .error exc => raise .keyWrappingError s!"RSA-OAEP key wrapping failed: {exc}"
    | .ok wrapped => .ok wrapped
  unwrap wrappedKey :=
    match keys.privateKey with
    | none => raise .keyUnwrappingError "No private key available to unwrap with"
    | some privateKey =>
        match privateKey.decrypt wrappedKey with
        | .error exc => raise .keyUnwrappingError s!"RSA-OAEP key unwrapping failed: {exc}"
        | .ok keyMaterial => .ok keyMaterial

def hkdfInfoDeviceBindingKey : Bytes :=
  encodeUtf8 "crypto-usb:device-binding:wrap-key"

def deriveDeviceBindingKey (crypto : Cryptography) (deviceFingerprint : Bytes) : Bytes :=
  (crypto.hkdfSha256 AesCipher.aesKeySizeBytes hkdfInfoDeviceBindingKey deviceFingerprint).1

theorem length_deriveDeviceBindingKey (crypto : Cryptography) (deviceFingerprint : Bytes) :
    (deriveDeviceBindingKey crypto deviceFingerprint).length = AesCipher.aesKeySizeBytes :=
  (crypto.hkdfSha256 _ _ _).2

/-- `DeviceBoundKeyWrapper`: an outer AES-GCM layer over what `inner` wrapped. -/
def deviceBoundKeyWrapper (crypto : Cryptography) (inner : KeyWrapper) (deviceKey : Bytes) :
    KeyWrapper where
  algorithm := inner.algorithm ++ "+DEVICE-BOUND-AES-GCM"
  wrap entropy keyMaterial := do
    let innerWrapped ← inner.wrap entropy keyMaterial
    match AesCipher.encrypt crypto entropy.deviceNonce innerWrapped deviceKey with
    | .error exc => raise .keyWrappingError s!"Device-bound key wrapping failed: {exc.message}"
    | .ok (nonce, ciphertext) => .ok (nonce ++ ciphertext)
  unwrap wrappedKey :=
    match AesCipher.decrypt crypto (wrappedKey.take AesCipher.nonceSizeBytes)
        (wrappedKey.drop AesCipher.nonceSizeBytes) deviceKey with
    | .error exc => raise .keyUnwrappingError s!"Device-bound key unwrapping failed: {exc.message}"
    | .ok innerWrapped => inner.unwrap innerWrapped

/-! ## What is relied on of a wrapper -/

/-- Unwrapping undoes wrapping. -/
def KeyWrapper.UndoesWrap (wrapper : KeyWrapper) : Prop :=
  ∀ entropy keyMaterial wrapped, wrapper.wrap entropy keyMaterial = .ok wrapped →
    wrapper.unwrap wrapped = .ok keyMaterial

/-- What a wrapper of the family wrapped, every wrapper of the family unwraps
to the same key or not at all. -/
def GenuineWrappers (family : KeyWrapper → Prop) : Prop :=
  ∀ first second, family first → family second →
    ∀ entropy keyMaterial wrapped unwrapped, first.wrap entropy keyMaterial = .ok wrapped →
      second.unwrap wrapped = .ok unwrapped → unwrapped = keyMaterial

section DeviceBound

variable {crypto : Cryptography} {inner other : KeyWrapper} {deviceKey otherKey : Bytes}

theorem deviceBound_wrap_eq_ok {entropy : WrapEntropy} {keyMaterial wrapped : Bytes} :
    (deviceBoundKeyWrapper crypto inner deviceKey).wrap entropy keyMaterial = .ok wrapped ↔
      ∃ innerWrapped ciphertext, inner.wrap entropy keyMaterial = .ok innerWrapped ∧
        AesCipher.encrypt crypto entropy.deviceNonce innerWrapped deviceKey =
          .ok (entropy.deviceNonce.1, ciphertext) ∧
        wrapped = entropy.deviceNonce.1 ++ ciphertext := by
  simp only [deviceBoundKeyWrapper, bind_eq_ok]
  constructor
  · rintro ⟨innerWrapped, innerWrote, outer⟩
    rcases encrypted : AesCipher.encrypt crypto entropy.deviceNonce innerWrapped deviceKey with
      exc | ⟨nonce, ciphertext⟩
    · simp [encrypted] at outer
    · obtain ⟨-, rfl, -⟩ := AesCipher.encrypt_eq_ok.mp encrypted
      simp only [encrypted, Except.ok.injEq] at outer
      exact ⟨innerWrapped, ciphertext, innerWrote, encrypted, outer.symm⟩
  · rintro ⟨innerWrapped, ciphertext, innerWrote, encrypted, rfl⟩
    exact ⟨innerWrapped, innerWrote, by simp only [encrypted]⟩

theorem deviceBound_unwrap_append {nonce : AesCipher.Nonce} {ciphertext unwrapped : Bytes} :
    (deviceBoundKeyWrapper crypto inner deviceKey).unwrap (nonce.1 ++ ciphertext) =
        .ok unwrapped ↔
      ∃ innerWrapped, AesCipher.decrypt crypto nonce.1 ciphertext deviceKey = .ok innerWrapped ∧
        inner.unwrap innerWrapped = .ok unwrapped := by
  simp only [deviceBoundKeyWrapper, List.take_left' nonce.2, List.drop_left' nonce.2]
  rcases AesCipher.decrypt crypto nonce.1 ciphertext deviceKey with exc | innerWrapped <;> simp

theorem deviceBound_undoesWrap (laws : crypto.AesGcmLaws) (undoes : inner.UndoesWrap) :
    (deviceBoundKeyWrapper crypto inner deviceKey).UndoesWrap := by
  intro entropy keyMaterial wrapped wrote
  obtain ⟨innerWrapped, ciphertext, innerWrote, encrypted, rfl⟩ := deviceBound_wrap_eq_ok.mp wrote
  exact deviceBound_unwrap_append.mpr ⟨innerWrapped, AesCipher.decrypt_of_encrypt laws encrypted,
    undoes entropy keyMaterial innerWrapped innerWrote⟩

theorem deviceBound_wrap_returns (total : crypto.EncryptsAll)
    (size : deviceKey.length = AesCipher.aesKeySizeBytes) {entropy : WrapEntropy}
    {keyMaterial : Bytes} :
    Returns ((deviceBoundKeyWrapper crypto inner deviceKey).wrap entropy keyMaterial) ↔
      Returns (inner.wrap entropy keyMaterial) := by
  constructor
  · rintro ⟨wrapped, wrote⟩
    obtain ⟨innerWrapped, -, innerWrote, -⟩ := deviceBound_wrap_eq_ok.mp wrote
    exact ⟨innerWrapped, innerWrote⟩
  · rintro ⟨innerWrapped, innerWrote⟩
    obtain ⟨ciphertext, encrypted⟩ :=
      AesCipher.encrypt_total total entropy.deviceNonce innerWrapped size
    exact ⟨_, deviceBound_wrap_eq_ok.mpr ⟨innerWrapped, ciphertext, innerWrote, encrypted, rfl⟩⟩

/-- A wrong device never reaches the inner wrapper. -/
theorem deviceKey_eq_of_unwrap (laws : crypto.AesGcmLaws) {entropy : WrapEntropy}
    {keyMaterial wrapped unwrapped : Bytes}
    (wrote : (deviceBoundKeyWrapper crypto inner deviceKey).wrap entropy keyMaterial = .ok wrapped)
    (read : (deviceBoundKeyWrapper crypto other otherKey).unwrap wrapped = .ok unwrapped) :
    otherKey = deviceKey := by
  obtain ⟨innerWrapped, ciphertext, -, encrypted, rfl⟩ := deviceBound_wrap_eq_ok.mp wrote
  obtain ⟨_, decrypted, _⟩ := deviceBound_unwrap_append.mp read
  exact AesCipher.key_eq_of_decrypt laws encrypted decrypted

end DeviceBound

/-- The device-bound forms of a genuine family are genuine. -/
theorem genuineWrappers_deviceBound {crypto : Cryptography} (laws : crypto.AesGcmLaws)
    {family : KeyWrapper → Prop} (genuine : GenuineWrappers family) :
    GenuineWrappers fun wrapper => ∃ inner deviceKey, family inner ∧
      wrapper = deviceBoundKeyWrapper crypto inner deviceKey := by
  rintro _ _ ⟨first, firstKey, firstMember, rfl⟩ ⟨second, secondKey, secondMember, rfl⟩
    entropy keyMaterial wrapped unwrapped wrote read
  obtain ⟨innerWrapped, ciphertext, innerWrote, encrypted, rfl⟩ := deviceBound_wrap_eq_ok.mp wrote
  obtain ⟨otherWrapped, decrypted, innerRead⟩ := deviceBound_unwrap_append.mp read
  obtain rfl := AesCipher.key_eq_of_decrypt laws encrypted decrypted
  have sameWrapped : otherWrapped = innerWrapped :=
    Except.ok.inj (decrypted.symm.trans (AesCipher.decrypt_of_encrypt laws encrypted))
  rw [sameWrapped] at innerRead
  exact genuine first second firstMember secondMember entropy keyMaterial innerWrapped unwrapped
    innerWrote innerRead

end CryptoUsb
