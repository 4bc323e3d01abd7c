import OpenSpdm.ManagedBuffer

/-!
# The Edwards-curve wrappers over OpenSSL

`CryptEd.c` wraps the EdDSA of OpenSSL in three calls:

* `OpenSpdm.edNewByNid` generates a key on the curve a NID names, Ed25519 or Ed448;
* `OpenSpdm.edDsaSign` signs a message into the caller's buffer. It takes the
  signature size from the key's type, `2 * 32` bytes on Ed25519 and `2 * 57` on
  Ed448. A smaller buffer gets `FALSE` and that size in `*SigSize`. A large enough
  one is cut down to that size before OpenSSL is called;
* `OpenSpdm.edDsaVerify` checks a signature, which must be exactly that size.

Every result the wrappers return is OpenSSL's once the sizes are checked, so no
property of them is stated here beyond what the definitions say; they are modelled
so that the sizes each one checks can be read against the source.

OpenSSL is an argument (`OpenSpdm.EvpEd`); each call is modelled by its result.
The NID constants are in a header that is not among the sources, so a NID is
modelled by the curve it names. `EVP_MD_CTX_free` and `EVP_PKEY_CTX_free` release
memory and change no result. `EdFree` only calls `EVP_PKEY_free`.
-/

namespace OpenSpdm

/-- The curves `EdNewByNid` knows, for `CRYPTO_NID_ED25519` and `CRYPTO_NID_ED448`. -/
inductive EdCurve
  | ed25519
  | ed448
  deriving DecidableEq, Repr

/-- `HalfSize` in `EdDsaSign` and `EdDsaVerify`: the size of each of `R` and `S`. -/
def EdCurve.halfSize : EdCurve → Nat
  | .ed25519 => 32
  | .ed448 => 57

/-- `INT_MAX`. -/
def intMax : Nat := 2 ^ 31 - 1

/-- The OpenSSL calls of the wrappers, over keys of type `κ` (an `EVP_PKEY`). -/
structure EvpEd (κ : Type) where
  /-- `EVP_PKEY_CTX_new_id`, `EVP_PKEY_keygen_init` and `EVP_PKEY_keygen` for the
  curve's key type: the key, or `none` where one of them fails. -/
  keygen : EdCurve → Option κ
  /-- `EVP_PKEY_id`, as the curve it names; `none` for every other key type. -/
  curve : κ → Option EdCurve
  /-- Whether `EVP_MD_CTX_new` returns a context. -/
  mdCtxNew : Bool
  /-- Whether `EVP_DigestSignInit (Ctx, NULL, NULL, NULL, Pkey)` returns 1. -/
  digestSignInit : κ → Bool
  /-- `EVP_DigestSign (Ctx, Signature, SigSize, Message, Size)` with `*SigSize` as
  passed: the signature, as many bytes as it leaves in `*SigSize`, or `none` where
  it does not return 1. -/
  digestSign : κ → Nat → List UInt8 → Option (List UInt8)
  /-- Whether `EVP_DigestVerifyInit (Ctx, NULL, NULL, NULL, Pkey)` returns 1. -/
  digestVerifyInit : κ → Bool
  /-- Whether `EVP_DigestVerify (Ctx, Signature, SigSize, Message, Size)` returns 1. -/
  digestVerify : κ → List UInt8 → List UInt8 → Bool

variable {κ : Type}

/-- `EdNewByNid`, with the curve the NID names, `none` for any other NID. -/
def edNewByNid (evp : EvpEd κ) : Option EdCurve → Option κ
  | some curve => evp.keygen curve
  | none => none

/-- `EdDsaSign (EdContext, Message, Size, Signature, SigSize)`, with `NULL` pointers
as `none` and `signature` whether `Signature` is not `NULL`: the result, `*SigSize`
as it leaves it, and the signature written on success. -/
def edDsaSign (evp : EvpEd κ) (edContext : Option κ) (message : Option (List UInt8))
    (signature : Bool) (sigSize : Option Nat) : Bool × Option Nat × Option (List UInt8) :=
  match edContext, message, sigSize with
  | some key, some message, some sigSize =>
    if !signature then (false, some sigSize, none) else
    match evp.curve key with
    | none => (false, some sigSize, none)
    | some curve =>
      let size := curve.halfSize * 2
      if sigSize < size then (false, some size, none)
      else if !evp.mdCtxNew || !evp.digestSignInit key then (false, some size, none)
      else match evp.digestSign key size message with
        | none => (false, some size, none)
        | some sig => (true, some sig.length, some sig)
  | _, _, sigSize => (false, sigSize, none)

/-- `EdDsaVerify (EdContext, Message, Size, Signature, SigSize)`, with `NULL`
pointers as `none`. -/
def edDsaVerify (evp : EvpEd κ) (edContext : Option κ) (message signature : Option (List UInt8)) :
    Bool :=
  match edContext, message, signature with
  | some key, some message, some signature =>
    if intMax < signature.length ∨ signature.length = 0 then false else
    match evp.curve key with
    | none => false
    | some curve =>
      signature.length == curve.halfSize * 2 && evp.mdCtxNew && evp.digestVerifyInit key &&
        evp.digestVerify key signature message
  | _, _, _ => false

end OpenSpdm
