import Mathlib.Algebra.Ring.Int.Defs
import Mathlib.Algebra.Ring.Nat
import PromptDock.HexText

/-!
# Values shared by the relay's tables

Timestamps are milliseconds, held by the program as `i64`; sums that the
program saturates saturate here.  A `Uuid` is its 128 bits, and its two texts
are derived from them.  `Blake3` stands for the hash library: the program uses
its derive-key mode and its keyed mode, and reads a digest as 64 lowercase
hexadecimal characters.
-/

namespace PromptDock

open HexText

export HexText (utf8)

/-- Milliseconds since the epoch. -/
abbrev Timestamp := Int

/-- `i64::MIN` and `i64::MAX`. -/
def i64Min : Int := -9223372036854775808
def i64Max : Int := 9223372036854775807

/-- `i64::saturating_add`. -/
def saturatingAdd (a b : Int) : Int :=
  max i64Min (min i64Max (a + b))

/-- `i64::saturating_sub`. -/
def saturatingSub (a b : Int) : Int :=
  max i64Min (min i64Max (a - b))

/-- A version 4 UUID. -/
abbrev Uuid := BitVec 128

/-- `Uuid::to_string`: the digits in groups of 8, 4, 4, 4 and 12. -/
def Uuid.hyphenated (id : Uuid) : String :=
  let digits := hexDigits 32 id.toNat
  String.ofList
    (digits.take 8 ++ '-' :: (digits.drop 8).take 4 ++ '-' :: (digits.drop 12).take 4 ++
      '-' :: (digits.drop 16).take 4 ++ '-' :: digits.drop 20)

/-- `wx:` and 64 lowercase hexadecimal digits, the shape of an account
fingerprint. -/
def isAccountFingerprint (value : String) : Bool :=
  (utf8 value).take 3 == utf8 "wx:" &&
    ((utf8 value).drop 3).length == 64 && ((utf8 value).drop 3).all isLowerHex

/-- The shape every stored opaque handle has. -/
def isStoredHandle (value : String) : Bool :=
  allowedText isUrlSafe 32 128 value

/-- A digest in hexadecimal. -/
def isHexDigest (value : String) : Bool :=
  allowedText isLowerHex 64 64 value

/-- The hash library.  Inputs are the bytes fed to the hasher. -/
structure Blake3 where
  /-- `Hasher::new_derive_key(context)`, finalized and rendered with `to_hex`. -/
  deriveKey : String → List UInt8 → String
  /-- `Hasher::new_keyed(key)`, finalized and rendered with `to_hex`. -/
  keyed : List UInt8 → List UInt8 → String
  deriveKey_hex : ∀ context bytes, isHexDigest (deriveKey context bytes) = true
  keyed_hex : ∀ key bytes, isHexDigest (keyed key bytes) = true

/-- The hash library that answers every input with zeros. -/
def Blake3.zero : Blake3 where
  deriveKey _ _ := "0000000000000000000000000000000000000000000000000000000000000000"
  keyed _ _ := "0000000000000000000000000000000000000000000000000000000000000000"
  deriveKey_hex _ _ := by decide
  keyed_hex _ _ := by decide

/-- A digest that tells inputs apart by their last digit. -/
def lastDigitDigest (bytes : List UInt8) : String :=
  match bytes.getLast? with
  | some 49 => "0000000000000000000000000000000000000000000000000000000000000001"
  | some 50 => "0000000000000000000000000000000000000000000000000000000000000002"
  | some 51 => "0000000000000000000000000000000000000000000000000000000000000003"
  | _ => "0000000000000000000000000000000000000000000000000000000000000000"

theorem isHexDigest_lastDigitDigest (bytes : List UInt8) :
    isHexDigest (lastDigitDigest bytes) = true := by
  unfold lastDigitDigest
  split <;> decide

/-- A hash library for examples. -/
def Blake3.lastDigit : Blake3 where
  deriveKey _ bytes := lastDigitDigest bytes
  keyed _ bytes := lastDigitDigest bytes
  deriveKey_hex _ bytes := isHexDigest_lastDigitDigest bytes
  keyed_hex _ bytes := isHexDigest_lastDigitDigest bytes

/-- `u64::to_be_bytes` of a length, and `i64::to_be_bytes` of an integer. -/
def beBytes (n : Int) : List UInt8 :=
  let word := BitVec.ofInt 64 n
  (List.range 8).map fun i => UInt8.ofNat (word >>> (8 * (7 - i))).toNat

/-- A length-prefixed field of a hash input. -/
def frame (value : List UInt8) : List UInt8 :=
  beBytes value.length ++ value

end PromptDock
