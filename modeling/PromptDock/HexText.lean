/-!
# Text of fixed character classes

`hexDigits width n` are the `width` lowercase hexadecimal digits of `n`, most
significant first.  `allowedText` is the shape that a text column asks for: a
number of characters, all from one class.  The classes are sets of ASCII
characters, so a text is read as its bytes: a byte of a class is a character of
its own, and a byte of any other character is in no class.
-/

namespace HexText

/-- The bytes of a text. -/
def utf8 (text : String) : List UInt8 :=
  text.toUTF8.data.toList

/-- Lowercase hexadecimal digit of value `n`. -/
def hexDigit (n : Nat) : Char :=
  if n < 10 then Char.ofNat (48 + n) else Char.ofNat (87 + n)

/-- The `width` lowest hexadecimal digits of `n`, most significant first. -/
def hexDigits : Nat → Nat → List Char
  | 0, _ => []
  | width + 1, n => hexDigits width (n / 16) ++ [hexDigit (n % 16)]

theorem hexDigits_length (width n : Nat) : (hexDigits width n).length = width := by
  induction width generalizing n with
  | zero => rfl
  | succ width ih => simp [hexDigits, ih]

theorem forall_mem_hexDigits {P : Char → Prop} (hP : ∀ d < 16, P (hexDigit d)) (width n : Nat) :
    ∀ c ∈ hexDigits width n, P c := by
  induction width generalizing n with
  | zero => nofun
  | succ width ih =>
    intro c hc
    rcases List.mem_append.mp hc with hc | hc
    · exact ih _ c hc
    · rw [List.mem_singleton.mp hc]
      exact hP _ (Nat.mod_lt n (by decide))

/-- `[0-9a-f]`. -/
def isLowerHex (byte : UInt8) : Bool :=
  (48 ≤ byte && byte ≤ 57) || (97 ≤ byte && byte ≤ 102)

/-- `[0-9A-Fa-f]`. -/
def isHex (byte : UInt8) : Bool :=
  isLowerHex byte || (65 ≤ byte && byte ≤ 70)

/-- `[A-Za-z0-9_-]`. -/
def isUrlSafe (byte : UInt8) : Bool :=
  (48 ≤ byte && byte ≤ 57) || (65 ≤ byte && byte ≤ 90) || (97 ≤ byte && byte ≤ 122) ||
    byte == 95 || byte == 45

/-- Between `low` and `high` characters, all of the class `allowed`. -/
def allowedText (allowed : UInt8 → Bool) (low high : Nat) (text : String) : Bool :=
  low ≤ (utf8 text).length && (utf8 text).length ≤ high && (utf8 text).all allowed

end HexText
