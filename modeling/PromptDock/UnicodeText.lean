/-!
# Text as sequences of characters

White space as Unicode defines it, trimming, and splitting at runs of white
space; decimal numbers of sixteen bits as Rust's `u16::from_str` reads them.
-/

namespace UnicodeText

/-- The `White_Space` property. -/
def isWhitespace (c : Char) : Bool :=
  (9 ≤ c.toNat && c.toNat ≤ 13) || c.toNat == 32 || c.toNat == 133 || c.toNat == 160 ||
    c.toNat == 0x1680 || (0x2000 ≤ c.toNat && c.toNat ≤ 0x200A) || c.toNat == 0x2028 ||
    c.toNat == 0x2029 || c.toNat == 0x202F || c.toNat == 0x205F || c.toNat == 0x3000

/-- The `Cc` category. -/
def isControl (c : Char) : Bool :=
  c.toNat ≤ 31 || (127 ≤ c.toNat && c.toNat ≤ 159)

/-- `[0-9]`. -/
def isAsciiDigit (c : Char) : Bool :=
  48 ≤ c.toNat && c.toNat ≤ 57

/-- Without white space at either end. -/
def trim (text : List Char) : List Char :=
  ((text.dropWhile isWhitespace).reverse.dropWhile isWhitespace).reverse

/-- The maximal runs of characters that are not white space. -/
def splitWhitespace : List Char → List (List Char)
  | [] => []
  | c :: rest =>
    if isWhitespace c then splitWhitespace rest
    else
      match rest, splitWhitespace rest with
      | d :: _, word :: words =>
        if isWhitespace d then [c] :: word :: words else (c :: word) :: words
      | _, words => [c] :: words

/-- Value of a sequence of decimal digits. -/
def decimalValue (digits : List Char) : Nat :=
  digits.foldl (fun value c => 10 * value + (c.toNat - 48)) 0

/-- `u16::from_str`: an optional plus sign and decimal digits, within range. -/
def parseU16 (text : List Char) : Option Nat :=
  let digits :=
    match text with
    | '+' :: rest => rest
    | _ => text
  if !digits.isEmpty && digits.all isAsciiDigit && decimalValue digits ≤ 65535 then
    some (decimalValue digits)
  else
    none

end UnicodeText
