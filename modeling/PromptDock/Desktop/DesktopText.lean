import Mathlib.Data.Char
import Mathlib.Data.List.Lex
import Mathlib.Data.List.TakeWhile
import PromptDock.RelayValues
import PromptDock.UnicodeText

/-!
# Text, digests and clocks of the desktop application

A Rust `str` is its Unicode scalar values in order, a `Text`.  The database
counts and trims text in its own way: `trim` takes only spaces off, and
`length` stops at a NUL.

`Hashes` stands for the hash libraries.  A stable key is the BLAKE3 digest of
length-prefixed fields.
-/

namespace PromptDock.Desktop

open UnicodeText List

/-- A Rust `str`. -/
abbrev Text := List Char

/-- A text constant of the program. -/
abbrev text (s : String) : Text := s.toList

/-- `str::as_bytes`. -/
def textBytes (t : Text) : List UInt8 :=
  t.flatMap String.utf8EncodeChar

/-- `str::len`. -/
def byteLength (t : Text) : Nat :=
  (t.map Char.utf8Size).sum

/-- `text.trim().is_empty()`. -/
def blank (t : Text) : Bool :=
  t.all isWhitespace

/-- `value.filter(|value| !value.trim().is_empty())`. -/
def nonBlank (value : Option Text) : Option Text :=
  value.filter fun t => !blank t

/-- `trim(value)` of the database: spaces only. -/
def sqlTrim (t : Text) : Text :=
  ((t.dropWhile (· == ' ')).reverse.dropWhile (· == ' ')).reverse

/-- `length(value)` of the database: the characters before the first NUL. -/
def sqlLength (t : Text) : Nat :=
  (t.takeWhile (· != '\x00')).length

/-- `length(trim(value)) > 0`. -/
def sqlPresent (t : Text) : Bool :=
  0 < sqlLength (sqlTrim t)

/-- No control character at all. -/
def plain (t : Text) : Bool :=
  t.all fun c => !isControl c

/-- Line feed, carriage return and tab. -/
def isLineControl (c : Char) : Bool :=
  c == '\n' || c == '\r' || c == '\t'

/-- 64 lowercase hexadecimal digits. -/
def isDigest (t : Text) : Bool :=
  t.length == 64 && t.all fun c => ('0' ≤ c && c ≤ '9') || ('a' ≤ c && c ≤ 'f')

/-- The hash libraries, as the hexadecimal digests the program reads. -/
structure Hashes where
  (blake3 sha256 : List UInt8 → Text)
  blake3_digest : ∀ bytes, isDigest (blake3 bytes) = true
  sha256_digest : ∀ bytes, isDigest (sha256 bytes) = true

/-- `derive_stable_key`. -/
def deriveStableKey (hashes : Hashes) (domain : Text) (components : List Text) : Text :=
  hashes.blake3 (frame (textBytes domain) ++ components.flatMap fun c => frame (textBytes c))

/-- `source_hash_sha256`. -/
def sourceHashSha256 (hashes : Hashes) (t : Text) : Text :=
  hashes.sha256 (textBytes t)

/-- `i64::checked_add`. -/
def checkedAdd (a b : Int) : Option Int :=
  if i64Min ≤ a + b ∧ a + b ≤ i64Max then some (a + b) else none

/-- `Number.MAX_SAFE_INTEGER`, the last revision the program hands out. -/
def maxRevision : Int := 9007199254740991

/-- A sequence of fallible steps succeeds if each of them does. -/
theorem except_bind_eq_ok {ε α β : Type} {x : Except ε α} {f : α → Except ε β} {b : β} :
    (x >>= f) = .ok b ↔ ∃ a, x = .ok a ∧ f a = .ok b := by
  cases x <;> simp [bind, Except.bind]

/-! ## Blank and plain text -/

variable {t : Text}

theorem blank_eq_false : blank t = false ↔ ∃ c ∈ t, isWhitespace c = false := by
  simp [blank]

theorem plain_iff : plain t = true ↔ ∀ c ∈ t, isControl c = false := by
  simp [plain]

/-- What is left of a list when both ends are trimmed holds every element that
is not trimmed. -/
theorem mem_trimmed {α : Type} {p : α → Bool} {l : List α} {a : α} (ha : a ∈ l)
    (hp : p a = false) : a ∈ ((l.dropWhile p).reverse.dropWhile p).reverse := by
  have hkeep : ∀ l : List α, a ∈ l → a ∈ l.dropWhile p := by
    intro l hl
    rw [← takeWhile_append_dropWhile (p := p) (l := l)] at hl
    rcases mem_append.mp hl with htake | hdrop
    · have hyes := mem_takeWhile_imp htake
      rw [hp] at hyes
      cases hyes
    · exact hdrop
  have hdropped := hkeep l ha
  simpa using hkeep (l.dropWhile p).reverse (by simpa using hdropped)

/-- A text without control characters is read by the database to its end. -/
theorem sqlLength_of_plain (h : plain t = true) : sqlLength t = t.length := by
  have hall : ∀ c ∈ t, (c != '\x00') = true := by
    intro c hc
    have hplain := plain_iff.mp h c hc
    rw [bne_iff_ne]
    rintro rfl
    revert hplain
    decide
  rw [sqlLength, takeWhile_eq_self_iff.mpr hall]

/-- Trimming adds no character. -/
theorem mem_of_mem_sqlTrim {c : Char} (h : c ∈ sqlTrim t) : c ∈ t := by
  have hreversed := (dropWhile_sublist _).subset (mem_reverse.mp h)
  exact (dropWhile_sublist _).subset (mem_reverse.mp hreversed)

theorem plain_sqlTrim (h : plain t = true) : plain (sqlTrim t) = true :=
  plain_iff.mpr fun c hc => plain_iff.mp h c (mem_of_mem_sqlTrim hc)

/-- Text that the program finds not blank is not blank for the database. -/
theorem sqlPresent_of_not_blank (hblank : blank t = false) (hplain : plain t = true) :
    sqlPresent t = true := by
  obtain ⟨c, hc, hwhite⟩ := blank_eq_false.mp hblank
  have hspace : (c == ' ') = false := by
    rw [beq_eq_false_iff_ne]
    rintro rfl
    revert hwhite
    decide
  have hmem : c ∈ sqlTrim t := mem_trimmed hc hspace
  have hlen := sqlLength_of_plain (plain_sqlTrim hplain)
  rw [sqlPresent, hlen, decide_eq_true_iff]
  exact length_pos_of_mem hmem

end PromptDock.Desktop
