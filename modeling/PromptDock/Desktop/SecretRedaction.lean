import Mathlib.Data.List.Infix
import PromptDock.Desktop.DesktopText

/-!
# Private keys in notices

`redact_secrets` (`notification/redaction.rs`) reads a text line by line.  A line
with a BEGIN marker of a private key opens a block, a line with an END marker
closes it, and the lines in between are replaced.  Both marker lines are copied
as they are, with whatever else stands on them.

A key is hidden if none of its characters is in the output.  To say where a
character of the output comes from, the loop is written for texts whose characters
carry more than themselves, which it does not read; a `Letter` carries whether it
belongs to the key.  A carriage return before a line feed is part of the line break.
-/

namespace PromptDock.Desktop

open List

/-- `contains_ascii_case_insensitive`, for needles that are not empty. -/
def containsAsciiCaseInsensitive (haystack needle : Text) : Bool :=
  (haystack.map Char.toLower).tails.any fun rest => (needle.map Char.toLower).isPrefixOf rest

/-- The text that stands for a secret. -/
def redacted : Text := text "[REDACTED]"

def beginMark : Text := text "-----BEGIN "

def endMark : Text := text "-----END "

def keyMark : Text := text "PRIVATE KEY-----"

def opensKey (line : Text) : Bool :=
  containsAsciiCaseInsensitive line beginMark && containsAsciiCaseInsensitive line keyMark

def closesKey (line : Text) : Bool :=
  containsAsciiCaseInsensitive line endMark && containsAsciiCaseInsensitive line keyMark

section

variable {α : Type} (char : α → Char) (mark : List α) (redactLine : List α → List α)

/-- The loop of `redact_secrets`, from the lines that are left and whether a block
is open, to the lines of the output.  `redactLine` is what is done to a line
outside a block: to bearer tokens, user names in addresses, named fields, access
keys and API tokens. -/
def redactLines (privateKeyBlock : Bool) : List (List α) → List (List α)
  | [] => []
  | line :: rest =>
    if privateKeyBlock then
      if closesKey (line.map char) then line :: redactLines false rest
      -- the output ends in a line feed here, so that it never ends in the mark
      else mark :: redactLines true rest
    else if opensKey (line.map char) then line :: redactLines true rest
    else redactLine line :: redactLines false rest

end

/-- `redact_secrets`. -/
def redactSecrets (redactLine : Text → Text) (t : Text) : Text :=
  intercalate ['\n'] (redactLines id redacted redactLine false (t.splitOn '\n'))

/-- Whether lines leave a block open. -/
def leavesOpen (privateKeyBlock : Bool) (lines : List Text) : Bool :=
  lines.foldl (fun inside line => if inside then !closesKey line else opensKey line)
    privateKeyBlock

/-! ## A key in a text -/

/-- A character of a text, and whether it belongs to the key. -/
structure Letter where
  char : Char
  key : Bool

/-- The line shows something of the key. -/
def showsKey (line : List Letter) : Bool :=
  line.any Letter.key

def openLetters (t : Text) : List Letter :=
  t.map (⟨·, false⟩)

def keyLetters (t : Text) : List Letter :=
  t.map (⟨·, true⟩)

/-- A line of the key that a line feed ends: a carriage return before it belongs to
the line break. -/
def keyLine (t : Text) : List Letter :=
  if t.getLast? = some '\r' then keyLetters t.dropLast ++ openLetters ['\r'] else keyLetters t

/-- What is done to a line outside a block.  It takes nothing of the key from
elsewhere. -/
structure LineRedactor where
  run : List Letter → List Letter
  shows : ∀ line, showsKey (run line) = true → showsKey line = true

/-- Nothing of the key is in the output for these lines. -/
def Hidden (r : LineRedactor) (privateKeyBlock : Bool) (lines : List (List Letter)) : Prop :=
  ∀ line ∈ redactLines Letter.char (openLetters redacted) r.run privateKeyBlock lines,
    showsKey line = false

/-- What stands between the markers: on one line, or on several, where the first
and the last share their lines with the markers. -/
inductive Material where
  | inline (key : Text)
  | lines (first : Text) (middle : List Text) (last : Text)

/-- Nothing of the key is on the line. -/
def Blank (line : Text) : Prop :=
  line = [] ∨ line = ['\r']

/-- The lines of a text around the markers of a key. -/
structure KeyContext where
  before : List Text
  (lead label trail : Text)
  after : List Text

namespace KeyContext

variable (c : KeyContext)

/-- The line of the BEGIN marker, up to its end. -/
def head : Text := c.lead ++ (beginMark ++ c.label ++ keyMark)

/-- The line of the END marker, from its start. -/
def foot : Text := endMark ++ c.label ++ keyMark ++ c.trail

def lines : Material → List (List Letter)
  | .inline key =>
    c.before.map openLetters ++ (openLetters c.head ++ keyLetters key ++ openLetters c.foot) ::
      c.after.map openLetters
  | .lines first middle last =>
    c.before.map openLetters ++ (openLetters c.head ++ keyLine first) ::
      (middle.map keyLine ++ (keyLetters last ++ openLetters c.foot) :: c.after.map openLetters)

variable (r : LineRedactor)

/-- No character of the key is in the output. -/
def Hides (m : Material) : Prop :=
  Hidden r false (c.lines m)

/-- Nothing of the key shares a line with a marker, and no line in between looks
like an END marker.  On a line that an open block hides, a BEGIN marker may be
followed by anything but an END marker.  A BEGIN marker on the line that ends that
block hides nothing, and what is done to single lines must remove the key. -/
def Clear : Material → Prop
  | .inline key => key = []
  | .lines first middle last =>
    if leavesOpen false c.before then
      if containsAsciiCaseInsensitive c.head endMark then
        Blank first ∧
          (∀ line ∈ middle, opensKey line = false ∧ showsKey (r.run (keyLine line)) = false) ∧
          (last = [] ∨ (opensKey (last ++ c.foot) = false ∧
            showsKey (r.run (keyLetters last ++ openLetters c.foot)) = false))
      else
        containsAsciiCaseInsensitive (c.head ++ first) endMark = false ∧
          (∀ line ∈ middle, closesKey line = false) ∧ last = []
    else Blank first ∧ (∀ line ∈ middle, closesKey line = false) ∧ last = []

end KeyContext

/-! ## What is kept and what is hidden -/

section

variable {α : Type} (char : α → Char) (mark : List α) (redactLine : List α → List α)

/-- The loop goes on from the block the first lines leave open. -/
theorem redactLines_append (inside : Bool) (lines rest : List (List α)) :
    redactLines char mark redactLine inside (lines ++ rest) =
      redactLines char mark redactLine inside lines ++
        redactLines char mark redactLine (leavesOpen inside (lines.map (List.map char))) rest := by
  induction lines generalizing inside with
  | nil => rfl
  | cons line lines ih =>
    rw [leavesOpen, map_cons, foldl_cons, cons_append, redactLines, redactLines, ih, ih]
    cases inside <;> cases closesKey (line.map char) <;> cases opensKey (line.map char) <;> rfl

/-- The loop on a text that carries more is the loop on its characters. -/
theorem redactLines_map (f : Text → Text)
    (hf : ∀ line, (redactLine line).map char = f (line.map char))
    (inside : Bool) (lines : List (List α)) :
    (redactLines char mark redactLine inside lines).map (List.map char) =
      redactLines id (mark.map char) f inside (lines.map (List.map char)) := by
  induction lines generalizing inside with
  | nil => rfl
  | cons line lines ih =>
    simp only [redactLines, map_cons, map_id]
    cases inside <;> cases closesKey (line.map char) <;> cases opensKey (line.map char) <;>
      simp [ih, hf]

end

/-- Containing, up to the case of letters. -/
theorem contains_iff {haystack needle : Text} :
    containsAsciiCaseInsensitive haystack needle = true ↔
      needle.map Char.toLower <:+: haystack.map Char.toLower := by
  unfold containsAsciiCaseInsensitive
  rw [infix_iff_prefix_suffix, any_eq_true]
  simp [and_comm]

theorem contains_append (a needle b : Text) :
    containsAsciiCaseInsensitive (a ++ (needle ++ b)) needle = true :=
  contains_iff.mpr (IsInfix.map _ ⟨a, b, append_assoc ..⟩)

@[simp] theorem openLetters_text (t : Text) : (openLetters t).map Letter.char = t := by
  simp [openLetters, Function.comp_def]

@[simp] theorem keyLetters_text (t : Text) : (keyLetters t).map Letter.char = t := by
  simp [keyLetters, Function.comp_def]

@[simp] theorem keyLine_text (t : Text) : (keyLine t).map Letter.char = t := by
  unfold keyLine
  split
  next hreturn => simp [dropLast_append_getLast?, hreturn]
  next => exact keyLetters_text t

@[simp] theorem openLetters_shows (t : Text) : showsKey (openLetters t) = false := by
  simp [showsKey, openLetters]

@[simp] theorem keyLetters_shows (t : Text) : showsKey (keyLetters t) = false ↔ t = [] := by
  cases t <;> simp [showsKey, keyLetters]

@[simp] theorem append_shows (a b : List Letter) :
    showsKey (a ++ b) = (showsKey a || showsKey b) := by
  simp [showsKey]

/-- Only a line break shows nothing of the key. -/
theorem keyLine_shows (t : Text) : showsKey (keyLine t) = false ↔ Blank t := by
  unfold keyLine Blank
  split
  next hreturn =>
    obtain ⟨ys, rfl⟩ := getLast?_eq_some_iff.mp hreturn
    simp
  next hother =>
    constructor
    · exact fun h => .inl ((keyLetters_shows t).mp h)
    · rintro (rfl | rfl)
      · rfl
      · exact absurd rfl hother

/-- A line break is no marker. -/
theorem Blank.not_marker {t : Text} (h : Blank t) : opensKey t = false ∧ closesKey t = false := by
  rcases h with rfl | rfl <;> decide

/-- No END marker ends in a line break. -/
theorem Blank.contains_endMark {t : Text} (h : Blank t) (line : Text) :
    containsAsciiCaseInsensitive (line ++ t) endMark =
      containsAsciiCaseInsensitive line endMark := by
  rcases h with rfl | rfl
  · rw [append_nil]
  · rw [Bool.eq_iff_iff, contains_iff, contains_iff, map_append]
    refine infix_concat_iff.trans (or_iff_right ?_)
    intro hsuffix
    rcases suffix_concat_iff.mp hsuffix with hnil | ⟨rest, hmark, _⟩
    · exact absurd hnil (by decide)
    · have hlast := congrArg getLast? hmark
      rw [getLast?_concat] at hlast
      exact absurd hlast (by decide)

/-- A line redactor makes nothing of the key. -/
theorem LineRedactor.run_open (r : LineRedactor) (t : Text) :
    showsKey (r.run (openLetters t)) = false := by
  rw [Bool.eq_false_iff]
  exact fun h => by simpa using r.shows _ h

section

variable {r : LineRedactor} {inside : Bool}

/-- The first line by what the loop does to it. -/
theorem hidden_cons {line : List Letter} {rest : List (List Letter)} :
    Hidden r inside (line :: rest) ↔
      if inside then
        if closesKey (line.map Letter.char) then showsKey line = false ∧ Hidden r false rest
        else Hidden r true rest
      else if opensKey (line.map Letter.char) then showsKey line = false ∧ Hidden r true rest
      else showsKey (r.run line) = false ∧ Hidden r false rest := by
  simp only [Hidden, redactLines]
  split <;> split <;> simp

/-- The rest depends on the block left open. -/
theorem hidden_append {lines rest : List (List Letter)} :
    Hidden r inside (lines ++ rest) ↔ Hidden r inside lines ∧
      Hidden r (leavesOpen inside (lines.map (List.map Letter.char))) rest := by
  simp only [Hidden, redactLines_append, forall_mem_append]

/-- Lines without anything of the key show nothing of it. -/
theorem hidden_open (inside : Bool) (lines : List Text) :
    Hidden r inside (lines.map openLetters) := by
  induction lines generalizing inside with
  | nil => exact fun _ h => (by cases h)
  | cons line lines ih => simp [hidden_cons, ih, r.run_open]

end

variable {middle : List Text} {last : Text} {r : LineRedactor}

namespace KeyContext

variable {c : KeyContext}

theorem keyMark_head (key : Text) :
    containsAsciiCaseInsensitive (c.head ++ key) keyMark = true := by
  simpa only [head, append_assoc] using contains_append (c.lead ++ (beginMark ++ c.label)) _ key

/-- The BEGIN marker is found, whatever follows. -/
theorem opensKey_head (key : Text) : opensKey (c.head ++ key) = true := by
  rw [opensKey, keyMark_head, Bool.and_true]
  simpa only [head, append_assoc] using contains_append c.lead beginMark _

/-- The END marker is found, whatever precedes. -/
theorem closesKey_foot (key : Text) : closesKey (key ++ c.foot) = true := by
  refine Bool.and_eq_true_iff.mpr ⟨?_, ?_⟩
  · simpa only [foot, append_assoc] using contains_append key endMark _
  · simpa only [foot, append_assoc] using
      contains_append (key ++ (endMark ++ c.label)) keyMark c.trail

/-- Inside a block the BEGIN marker only hides, unless an END marker starts on
its line. -/
theorem closesKey_head (key : Text) :
    closesKey (c.head ++ key) = containsAsciiCaseInsensitive (c.head ++ key) endMark := by
  rw [closesKey, keyMark_head, Bool.and_true]

/-- The lines behind the BEGIN marker, when it is in a block. -/
theorem hidden_inside :
    Hidden r true (middle.map keyLine ++ (keyLetters last ++ openLetters c.foot) ::
        c.after.map openLetters) ↔
      (∀ line ∈ middle, closesKey line = false) ∧ last = [] := by
  induction middle with
  | nil => simp [hidden_cons, closesKey_foot, hidden_open]
  | cons line middle ih =>
    cases hcloses : closesKey line with
    | false => simp [hidden_cons, hcloses, ih]
    | true =>
      -- the line is kept, and it is not blank
      have hblank : ¬ Blank line := by
        intro h
        rw [h.not_marker.2] at hcloses
        cases hcloses
      simp [hidden_cons, hcloses, keyLine_shows, hblank]

/-- The same lines, when the BEGIN marker stands on the line that ends an earlier
block. -/
theorem hidden_outside :
    Hidden r false (middle.map keyLine ++ (keyLetters last ++ openLetters c.foot) ::
        c.after.map openLetters) ↔
      (∀ line ∈ middle, opensKey line = false ∧ showsKey (r.run (keyLine line)) = false) ∧
        (last = [] ∨ (opensKey (last ++ c.foot) = false ∧
          showsKey (r.run (keyLetters last ++ openLetters c.foot)) = false)) := by
  induction middle with
  | nil =>
    cases hopens : opensKey (last ++ c.foot) with
    | true => simp [hidden_cons, hopens, hidden_open]
    | false =>
      have hfoot : last = [] →
        showsKey (r.run (keyLetters last ++ openLetters c.foot)) = false := by
        rintro rfl
        exact r.run_open c.foot
      simpa [hidden_cons, hopens, hidden_open] using hfoot
  | cons line middle ih =>
    cases hopens : opensKey line with
    | false => simp [hidden_cons, hopens, ih, and_assoc]
    | true =>
      have hblank : ¬ Blank line := by
        intro h
        rw [h.not_marker.1] at hopens
        cases hopens
      simp [hidden_cons, hopens, keyLine_shows, hblank]

end KeyContext

/-- A text that is nothing but a private key. -/
def bareKey : KeyContext where
  before := []
  lead := []
  label := []
  trail := []
  after := []

end PromptDock.Desktop
