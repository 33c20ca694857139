import PromptDock.UnicodeText
import PromptDock.Desktop.SecretRedaction

/-!
# Excerpts of results

`excerpt` (`desktop_capture.rs`) leaves out blocks of code and hides words that
look like an address or a path.  What stands inside a block has no influence on
the excerpt.
-/

namespace PromptDock.Desktop

open List UnicodeText

/-- A line that opens or closes a block of code. -/
def isFence (line : Text) : Bool :=
  (text "```").isPrefixOf (line.dropWhile isWhitespace)

/-- A word that looks like a mail address, a path or a file address. -/
def Sensitive (word : Text) : Prop :=
  '@' ∈ word ∨ text ":\\" <:+: word ∨ text "/" <+: word ∨ text "\\\\" <+: word ∨
    text "file://" <:+: word

instance (word : Text) : Decidable (Sensitive word) :=
  inferInstanceAs (Decidable (_ ∨ _))

/-- What the excerpt shows for a word. -/
def hideWord (word : Text) : Text :=
  if Sensitive word then text "[已脱敏]" else word

/-- The lines without an empty last one. -/
def finalLines (lines : List Text) : List Text :=
  if lines.getLast? = some [] then lines.dropLast else lines

/-- `str::lines`.  A carriage return before a line feed is left: it is white space
at the end of its line. -/
def strLines (t : Text) : List Text := finalLines (t.splitOn '\n')

/-- The loop of `excerpt`. -/
def excerptLines (fenced : Bool) : List Text → List Text
  | [] => []
  | line :: rest =>
    if isFence line then
      if fenced then excerptLines false rest
      else text "[代码片段已省略]" :: excerptLines true rest
    else if fenced then excerptLines true rest
    else [' '].intercalate ((splitWhitespace line).map hideWord) :: excerptLines false rest

/-- `excerpt`. -/
def excerpt (redactLine : Text → Text) (t : Text) : Text :=
  let content := ['\n'].intercalate (excerptLines false (strLines (redactSecrets redactLine t)))
  if 1200 < content.length then content.take 1180 ++ text "\n（结果摘录已截断）" else content

/-! ## Words -/

/-- What white space separates, empty words included. -/
def words (t : Text) : List Text := t.splitOnP isWhitespace

variable {t word word' : Text} {c : Char} {lines rest : List Text}

/-- A word that begins with a sensitive one is sensitive. -/
theorem Sensitive.of_prefix (h : Sensitive word) (hword : word <+: word') : Sensitive word' := by
  rcases h with h | h | h | h | h
  · exact .inl (hword.subset h)
  · exact .inr (.inl (h.trans hword.isInfix))
  · exact .inr (.inr (.inl (h.trans hword)))
  · exact .inr (.inr (.inr (.inl (h.trans hword))))
  · exact .inr (.inr (.inr (.inr (h.trans hword.isInfix))))

/-- The words of a beginning are beginnings of words. -/
theorem words_prefix (t rest : Text) : ∃ u us v vs, words t = u :: us ∧
    words (t ++ rest) = v :: vs ∧ u <+: v ∧ ∀ x ∈ us, ∃ y ∈ vs, x <+: y := by
  unfold words
  induction t with
  | nil =>
    obtain ⟨v, vs, h⟩ := exists_cons_of_ne_nil (splitOnP_ne_nil isWhitespace rest)
    exact ⟨[], [], v, vs, rfl, h, nil_prefix, nofun⟩
  | cons c t ih =>
    obtain ⟨u, us, v, vs, hu, hv, huv, hus⟩ := ih
    rw [cons_append, splitOnP_cons_eq_if_modifyHead, splitOnP_cons_eq_if_modifyHead, hu, hv]
    split
    · exact ⟨[], _, [], _, rfl, rfl, prefix_rfl, by grind⟩
    · exact ⟨_, us, _, vs, rfl, rfl, (prefix_cons_inj c).mpr huv, hus⟩

/-- No word is sensitive. -/
def Harmless (t : Text) : Prop := ∀ word ∈ words t, ¬ Sensitive word

/-- Cutting a text does not make a word sensitive. -/
theorem Harmless.of_append {rest : Text} (h : Harmless (t ++ rest)) : Harmless t := by
  intro word hword hsensitive
  obtain ⟨u, us, v, vs, hu, hv, huv, hus⟩ := words_prefix t rest
  obtain ⟨y, hy, hprefix⟩ : ∃ y ∈ words (t ++ rest), word <+: y := by grind
  exact h y hy (hsensitive.of_prefix hprefix)

/-- White space keeps harmless texts apart. -/
theorem Harmless.append_cons {rest : Text} (hc : isWhitespace c = true) (ht : Harmless t)
    (hrest : Harmless rest) : Harmless (t ++ c :: rest) := by
  intro word hword
  rw [words, splitOnP_append_cons _ _ hc] at hword
  exact (mem_append.mp hword).elim (ht word) (hrest word)

/-- Harmless texts joined by white space are harmless. -/
theorem Harmless.intercalate (hc : isWhitespace c = true) (h : ∀ line ∈ lines, Harmless line) :
    Harmless ([c].intercalate lines) := by
  induction lines with
  | nil => simp [Harmless, words, Sensitive, text]
  | cons line lines ih =>
    obtain ⟨hline, hlines⟩ := forall_mem_cons.mp h
    cases lines with
    | nil => simpa using hline
    | cons next lines =>
      rw [intercalate_cons_cons, append_assoc]
      exact hline.append_cons hc (ih hlines)

/-- There is no white space in a word. -/
theorem not_mem_splitWhitespace :
    ∀ word ∈ splitWhitespace t, ∀ c ∈ word, isWhitespace c = false := by
  fun_induction splitWhitespace t <;> grind

/-- What is shown for a word is harmless. -/
theorem harmless_hideWord (hword : ∀ c ∈ word, isWhitespace c = false) :
    Harmless (hideWord word) := by
  unfold hideWord Harmless
  split
  · decide
  · rw [words, splitOnP_eq_singleton hword]
    simpa

/-! ## Lines -/

/-- Every line of an excerpt is harmless. -/
theorem harmless_excerptLines (fenced : Bool) (lines : List Text) :
    ∀ line ∈ excerptLines fenced lines, Harmless line := by
  fun_induction excerptLines fenced lines with
  | case1 => nofun
  | case2 _ _ _ ih | case4 _ _ _ ih => exact ih
  | case3 _ _ _ _ _ ih =>
    refine forall_mem_cons.mpr ⟨?_, ih⟩
    unfold Harmless
    decide
  | case5 fenced line _ _ _ ih =>
    refine forall_mem_cons.mpr ⟨.intercalate (by decide) fun part hpart => ?_, ih⟩
    obtain ⟨word, hword, rfl⟩ := mem_map.mp hpart
    exact harmless_hideWord (not_mem_splitWhitespace word hword)

/-- Whether a block of code is open after the lines. -/
def fencedAfter (fenced : Bool) (lines : List Text) : Bool :=
  lines.foldl (fun fenced line => fenced != isFence line) fenced

/-- Only the last line can be left out. -/
theorem finalLines_cons (line : Text) (h : lines ≠ []) :
    finalLines (line :: lines) = line :: finalLines lines := by
  unfold finalLines
  rw [getLast?_cons_of_ne_nil h, dropLast_cons_of_ne_nil h]
  split <;> rfl

/-- Lines inside a block that are no fences are left out. -/
theorem excerptLines_inside (hlines : ∀ line ∈ lines, isFence line = false) :
    excerptLines true (finalLines (lines ++ rest)) = excerptLines true (finalLines rest) := by
  induction lines with
  | nil => rfl
  | cons line lines ih =>
    obtain ⟨hline, hlines⟩ := forall_mem_cons.mp hlines
    by_cases h : lines ++ rest = []
    · obtain ⟨rfl, rfl⟩ := append_eq_nil_iff.mp h
      cases line <;> simp [finalLines, excerptLines, hline]
    · rw [cons_append, finalLines_cons line h, excerptLines, if_neg (by simp [hline]), if_pos rfl,
        ih hlines]

/-- The loop goes on from the block the first lines leave open. -/
theorem excerptLines_append (fenced : Bool) (h : rest ≠ []) :
    excerptLines fenced (finalLines (lines ++ rest)) =
      excerptLines fenced lines ++ excerptLines (fencedAfter fenced lines) (finalLines rest) := by
  induction lines generalizing fenced with
  | nil => rfl
  | cons line lines ih =>
    have hafter : fencedAfter fenced (line :: lines) =
      fencedAfter (fenced != isFence line) lines := rfl
    rw [cons_append, finalLines_cons line (by simp [h]), excerptLines, excerptLines, ih, ih, hafter]
    cases fenced <;> cases isFence line <;> rfl

/-! ## Messages -/

variable (redactLine : Text → Text)

/-- The lines of the redacted message. -/
def redactedLines (lines : List Text) : List Text :=
  (redactLines id redacted redactLine false lines).flatMap (·.splitOn '\n')

/-- Neither a marker of a private key nor, when it is redacted, a fence. -/
structure Inner (line : Text) : Prop where
  opens : opensKey line = false
  closes : closesKey line = false
  fence : ∀ part ∈ (redactLine line).splitOn '\n', isFence part = false

/-- Joined lines are split again, each at its own line feeds. -/
theorem splitOn_join (h : lines ≠ []) :
    (['\n'].intercalate lines).splitOn '\n' = lines.flatMap (·.splitOn '\n') := by
  induction lines with
  | nil => exact absurd rfl h
  | cons line lines ih =>
    cases lines with
    | nil => simp
    | cons next lines =>
      rw [intercalate_cons_cons, append_assoc, singleton_append, splitOn_append_cons_self,
        ih (cons_ne_nil _ _)]
      rfl

variable {redactLine}

/-- The lines that `excerpt` reads for a message given by its lines. -/
theorem strLines_redactSecrets (h : lines ≠ []) (hlines : ∀ line ∈ lines, '\n' ∉ line) :
    strLines (redactSecrets redactLine (['\n'].intercalate lines)) =
      finalLines (redactedLines redactLine lines) := by
  have hne : redactLines id redacted redactLine false lines ≠ [] := by
    cases lines <;> grind [redactLines]
  rw [strLines, redactSecrets, splitOn_intercalate '\n' hlines h, splitOn_join hne, redactedLines]

/-- What a line inside a block of code contributes. -/
theorem excerptLines_inner {before after : List Text} {line : Text}
    (hline : Inner redactLine line)
    (h : fencedAfter false (redactedLines redactLine before) = true) :
    excerptLines false (finalLines (redactedLines redactLine (before ++ line :: after))) =
      excerptLines false (redactedLines redactLine before) ++ excerptLines true (finalLines
        ((redactLines id redacted redactLine (leavesOpen false before) after).flatMap
          (·.splitOn '\n'))) := by
  obtain ⟨shown, hshown, hline⟩ : ∃ shown, (∀ part ∈ shown.splitOn '\n', isFence part = false) ∧
      redactLines id redacted redactLine (leavesOpen false before) (line :: after) =
        shown :: redactLines id redacted redactLine (leavesOpen false before) after := by
    cases leavesOpen false before with
    | false => exact ⟨_, hline.fence, by simp [redactLines, hline.opens]⟩
    | true => exact ⟨redacted, by decide, by simp [redactLines, hline.closes]⟩
  rw [redactedLines, redactLines_append, map_id_fun, map_id, hline,
    flatMap_append, ← redactedLines, flatMap_cons,
    excerptLines_append false (by simp [splitOn_ne_nil]), h, excerptLines_inside hshown]

/-- **Excerpts are harmless**, and say nothing of the code in the message. -/
theorem excerpts_are_harmless (redactLine : Text → Text) :
    (∀ t, (excerpt redactLine t).length ≤ 1200 ∧ Harmless (excerpt redactLine t)) ∧
    ∀ before line line' after, (∀ l ∈ line :: line' :: (before ++ after), '\n' ∉ l) →
      fencedAfter false (redactedLines redactLine before) = true →
      Inner redactLine line → Inner redactLine line' →
      excerpt redactLine (['\n'].intercalate (before ++ line :: after)) =
        excerpt redactLine (['\n'].intercalate (before ++ line' :: after)) := by
  refine ⟨fun t => ?_, fun before line line' after hends hfenced hline hline' => ?_⟩
  · have hcontent := Harmless.intercalate (c := '\n') (by decide)
      (harmless_excerptLines false (strLines (redactSecrets redactLine t)))
    simp only [excerpt]
    generalize ['\n'].intercalate _ = content at *
    split
    · rw [← take_append_drop 1180 content] at hcontent
      refine ⟨?_, hcontent.of_append.append_cons (by decide) (by unfold Harmless; decide)⟩
      rw [length_append, length_take]
      exact Nat.add_le_add (Nat.min_le_left ..) (by decide : _ ≤ 20)
    · exact ⟨by omega, hcontent⟩
  · unfold excerpt
    rw [strLines_redactSecrets (by simp) (by grind), excerptLines_inner hline hfenced,
      strLines_redactSecrets (by simp) (by grind), excerptLines_inner hline' hfenced]

/-- A path is hidden, and the code does not matter. -/
theorem excerpts_are_harmless_sample :
    excerpt id (text "in /etc\n```\nx = 1\n```\ndone") =
        text "in [已脱敏]\n[代码片段已省略]\ndone" ∧
      excerpt id (text "in /etc\n```\nx = 1\n```\ndone") =
        excerpt id (text "in /etc\n```\ny: @\n```\ndone") :=
  ⟨by decide, (excerpts_are_harmless id).2 [text "in /etc", text "```"] (text "x = 1")
    (text "y: @") [text "```", text "done"] (by decide) (by decide)
    ⟨by decide, by decide, by decide⟩ ⟨by decide, by decide, by decide⟩⟩

end PromptDock.Desktop
