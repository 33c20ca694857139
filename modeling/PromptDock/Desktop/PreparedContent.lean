import Mathlib.Data.List.DropRight
import PromptDock.Desktop.NotificationContent

/-!
# Prepared content

What `prepare_content` (`notification/safe_content.rs`) makes of a text, whatever
the redaction before it does: nothing of a text without visible characters, and
otherwise a text within the limit, of trimmed lines, with at most three empty
lines in a row.  `normalize_whitespace` changes nothing when it is repeated, and
does not distinguish the three kinds of line ends.
-/

namespace PromptDock.Desktop

open UnicodeText List

/-- Lines of which none ends in white space and at most three in a row are empty,
after `n` empty ones. -/
inductive Kept : Nat → List Text → Prop
  | nil {n} : Kept n []
  | empty {n rest} : n < 3 → Kept (n + 1) rest → Kept n ([] :: rest)
  | line {n line rest} : blank line = false → trimEnd line = line → Kept 0 rest →
    Kept n (line :: rest)

/-- No control character but line feeds. -/
def Plain (t : Text) : Prop := ∀ c ∈ t, c = '\n' ∨ isControl c = false

/-- A limit below the length of the notice leaves only a part of the notice. -/
structure SafeContent (maxChars : Nat) (content : Text) : Prop where
  length_le : content.length ≤ maxChars
  plain : Plain content
  lines : Kept 0 (content.splitOn '\n') ∨ content <+: contentTruncationNotice

/-! ## Lines -/

theorem trimEnd_trimEnd (t : Text) : trimEnd (trimEnd t) = trimEnd t :=
  rdropWhile_idempotent ..

/-- Only blank text is trimmed away. -/
theorem trimEnd_eq_nil {t : Text} : trimEnd t = [] ↔ blank t = true :=
  (rdropWhile_eq_nil_iff ..).trans all_eq_true.symm

theorem blank_trimEnd (t : Text) : blank (trimEnd t) = blank t := by
  rw [Bool.eq_iff_iff, ← trimEnd_eq_nil, ← trimEnd_eq_nil, trimEnd_trimEnd]

/-- Text is trimmed if it does not end in white space. -/
theorem trimEnd_eq_self {t : Text} : trimEnd t = t ↔ ∀ c ∈ t.getLast?, isWhitespace c = false := by
  refine (rdropWhile_eq_self_iff ..).trans ?_
  cases t using List.reverseRecOn <;> simp

variable {m n : Nat} {line : Text} {lines rest : List Text}

/-- Fewer empty lines before leave room. -/
theorem Kept.of_le (h : Kept m lines) (hn : n ≤ m) : Kept n lines := by
  induction h generalizing n with
  | nil => exact .nil
  | empty hm _ ih => exact .empty (by omega) (ih (by omega))
  | line hline htrim hrest _ => exact .line hline htrim hrest

/-- A beginning of kept lines is kept. -/
theorem Kept.of_append (h : Kept n (lines ++ rest)) : Kept n lines := by
  induction lines generalizing n with
  | nil => exact .nil
  | cons line lines ih =>
    cases h with
    | empty hn h => exact .empty hn (ih h)
    | line hline htrim h => exact .line hline htrim (ih h)

/-- Collapsed lines are kept. -/
theorem kept_collapseLines (n : Nat) (lines : List Text) : Kept n (collapseLines n lines) := by
  induction lines generalizing n with
  | nil => exact .nil
  | cons line lines ih =>
    rw [collapseLines]
    split
    · split
      · exact .empty (by omega) (ih (n + 1))
      · exact (ih (n + 1)).of_le (by omega)
    · rename_i hline
      exact .line ((blank_trimEnd line).trans (Bool.eq_false_iff.mpr hline))
        (trimEnd_trimEnd line) (ih 0)

/-- Kept lines are not collapsed further. -/
theorem Kept.collapse (h : Kept n lines) : collapseLines n lines = lines := by
  induction h with
  | nil => rfl
  | empty hn _ ih => rw [collapseLines, if_pos (by rfl), if_pos (by omega), ih]
  | line hline htrim _ ih => rw [collapseLines, if_neg (by simp [hline]), htrim, ih]

/-- Nothing but empty lines is left of blank ones. -/
theorem collapseLines_nil : (∀ line ∈ collapseLines n lines, line = []) ↔
    ∀ line ∈ lines, blank line = true := by
  induction lines generalizing n with
  | nil => simp [collapseLines]
  | cons line lines ih =>
    rw [collapseLines]
    split
    · split <;> simp_all
    · simp_all [trimEnd_eq_nil]

/-- Every line is the beginning of a line. -/
theorem mem_collapseLines (h : line ∈ collapseLines n lines) : ∃ l ∈ lines, line <+: l := by
  induction lines generalizing n with
  | nil => cases h
  | cons l lines ih =>
    rw [collapseLines] at h
    have htrim : trimEnd l <+: l := rdropWhile_prefix ..
    have hnil : ([] : Text) <+: l := nil_prefix
    grind

/-- From a line on that is not empty, only the end is trimmed. -/
theorem trimLines_cons (h : line ≠ []) :
    trimLines (line :: lines) = line :: lines.rdropWhile List.isEmpty := by
  cases hrest : lines.reverse.dropWhile List.isEmpty <;>
    simp [trimLines, List.rdropWhile, dropWhile_append, h]

/-- Trimming twice is trimming once. -/
theorem trimLines_trimLines (lines : List Text) :
    trimLines (trimLines lines) = trimLines lines := by
  induction lines with
  | nil => rfl
  | cons line lines ih =>
    by_cases h : line = []
    · subst h
      exact ih
    · rw [trimLines_cons h, trimLines_cons h, rdropWhile_idempotent]

/-- Only empty lines are trimmed away. -/
theorem trimLines_eq_nil : trimLines lines = [] ↔ ∀ line ∈ lines, line = [] := by
  induction lines with
  | nil => simp [trimLines]
  | cons line lines ih =>
    by_cases h : line = []
    · subst h
      exact ih.trans (by simp)
    · simp [trimLines_cons h, h]

/-- Trimming keeps lines kept. -/
theorem Kept.trimLines (h : Kept n lines) : Kept 0 (trimLines lines) := by
  induction h with
  | nil => exact .nil
  | empty _ _ ih => exact ih
  | @line _ line lines hline htrim hrest _ =>
    rw [trimLines_cons (by rintro rfl; cases hline)]
    obtain ⟨tail, htail⟩ := rdropWhile_prefix List.isEmpty lines
    exact .line hline htrim (Kept.of_append (htail.symm ▸ hrest))

/-! ## Characters -/

variable {t : Text}

/-- Normalized text is plain. -/
theorem normalizeScalars_plain (t : Text) : Plain (normalizeScalars t) := by
  have hspace : isControl ' ' = false := by decide
  fun_induction normalizeScalars t <;> simp_all [Plain]
  grind

/-- Plain text is normalized. -/
theorem Plain.normalizeScalars (h : Plain t) : normalizeScalars t = t := by
  induction t with
  | nil => rfl
  | cons c t ih =>
    obtain ⟨hc, ht⟩ := forall_mem_cons.mp h
    have hreturn : c ≠ '\r' := by rintro rfl; revert hc; decide
    have htab : c ≠ '\t' := by rintro rfl; revert hc; decide
    rw [Desktop.normalizeScalars, ih ht]
    · rcases hc with rfl | hc
      · rfl
      · by_cases hline : c = '\n' <;> simp [hreturn, htab, hline, hc]
    · exact fun _ h => absurd h hreturn

/-- Lines of plain text hold no control character. -/
theorem Plain.splitOn (h : Plain t) : ∀ line ∈ t.splitOn '\n', ∀ c ∈ line, isControl c = false := by
  induction t with
  | nil => simp
  | cons c t ih =>
    obtain ⟨hc, ht⟩ := forall_mem_cons.mp h
    have ih := ih ht
    rw [splitOn_cons_eq_if_modifyHead]
    cases hlines : t.splitOn '\n' with
    | nil => exact absurd hlines (splitOn_ne_nil _ _)
    | cons line lines => grind [modifyHead_cons]

/-- Joined lines are blank if each of them is. -/
theorem blank_intercalate :
    blank (['\n'].intercalate lines) = true ↔ ∀ line ∈ lines, blank line = true := by
  have hend : isWhitespace '\n' = true := by decide
  induction lines with
  | nil => simp [blank]
  | cons line lines ih => cases lines <;> simp_all [blank]

/-- White space and control characters leave blank text. -/
theorem blank_normalizeScalars (t : Text) : blank (normalizeScalars t) = true ↔
    ∀ c ∈ t, isWhitespace c = true ∨ isControl c = true := by
  have hspaces : isWhitespace ' ' = true ∧ isWhitespace '\n' = true ∧ isWhitespace '\r' = true ∧
    isWhitespace '\t' = true := by decide
  fun_induction normalizeScalars t <;> simp_all [blank]
  grind

/-- The text with other line ends. -/
def withLineEnds (lineEnd t : Text) : Text :=
  t.flatMap fun c => if c = '\n' then lineEnd else [c]

/-- The kind of line end does not matter. -/
theorem normalizeScalars_withLineEnds {lineEnd : Text}
    (hend : lineEnd = ['\r', '\n'] ∨ lineEnd = ['\r']) (ht : '\r' ∉ t) :
    normalizeScalars (withLineEnds lineEnd t) = normalizeScalars t := by
  induction t with
  | nil => rfl
  | cons c t ih =>
    obtain ⟨hc, ht⟩ := not_or.mp (mt mem_cons.mpr ht)
    have ih := ih ht
    rw [withLineEnds, flatMap_cons, ← withLineEnds]
    by_cases hline : c = '\n'
    · subst hline
      rcases hend with rfl | rfl
      · exact congrArg ('\n' :: ·) ih
      -- no line feed is left that could follow the carriage return
      have hnext : ∀ rest, withLineEnds ['\r'] t ≠ '\n' :: rest := by
        cases t <;> grind [withLineEnds]
      rw [if_pos rfl, singleton_append, normalizeScalars, ih]
      · rfl
      · exact fun rest _ => hnext rest
    · rw [if_neg hline, singleton_append, normalizeScalars, normalizeScalars, ih]
      all_goals exact fun _ h => absurd h.symm hc

/-! ## Normalized text -/

def normalizedLines (t : Text) : List Text :=
  trimLines (collapseLines 0 ((normalizeScalars t).splitOn '\n'))

/-- Normalized lines hold no control character. -/
theorem normalizedLines_plain (t : Text) :
    ∀ line ∈ normalizedLines t, ∀ c ∈ line, isControl c = false := by
  intro line hline c hc
  let lines := collapseLines 0 ((normalizeScalars t).splitOn '\n')
  have htrim := rdropWhile_prefix List.isEmpty (lines.dropWhile List.isEmpty)
  obtain ⟨l, hl, hpre⟩ := mem_collapseLines
    ((dropWhile_sublist _).subset (htrim.subset hline))
  exact (normalizeScalars_plain t).splitOn l hl c (hpre.subset hc)

/-- The joined lines are plain. -/
theorem normalizeWhitespace_plain (t : Text) : Plain (normalizeWhitespace t) := by
  suffices h : ∀ lines : List Text, (∀ line ∈ lines, ∀ c ∈ line, isControl c = false) →
      Plain (['\n'].intercalate lines) from h _ (normalizedLines_plain t)
  intro lines h
  induction lines with
  | nil => simp [Plain]
  | cons line lines ih =>
    cases lines <;> simp_all [Plain]
    grind

/-- Nothing is left exactly when no line is. -/
theorem normalizeWhitespace_nil_iff : normalizeWhitespace t = [] ↔ normalizedLines t = [] := by
  change ['\n'].intercalate (normalizedLines t) = [] ↔ _
  have htrim : trimLines (normalizedLines t) = normalizedLines t := trimLines_trimLines _
  match hlines : normalizedLines t with
  | [] => simp
  | [[]] => rw [hlines] at htrim; cases htrim
  | [_ :: _] | _ :: _ :: _ => simp

/-- The lines can be read back. -/
theorem splitOn_normalizeWhitespace (h : normalizeWhitespace t ≠ []) :
    (normalizeWhitespace t).splitOn '\n' = normalizedLines t := by
  refine splitOn_intercalate '\n' (fun line hline hc => ?_) (mt normalizeWhitespace_nil_iff.mpr h)
  exact absurd (normalizedLines_plain t line hline _ hc) (by decide)

/-- **Normalizing twice is normalizing once**. -/
theorem normalizeWhitespace_idempotent (t : Text) :
    normalizeWhitespace (normalizeWhitespace t) = normalizeWhitespace t := by
  by_cases h : normalizeWhitespace t = []
  · rw [h]
    rfl
  · rw [normalizeWhitespace, (normalizeWhitespace_plain t).normalizeScalars,
      splitOn_normalizeWhitespace h, normalizedLines, (kept_collapseLines 0 _).trimLines.collapse,
      trimLines_trimLines, normalizeWhitespace]

/-! ## Cutting -/

/-- A trimmed beginning of a text of kept lines, and further lines. -/
theorem Kept.cut {q r : Text} (hends : ∀ l ∈ line :: lines, '\n' ∉ l)
    (hq : q = ['\n'].intercalate (line :: lines)) (h : Kept n ((q ++ r).splitOn '\n'))
    (hne : q ≠ []) (htrim : trimEnd q = q) (hrest : Kept 0 rest) :
    Kept n (line :: lines ++ rest) := by
  induction lines generalizing n line q with
  | nil =>
    rw [intercalate_singleton] at hq
    subst hq
    refine .line (Bool.eq_false_iff.mpr fun hblank => hne ?_) htrim hrest
    rw [← htrim, trimEnd_eq_nil.mpr hblank]
  | cons next lines ih =>
    obtain ⟨hline, hothers⟩ := forall_mem_cons.mp hends
    rw [intercalate_cons_cons, append_assoc, singleton_append] at hq
    rw [hq, append_assoc, cons_append, splitOn_append_cons_self_of_not_mem hline] at h
    rw [hq, trimEnd_eq_self, List.getLast?_append, List.getLast?_cons] at htrim
    generalize hq' : ['\n'].intercalate (next :: lines) = q' at *
    have hne' : q' ≠ [] := by
      rintro rfl
      cases htrim '\n' rfl
    have htrim' : trimEnd q' = q' := by
      rw [trimEnd_eq_self]
      intro c hc
      exact htrim c (by rw [Option.mem_def.mp hc]; rfl)
    cases h with
    | empty hn h => exact .empty hn (ih hothers hq'.symm h hne' htrim')
    | line hblank htrim h => exact .line hblank htrim (ih hothers hq'.symm h hne' htrim')

/-- Cutting a text at its limit leaves it safe. -/
theorem truncated_safe (hplain : Plain t) (hkept : Kept 0 (t.splitOn '\n')) (maxChars : Nat) :
    SafeContent maxChars (truncateCharsWithNotice t maxChars) := by
  have hnotice : Plain (text "\n\n" ++ contentTruncationNotice) := fun c hc => by
    have hall : (text "\n\n" ++ contentTruncationNotice).all (fun c => c == '\n' || !isControl c) =
      true := by decide
    simpa using all_eq_true.mp hall c hc
  simp only [truncateCharsWithNotice]
  split
  · exact ⟨‹_›, hplain, .inl hkept⟩
  split
  · have hfront := take_prefix maxChars contentTruncationNotice
    exact ⟨length_take_le .., fun c hc => hnotice c (mem_append_right _ (mem_of_mem_take hc)),
      .inr hfront⟩
  generalize hkeep : maxChars - _ = keep
  have hpre : trimEnd (t.take keep) <+: t.take keep := rdropWhile_prefix ..
  have hlength := hpre.length_le.trans (length_take_le ..)
  have htake := take_prefix keep t
  obtain ⟨r, hr⟩ := hpre.trans htake
  have htrim := trimEnd_trimEnd (t.take keep)
  generalize trimEnd (t.take keep) = q at *
  have hbody : Plain q := fun c hc => hplain c (hr ▸ mem_append_left r hc)
  rw [append_assoc]
  refine ⟨?_, fun c hc => (mem_append.mp hc).elim (hbody c) (hnotice c), .inl ?_⟩
  · simp only [length_append]
    omega
  have hlast : ∀ n < 3, Kept n [[], contentTruncationNotice] :=
    fun n hn => .empty hn (.line (by decide) (by decide) .nil)
  have hsplit : (q ++ (text "\n\n" ++ contentTruncationNotice)).splitOn '\n' =
      q.splitOn '\n' ++ [[], contentTruncationNotice] := splitOn_append_cons_self q _
  rw [hsplit]
  by_cases hne : q = []
  · subst hne
    exact .empty (by decide) (hlast 1 (by decide))
  obtain ⟨line, lines, hlines⟩ := exists_cons_of_ne_nil (splitOn_ne_nil '\n' q)
  rw [hlines]
  refine Kept.cut (fun l hl hc => ?_) ?_ (hr ▸ hkept) hne htrim (hlast 0 (by decide))
  · exact absurd (hbody.splitOn l (hlines ▸ hl) _ hc) (by decide)
  · rw [← hlines, intercalate_splitOn]

/-- **Prepared content is safe.**  The last two parts are about
`normalize_whitespace` alone. -/
theorem prepared_content_is_safe (platform : Platform) (t : Text) (maxChars : Nat)
    (shouldRedact : Bool) : (prepareContent platform t maxChars shouldRedact = none ↔
      ∀ c ∈ if shouldRedact then platform.redactSecrets t else t,
        isWhitespace c = true ∨ isControl c = true) ∧
    (∀ content ∈ prepareContent platform t maxChars shouldRedact, SafeContent maxChars content) ∧
    normalizeWhitespace (normalizeWhitespace t) = normalizeWhitespace t ∧
    ('\r' ∉ t → normalizeWhitespace (withLineEnds ['\r', '\n'] t) = normalizeWhitespace t ∧
      normalizeWhitespace (withLineEnds ['\r'] t) = normalizeWhitespace t) := by
  simp only [prepareContent]
  generalize (if shouldRedact then platform.redactSecrets t else t) = redacted
  refine ⟨?_, fun content hcontent => ?_, normalizeWhitespace_idempotent t, fun h => ⟨?_, ?_⟩⟩
  · have hlines : ['\n'].intercalate ((normalizeScalars redacted).splitOn '\n') = _ :=
      intercalate_splitOn _
    rw [← blank_normalizeScalars, ← hlines, blank_intercalate, ← collapseLines_nil,
      ← trimLines_eq_nil, ← normalizedLines, ← normalizeWhitespace_nil_iff]
    simp
  · split at hcontent <;> cases hcontent
    rename_i hne
    refine truncated_safe (normalizeWhitespace_plain _) ?_ maxChars
    rw [splitOn_normalizeWhitespace (by simpa using hne)]
    exact (kept_collapseLines 0 _).trimLines
  all_goals
    rw [normalizeWhitespace, normalizeScalars_withLineEnds (by simp) h, normalizeWhitespace]

end PromptDock.Desktop
