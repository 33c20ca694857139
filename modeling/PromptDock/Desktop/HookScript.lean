import PromptDock.Desktop.HooksDocument

/-!
# The script of a hook

On Windows the host runs a hook by a PowerShell script that `spec`
(`hook_installer.rs`) writes.  The executable and the inbox stand in it as
single-quoted literals, and `ps_quote` doubles the apostrophes of a path.
PowerShell ends such a literal at any of five marks that is not doubled, so a
path with one of the other four is not read back (`script_read_back_iff`).
-/

namespace PromptDock.Desktop.Hooks

open List

def apostrophe : Char := '\x27'

/-- U+2018 to U+201B. -/
def isCurlyQuote (c : Char) : Bool :=
  0x2018 ≤ c.toNat && c.toNat ≤ 0x201b

/-- The marks that open and end a single-quoted literal of PowerShell. -/
def isSingleQuote (c : Char) : Bool :=
  c == apostrophe || isCurlyQuote c

inductive ScriptToken where
  | quote
  | quoted (c : Char)
  | code (c : Char)
deriving DecidableEq

/-- How PowerShell reads a script, from inside or outside a literal.  Of a doubled
mark the second is in the literal; a literal that never ends has no second `quote`. -/
def tokens : Bool → Text → List ScriptToken
  | _, [] => []
  | false, c :: rest =>
    if isSingleQuote c then .quote :: tokens true rest else .code c :: tokens false rest
  | true, [c] => if isSingleQuote c then [.quote] else [.quoted c]
  | true, c :: d :: rest =>
    if isSingleQuote c then
      if isSingleQuote d then .quoted d :: tokens true rest else .quote :: tokens false (d :: rest)
    else .quoted c :: tokens true (d :: rest)

/-- `replace('\'', "''")`. -/
def doubled (path : Text) : Text :=
  path.flatMap fun c => if c = apostrophe then [c, c] else [c]

def psQuote (path : Text) : Text :=
  apostrophe :: doubled path ++ [apostrophe]

def ManagedHookKind.captureEvent : ManagedHookKind → Text
  | userPrompt => text "codex-user-prompt"
  | stop => text "codex-stop"
  | permissionRequest => text "codex-permission-request"

variable (kind : ManagedHookKind) (captureAgentOutput : Bool) (registrationId : Option Uuid)

def scriptHead : Text := text "$ErrorActionPreference='Stop';try\x7b& "

def scriptStart : Text := text " --capture-agent-event " ++ kind.captureEvent ++ text " --inbox "

def scriptEnd : Text :=
  (if captureAgentOutput then text " --capture-agent-output" else []) ++
    (registrationId.elim [] fun id => text " --hook-registration-id " ++ text id.hyphenated) ++
    ' ' :: kind.marker ++ text " 2>$null;exit 0\x7dcatch\x7bexit 0\x7d"

/-- The script of `spec`. -/
def script (executable inbox : Text) : Text :=
  scriptHead ++ psQuote executable ++ scriptStart kind ++ psQuote inbox ++
    scriptEnd kind captureAgentOutput registrationId

def literal (content : Text) : List ScriptToken :=
  .quote :: content.map .quoted ++ [.quote]

def headTokens : List ScriptToken :=
  (text "$ErrorActionPreference=").map .code ++ literal (text "Stop") ++
    (text ";try\x7b& ").map .code

/-- One call of the executable, with the inbox as an argument of it. -/
def intendedTokens (executable inbox : Text) : List ScriptToken :=
  headTokens ++ literal executable ++ (scriptStart kind).map .code ++ literal inbox ++
    (scriptEnd kind captureAgentOutput registrationId).map .code

/-! ## Marks -/

def ScriptToken.marks : ScriptToken → Nat
  | quote => 1
  | quoted c => if isSingleQuote c then 2 else 0
  | code _ => 0

/-- Every mark of a script is read as the end of a literal or as half of a doubled
mark. -/
theorem tokens_marks (inside : Bool) (script : Text) :
    ((tokens inside script).map ScriptToken.marks).sum = script.countP isSingleQuote := by
  fun_induction tokens inside script <;> simp_all [ScriptToken.marks] <;> omega

/-- A literal has two quotes and two for each quote inside. -/
theorem literal_marks (content : Text) :
    ((literal content).map ScriptToken.marks).sum = 2 + 2 * content.countP isSingleQuote := by
  induction content with
  | nil => rfl
  | cons c content ih =>
    simp only [literal, map_cons, sum_cons, cons_append, ScriptToken.marks, countP_cons] at ih ⊢
    split <;> omega

/-- Curly quotes are not doubled. -/
theorem psQuote_marks (path : Text) : (psQuote path).countP isSingleQuote + path.countP isCurlyQuote
    = 2 + 2 * path.countP isSingleQuote := by
  have happ : isSingleQuote apostrophe = true := by decide
  induction path with
  | nil => rfl
  | cons c path ih =>
    simp only [psQuote, doubled, flatMap_cons, countP_cons, countP_append] at ih ⊢
    by_cases hc : c = apostrophe
    · subst hc
      simp only [if_true, countP_cons, (by decide : isCurlyQuote apostrophe = false)]
      simp at ih ⊢
      omega
    · have hsame : isSingleQuote c = isCurlyQuote c := by simp [isSingleQuote, hc]
      simp only [if_neg hc, countP_cons, hsame]
      simp at ih ⊢
      omega

/-- A registration id holds no quote. -/
theorem hyphenated_unquoted (id : Uuid) : ∀ c ∈ text id.hyphenated, isSingleQuote c = false := by
  have hdigits : ∀ c ∈ HexText.hexDigits 32 id.toNat, isSingleQuote c = false :=
    HexText.forall_mem_hexDigits (by decide) 32 id.toNat
  have hhyphen : isSingleQuote '-' = false := by decide
  simp only [Uuid.hyphenated, String.toList_ofList, mem_append]
  grind [mem_of_mem_take, mem_of_mem_drop]

theorem unquoted_of_all {t : Text} (h : t.all (!isSingleQuote ·) = true) :
    ∀ c ∈ t, isSingleQuote c = false := by
  simpa using h

/-- Between the two paths there is no quote. -/
theorem scriptStart_unquoted : ∀ c ∈ scriptStart kind, isSingleQuote c = false :=
  unquoted_of_all (by cases kind <;> decide)

/-- Nor is there one after them. -/
theorem scriptEnd_unquoted :
    ∀ c ∈ scriptEnd kind captureAgentOutput registrationId, isSingleQuote c = false := by
  have hmarker : ∀ c ∈ ' ' :: kind.marker ++ text " 2>$null;exit 0\x7dcatch\x7bexit 0\x7d",
      isSingleQuote c = false := unquoted_of_all (by cases kind <;> decide)
  have hflag : ∀ c ∈ text " --capture-agent-output", isSingleQuote c = false :=
    unquoted_of_all (by decide)
  have hname : ∀ c ∈ text " --hook-registration-id ", isSingleQuote c = false :=
    unquoted_of_all (by decide)
  intro c hc
  rw [scriptEnd, append_assoc, mem_append, mem_append] at hc
  rcases hc with (hc | hc) | hc
  · cases captureAgentOutput with
    | false => cases hc
    | true => exact hflag c hc
  · cases registrationId with
    | none => cases hc
    | some id =>
      rcases mem_append.mp hc with hc | hc
      · exact hname c hc
      · exact hyphenated_unquoted id c hc
  · exact hmarker c hc

theorem scriptEnd_cons :
    ∃ c rest, scriptEnd kind captureAgentOutput registrationId = c :: rest := by
  cases captureAgentOutput <;> cases registrationId <;> exact ⟨_, _, rfl⟩

/-! ## Reading back -/

/-- Text without quotes is code. -/
theorem tokens_code {t : Text} (ht : ∀ c ∈ t, isSingleQuote c = false) (rest : Text) :
    tokens false (t ++ rest) = t.map .code ++ tokens false rest := by
  induction t with
  | nil => rfl
  | cons c t ih => simp_all [tokens]

/-- Inside a literal it is text. -/
theorem tokens_quoted {c : Char} (hc : isSingleQuote c = false) (rest : Text) :
    tokens true (c :: rest) = .quoted c :: tokens true rest := by
  cases rest <;> simp [tokens, hc]

/-- Without curly quotes a quoted path is one literal. -/
theorem tokens_psQuote {path : Text} (hpath : ∀ c ∈ path, isCurlyQuote c = false) {d : Char}
    (hd : isSingleQuote d = false) (rest : Text) :
    tokens false (psQuote path ++ d :: rest) = literal path ++ tokens false (d :: rest) := by
  have happ : isSingleQuote apostrophe = true := by decide
  suffices h : tokens true (doubled path ++ apostrophe :: d :: rest) =
      path.map .quoted ++ .quote :: tokens false (d :: rest) by
    simp [psQuote, tokens, happ, h, literal]
  induction path with
  | nil => simp [doubled, tokens, happ, hd]
  | cons c path ih =>
    have ih := ih fun c hc => hpath c (mem_cons_of_mem _ hc)
    rw [doubled, flatMap_cons, ← doubled]
    by_cases hc : c = apostrophe
    · subst hc
      simp [tokens, happ, ih]
    · have hplain : isSingleQuote c = false := by simp [isSingleQuote, hc, hpath c mem_cons_self]
      simp [hc, tokens_quoted hplain, ih]

/-- How the head of the script is read. -/
theorem tokens_head (rest : Text) :
    tokens false (scriptHead ++ rest) = headTokens ++ tokens false rest :=
  rfl

/-- **Quoting of the paths.**  PowerShell reads the script as one call of the
executable, with the inbox as its argument, exactly if neither path has one of the
marks U+2018 to U+201B. -/
theorem script_read_back_iff (executable inbox : Text) :
    tokens false (script kind captureAgentOutput registrationId executable inbox) =
        intendedTokens kind captureAgentOutput registrationId executable inbox ↔
      ∀ c ∈ executable ++ inbox, isCurlyQuote c = false := by
  have hstart := scriptStart_unquoted kind
  have hend := scriptEnd_unquoted kind captureAgentOutput registrationId
  constructor
  · intro h
    have hmarks := congrArg (fun ts => (ts.map ScriptToken.marks).sum) h
    simp only [tokens_marks, script, intendedTokens, map_append, sum_append, countP_append,
      literal_marks] at hmarks
    have hhead : scriptHead.countP isSingleQuote = 2 ∧
      (headTokens.map ScriptToken.marks).sum = 2 := by decide
    have hstart0 := countP_eq_zero.mpr fun c hc => ne_true_of_eq_false (hstart c hc)
    have hend0 := countP_eq_zero.mpr fun c hc => ne_true_of_eq_false (hend c hc)
    have hexe := psQuote_marks executable
    have hinbox := psQuote_marks inbox
    have hnone : (executable ++ inbox).countP isCurlyQuote = 0 := by
      rw [countP_append]
      omega
    simpa using countP_eq_zero.mp hnone
  · intro h
    have hpaths := forall_mem_append.mp h
    obtain ⟨s, start, hs⟩ : ∃ s start, scriptStart kind = s :: start := ⟨_, _, rfl⟩
    obtain ⟨e, rest, he⟩ := scriptEnd_cons kind captureAgentOutput registrationId
    have hall := tokens_code hend []
    rw [append_nil, he] at hall
    simp only [script, intendedTokens, append_assoc]
    rw [tokens_head, hs, cons_append, tokens_psQuote hpaths.1 (hstart s (by simp [hs])),
      ← cons_append, ← hs, tokens_code hstart, he,
      tokens_psQuote hpaths.2 (hend e (by simp [he])), hall]
    simp [tokens]

/-- A directory with a typographic apostrophe in its name ends the literal. -/
theorem script_not_read_back :
    tokens false (script .stop false none (text "C:\\d’or\\promptdock.exe") (text "C:\\in")) ≠
      intendedTokens .stop false none (text "C:\\d’or\\promptdock.exe") (text "C:\\in") := by
  decide +kernel

end PromptDock.Desktop.Hooks
