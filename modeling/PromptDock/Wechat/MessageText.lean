import PromptDock.HashPreimages
import PromptDock.Wechat.WechatMonitor

/-!
# The text of a message

`extract_text` (`monitor/poll.rs`) goes over the items of a message once and keeps
the join of the texts, two counts and a hasher; the join is given up when it gets
too long.  What it returns is a function of the texts that count.
-/

namespace PromptDock.Wechat

open List Set

/-- The variables of the loop, with what the hasher was fed. -/
structure TextScan where
  combined : Option String
  (textItems chars : Nat)
  oversized : Bool
  hashed : List UInt8

/-- `usize::saturating_add`. -/
def usizeSaturatingAdd (a b : Nat) : Nat := min 18446744073709551615 (a + b)

/-- The loop's body from the text on. -/
def TextScan.push (s : TextScan) (text : String) : TextScan :=
  let textItems := s.textItems + 1
  let separatorChars := if 1 < textItems then 1 else 0
  let chars := usizeSaturatingAdd (usizeSaturatingAdd s.chars separatorChars) text.length
  let hashed := s.hashed ++ beBytes (utf8 text).length ++ utf8 text
  let stop := !s.oversized && (maxTextItems < textItems || maxTextChars < chars)
  let combined := if stop then none else s.combined
  if s.oversized || stop then ⟨combined, textItems, chars, true, hashed⟩
  else
    let joined := match combined with
      | some combined => combined ++ "\n" ++ text
      | none => text
    ⟨some joined, textItems, chars, false, hashed⟩

/-- The loop's body. -/
def TextScan.item (s : TextScan) (item : MessageItem) : TextScan :=
  if item.itemType ≠ some messageItemTypeText || item.isCompleted = some false then s
  else
    match item.textItem.join.filter (!·.isEmpty) with
    | none => s
    | some text => s.push text

/-- What stands for texts that are too long. -/
def oversizedMarker (blake3 : Blake3) (hashed : List UInt8) : String :=
  String.ofList (replicate (maxTextChars + 1) (Char.ofNat 0xFFFD)) ++ ":" ++
    blake3.deriveKey "promptdock-relay/wechat-oversized-text/v1" hashed

/-- `extract_text`, as the loop. -/
def extractTextLoop (blake3 : Blake3) (m : WeixinMessage) : Option String :=
  let s := (m.itemList.getD []).foldl TextScan.item ⟨none, 0, 0, false, []⟩
  if s.oversized then some (oversizedMarker blake3 s.hashed) else s.combined

/-! ## The loop -/

/-- What the hasher is fed with. -/
def framedTexts (texts : List String) : List UInt8 := texts.flatMap fun text => frame (utf8 text)

/-- The texts are few and short enough to be handed over. -/
def Fits (texts : List String) : Prop :=
  texts.length ≤ maxTextItems ∧ ("\n".intercalate texts).length ≤ maxTextChars

section

variable (texts rest : List String) (text : String) (blake3 : Blake3) (m : WeixinMessage)

/-- The variables after some texts. -/
def TextScan.after : TextScan where
  combined := if oversizedText texts || texts.isEmpty then none else some ("\n".intercalate texts)
  textItems := texts.length
  chars := usizeSaturatingAdd (texts.map String.length).sum (texts.length - 1)
  oversized := oversizedText texts
  hashed := framedTexts texts

theorem join_concat (h : texts ≠ []) :
    "\n".intercalate (texts ++ [text]) = "\n".intercalate texts ++ "\n" ++ text := by
  induction texts with
  | nil => exact absurd rfl h
  | cons first rest ih =>
    cases rest with
    | nil => simp
    | cons second rest =>
      have hrest := congrArg String.toList (ih (cons_ne_nil _ _))
      apply String.ext
      simpa [String.toList_intercalate, append_assoc] using hrest

/-- One more text. -/
theorem TextScan.after_push : (after texts).push text = after (texts ++ [text]) := by
  have hchars : usizeSaturatingAdd (usizeSaturatingAdd (after texts).chars
        (if 1 < (after texts).textItems + 1 then 1 else 0)) text.length =
      (after (texts ++ [text])).chars := by
    unfold after usizeSaturatingAdd
    rw [map_append, map_singleton, sum_append_nat, sum_singleton, length_append, length_singleton]
    dsimp only
    split <;> omega
  have hover : oversizedText (texts ++ [text]) = (oversizedText texts ||
      (maxTextItems < (after texts).textItems + 1 ||
        maxTextChars < (after (texts ++ [text])).chars)) := by
    rw [Bool.eq_iff_iff]
    simp only [oversizedText, Bool.or_eq_true, decide_eq_true_eq, after, map_append, map_singleton,
      sum_append_nat, sum_singleton, length_append, length_singleton]
    unfold maxTextItems maxTextChars usizeSaturatingAdd
    omega
  dsimp only [push]
  rw [hchars]
  generalize (maxTextItems < (after texts).textItems + 1 ||
    maxTextChars < (after (texts ++ [text])).chars : Bool) = stop at hover ⊢
  unfold after
  dsimp only
  rw [hover]
  cases oversizedText texts <;> cases stop
  · rcases eq_or_ne texts [] with rfl | hne
    · simp [framedTexts, frame]
    · simp [framedTexts, frame, hne, join_concat texts text hne]
  all_goals simp [framedTexts, frame]

/-- Text after text. -/
theorem TextScan.foldl_push : rest.foldl push (after texts) = after (texts ++ rest) := by
  induction rest generalizing texts with
  | nil => rw [append_nil, foldl_nil]
  | cons text rest ih => rw [foldl_cons, after_push, ih, append_assoc, singleton_append]

/-- **The loop computes the closed form**. -/
theorem extractTextLoop_eq : extractTextLoop blake3 m = extractText blake3 m := by
  have hscan : (m.itemList.getD []).foldl TextScan.item ⟨none, 0, 0, false, []⟩ =
      TextScan.after (messageTexts m) := by
    refine Eq.trans ?_ (TextScan.foldl_push [] (messageTexts m))
    rw [messageTexts, foldl_filterMap]
    congr 1
    funext s item
    unfold TextScan.item
    split
    · rfl
    · cases item.textItem.join.filter (!·.isEmpty) <;> rfl
  rw [extractTextLoop, extractText, hscan, TextScan.after, oversizedMarker]
  dsimp only
  split
  · rfl
  · simp_all

/-- Joining adds one character between two texts. -/
theorem length_join :
    ("\n".intercalate texts).length = (texts.map String.length).sum + (texts.length - 1) := by
  induction texts with
  | nil => rfl
  | cons first rest ih =>
    cases rest with
    | nil => simp
    | cons second rest =>
      rw [← String.length_toList, String.toList_intercalate] at ih ⊢
      simp [String.length_toList] at ih ⊢
      omega

/-- Oversized are texts that do not fit. -/
theorem oversizedText_iff : oversizedText texts = true ↔ ¬Fits texts := by
  rw [Fits, oversizedText, length_join, Bool.or_eq_true, decide_eq_true_iff, decide_eq_true_iff]
  omega

end

/-- Texts that fit are joined; in place of others stands a text that is no command and
tells them apart, as far as the hash does. -/
theorem extracted_text (blake3 : Blake3) :
    (∀ m, (messageTexts m = [] → extractTextLoop blake3 m = none) ∧
      (messageTexts m ≠ [] → Fits (messageTexts m) →
        extractTextLoop blake3 m = some ("\n".intercalate (messageTexts m))) ∧
      (¬Fits (messageTexts m) → ∃ marker, extractTextLoop blake3 m = some marker ∧
        maxInboundTextChars < marker.length ∧ (parseInboundCommand marker).command = .unknown)) ∧
    ∀ inputs, InjOn (blake3.deriveKey "promptdock-relay/wechat-oversized-text/v1") inputs →
      ∀ m m', framedTexts (messageTexts m) ∈ inputs → framedTexts (messageTexts m') ∈ inputs →
        (∀ text ∈ messageTexts m ++ messageTexts m', Held (utf8 text)) →
        ¬Fits (messageTexts m) → ¬Fits (messageTexts m') → messageTexts m ≠ messageTexts m' →
        extractTextLoop blake3 m ≠ extractTextLoop blake3 m' := by
  have hmarker : ∀ m, ¬Fits (messageTexts m) → extractTextLoop blake3 m =
      some (oversizedMarker blake3 (framedTexts (messageTexts m))) := by
    intro m hm
    rw [extractTextLoop_eq, extractText, if_pos ((oversizedText_iff _).mpr hm)]
    rfl
  refine ⟨fun m => ⟨fun h => ?_, fun hne hfits => ?_, fun hm => ⟨_, hmarker m hm, ?_⟩⟩, ?_⟩
  · rw [extractTextLoop_eq, extractText, h]
    rfl
  · rw [extractTextLoop_eq, extractText, if_neg, if_neg]
    · simpa using hne
    · rw [oversizedText_iff]
      exact not_not_intro hfits
  · have hlen : maxInboundTextChars <
        (oversizedMarker blake3 (framedTexts (messageTexts m))).length := by
      rw [oversizedMarker, String.length_append, String.length_append, String.length_ofList,
        length_replicate, maxInboundTextChars, maxTextChars]
      omega
    refine ⟨hlen, ?_⟩
    rw [parseInboundCommand, if_pos hlen]
  · intro inputs hinj m m' hx hy hheld hm hm' hne heq
    rw [hmarker m hm, hmarker m' hm', Option.some_inj, oversizedMarker, oversizedMarker] at heq
    have hframes : ((messageTexts m).map utf8).flatMap frame =
        ((messageTexts m').map utf8).flatMap frame := by
      simpa only [flatMap_map, framedTexts] using hinj hx hy ((String.append_right_inj _).mp heq)
    simp only [mem_append, or_imp, forall_and] at hheld
    have hbytes := frame_selfDelimiting.whole (forall_mem_map.mpr hheld.1)
      (forall_mem_map.mpr hheld.2) hframes
    exact hne ((map_inj_right fun _ _ => utf8_inj.mp).mp hbytes)

end PromptDock.Wechat
