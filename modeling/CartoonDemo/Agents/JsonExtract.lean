import CartoonDemo.Library.PyFind

/-!
# CartoonDemo.Agents.JsonExtract

**Markdown fences around JSON** (`agents/validation/json_extract.py`): a provider may answer with
the bare text of an object or wrap it in three backticks, with a language tag and a line break.

The closing fence is the first one that is found in the text, wherever it stands. So a payload
survives exactly when it holds no three backticks itself (`payload_survives_iff`), not even in one
of its strings.
-/

namespace CartoonDemo

namespace Agents

open PyStr

/-- Three backticks. -/
def fence : List Char := List.replicate 3 (Char.ofNat 0x60)

/-- `extract_json_payload`, on characters. -/
def extractPayload (content : List Char) : List Char :=
  let text := stripList content
  if ¬ fence <+: text then text
  else
    let remainder := text.drop 3
    match cut ['\n'] remainder with
    | none => stripList remainder
    | some (_, inner) =>
        match cut fence inner with
        | none => stripList inner
        | some (before, _) => stripList before

/-- `extract_json_payload`. -/
def extractJsonPayload (content : String) : String :=
  String.ofList (extractPayload content.toList)

/-- The text of `p` in a markdown fence. -/
def inFence (tag p : String) : String := "```" ++ tag ++ "\n" ++ p ++ "\n```"

/-- A text of white space. -/
def Blank (s : String) : Prop := ∀ c ∈ s.toList, isSpace c

/-- Whatever white space stands around it, `p` is returned without its own outer white space, bare
or in a fence with any tag. -/
structure PayloadSurvives (p : String) : Prop where
  bare : ∀ pre post, Blank pre → Blank post → extractJsonPayload (pre ++ p ++ post) = strip p
  fenced : ∀ pre post tag, Blank pre → Blank post → '\n' ∉ tag.toList →
    extractJsonPayload (pre ++ inFence tag p ++ post) = strip p

/-- The text starts like an object, white space aside. -/
def OpensObject (p : String) : Prop := (strip p).toList.head? = some '{'

instance (p : String) : Decidable (OpensObject p) := inferInstanceAs (Decidable (_ = _))

theorem toList_inFence (tag p : String) :
    (inFence tag p).toList = fence ++ (tag.toList ++ '\n' :: (p.toList ++ '\n' :: fence)) := by
  have hopen : ("```" : String).toList = fence := by decide
  have hline : ("\n" : String).toList = ['\n'] := by decide
  have hclose : ("\n```" : String).toList = '\n' :: fence := by decide
  rw [inFence]
  simp only [String.toList_append, hopen, hline, hclose, List.append_assoc, List.nil_append,
    List.cons_append]

/-- A text that does not start with a fence is stripped and nothing else. -/
theorem extractPayload_of_not_fence {s : List Char} (h : ¬ fence <+: stripList s) :
    extractPayload s = stripList s := if_pos h

/-- In a fence, what counts is the first closing one. -/
theorem extractPayload_inFence {pre post : String} (hpre : Blank pre) (hpost : Blank post)
    {tag : String} (htag : '\n' ∉ tag.toList) (p : String) :
    extractPayload (pre ++ inFence tag p ++ post).toList =
      match cut fence (p.toList ++ '\n' :: fence) with
      | none => stripList (p.toList ++ '\n' :: fence)
      | some (before, _) => stripList before := by
  let body := tag.toList ++ '\n' :: (p.toList ++ '\n' :: fence)
  have htext : stripList (pre ++ inFence tag p ++ post).toList = fence ++ body := by
    rw [String.toList_append, String.toList_append, stripList_surround hpre hpost, toList_inFence]
    have hends : fence ++ body = Char.ofNat 0x60 :: (List.replicate 2 (Char.ofNat 0x60) ++
        (tag.toList ++ '\n' :: (p.toList ++ '\n' :: List.replicate 2 (Char.ofNat 0x60)))) ++
          [Char.ofNat 0x60] := by
      simp [body, fence, List.replicate]
    rw [hends, stripList_eq_self (by decide) (by decide)]
  have hline : cut ['\n'] body = some (tag.toList, p.toList ++ '\n' :: fence) := cut_singleton htag
  rw [extractPayload, htext, if_neg (not_not_intro ⟨body, rfl⟩)]
  show (match cut ['\n'] body with
    | none => stripList body
    | some (_, inner) =>
        match cut fence inner with
        | none => stripList inner
        | some (before, _) => stripList before) = _
  rw [hline]

/-- A text with a backtick that stripping cannot take away is not the stripped text in front of
it. -/
theorem stripList_ne_of_fence {before x y : List Char} (h : before <+: x) :
    stripList before ≠ stripList (x ++ fence ++ y) := by
  intro heq
  obtain ⟨t, rfl⟩ := h
  have hcount := congrArg (List.countP fun c => !isSpace c) heq
  have hfence : fence.countP (fun c => !isSpace c) = 3 := by decide
  simp only [countP_stripList, List.countP_append, hfence] at hcount
  omega

theorem fence_not_prefix {p : String} (h : OpensObject p) : ¬ fence <+: (strip p).toList := by
  intro hp
  obtain ⟨t, ht⟩ := hp
  rw [OpensObject, ← ht] at h
  exact absurd h (by simp [fence])

/-- The bare text of an object always survives. -/
theorem extractJsonPayload_bare {p : String} (h : OpensObject p) {pre post : String}
    (hpre : Blank pre) (hpost : Blank post) : extractJsonPayload (pre ++ p ++ post) = strip p := by
  have htext : stripList (pre ++ p ++ post).toList = (strip p).toList := by
    rw [String.toList_append, String.toList_append, stripList_surround hpre hpost, toList_strip]
  rw [extractJsonPayload, extractPayload_of_not_fence, htext, String.ofList_toList]
  rw [htext]
  exact fence_not_prefix h

/-- A text in braces has no outer white space. -/
theorem strip_braces (s : String) : strip ("\x7b" ++ s ++ "\x7d") = "\x7b" ++ s ++ "\x7d" := by
  have hopen : ("\x7b" : String).toList = ['{'] := by decide
  have hclose : ("\x7d" : String).toList = ['}'] := by decide
  apply String.toList_inj.mp
  rw [toList_strip, String.toList_append, String.toList_append, hopen, hclose]
  exact stripList_eq_self (by decide) (by decide)

theorem opensObject_braces (s : String) : OpensObject ("\x7b" ++ s ++ "\x7d") := by
  have hopen : ("\x7b" : String).toList = ['{'] := by decide
  rw [OpensObject, strip_braces, String.toList_append, String.toList_append, hopen]
  rfl

/-- It is its own payload. -/
theorem extractJsonPayload_braces (s : String) :
    extractJsonPayload ("\x7b" ++ s ++ "\x7d") = "\x7b" ++ s ++ "\x7d" := by
  have hbare := extractJsonPayload_bare (opensObject_braces s) (show Blank "" by simp [Blank])
    (show Blank "" by simp [Blank])
  rwa [strip_braces, String.empty_append, String.append_empty] at hbare

/-- **Fences are stripped without damage** exactly from payloads that hold no fence. -/
theorem payload_survives_iff (p : String) (h : OpensObject p) :
    PayloadSurvives p ↔ ¬ fence <:+: p.toList := by
  constructor
  · intro hsurvives hfence
    have heq := hsurvives.fenced "" "" "" (by simp [Blank]) (by simp [Blank]) (by simp)
    obtain ⟨x, y, hxy⟩ := hfence
    obtain ⟨⟨before, after⟩, hcut⟩ := Option.isSome_iff_exists.mp
      (cut_isSome_iff.mpr ⟨x, y ++ '\n' :: fence, rfl⟩)
    have hshape : p.toList ++ '\n' :: fence = x ++ fence ++ (y ++ '\n' :: fence) := by
      rw [← hxy, List.append_assoc]
    rw [extractJsonPayload, extractPayload_inFence (by simp [Blank]) (by simp [Blank]) (by simp),
      hshape, hcut, ← String.ofList_toList (s := strip p), toList_strip, ← hxy] at heq
    exact stripList_ne_of_fence (cut_leftmost hcut) (String.ofList_injective heq)
  · intro hfence
    refine ⟨fun pre post hpre hpost => extractJsonPayload_bare h hpre hpost, ?_⟩
    intro pre post tag hpre hpost htag
    have hcut : cut fence (p.toList ++ '\n' :: fence) = some (p.toList ++ ['\n'], []) := by
      rw [cut_append_cons (by simp [fence]) (by decide) hfence, cut_of_starts (List.prefix_refl _)]
      rfl
    rw [extractJsonPayload, extractPayload_inFence hpre hpost htag, hcut]
    show String.ofList (stripList (p.toList ++ ['\n'])) = strip p
    rw [stripList_append_right (List.forall_mem_singleton.mpr (by decide)), ← strip_ofList, String.ofList_toList]

/-- An object with a line break, and with backticks in a string but no three in a row, survives. -/
theorem payload_survives_backticks :
    PayloadSurvives ("\x7b" ++ "\"a\":\n\"`b` ``\"" ++ "\x7d") := by
  have htext : ("\x7b" ++ "\"a\":\n\"`b` ``\"" ++ "\x7d" : String).toList =
      ['{', '"', 'a', '"', ':', '\n', '"', Char.ofNat 0x60, 'b', Char.ofNat 0x60, ' ',
        Char.ofNat 0x60, Char.ofNat 0x60, '"', '}'] := by decide
  refine (payload_survives_iff _ (opensObject_braces _)).mpr ?_
  rw [htext]
  decide

/-- An object with three backticks in one of its strings is cut off there. -/
theorem fence_in_string_damaged : ¬ PayloadSurvives "\x7b\"a\": \"```\"\x7d" := by
  intro h
  have hbad := h.fenced "" "" "json" (by simp [Blank]) (by simp [Blank]) (by decide)
  exact absurd hbad (by decide)

end Agents

end CartoonDemo
