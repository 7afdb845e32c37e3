import Mathlib.Data.List.DropRight

/-!
# CartoonDemo.Library.PyStr

The parts of Python's `str` that programs rely on: `strip`, and the decimal rendering of
integers in f-strings. Strings are handled as character lists in the proofs.

There are two results. Stripping a stripped text changes nothing (`strip_strip`). A text
built as `prefix:word:number` determines its three parts even when the prefix itself
contains colons, because neither the word nor the number does (`joined_inj`).
-/

namespace CartoonDemo

namespace PyStr

/-- `str.isspace` of a single character. -/
def isSpace (c : Char) : Bool :=
  let n := c.toNat
  (0x09 ≤ n && n ≤ 0x0d) || (0x1c ≤ n && n ≤ 0x20) || n = 0x85 || n = 0xa0 || n = 0x1680 ||
    (0x2000 ≤ n && n ≤ 0x200a) || n = 0x2028 || n = 0x2029 || n = 0x202f || n = 0x205f ||
    n = 0x3000

/-- `str.strip()`. -/
def strip (s : String) : String :=
  String.ofList ((s.toList.dropWhile isSpace).reverse.dropWhile isSpace).reverse

/-- A stripped text neither starts nor ends with white space. -/
theorem strip_strip (s : String) : strip (strip s) = strip s := by
  let m := s.toList.dropWhile isSpace
  have hstrip : (strip s).toList = m.rdropWhile isSpace := by
    simp [strip, List.rdropWhile, m]
  -- stripping the end leaves a nonempty text its first character
  have hleft : (m.rdropWhile isSpace).dropWhile isSpace = m.rdropWhile isSpace := by
    rw [List.dropWhile_eq_self_iff]
    intro hl
    obtain ⟨rest, hrest⟩ := List.rdropWhile_prefix isSpace m
    have hm : 0 < m.length := by rw [← hrest, List.length_append]; omega
    have hhead : m[0] = (m.rdropWhile isSpace)[0] := by
      rw [List.getElem_of_eq hrest.symm hm, List.getElem_append_left hl]
    rw [← hhead]
    exact List.dropWhile_eq_self_iff.mp (List.dropWhile_idempotent isSpace s.toList) hm
  apply String.toList_inj.mp
  calc (strip (strip s)).toList
      = ((strip s).toList.dropWhile isSpace).rdropWhile isSpace := by
        simp [strip, List.rdropWhile]
    _ = (m.rdropWhile isSpace).rdropWhile isSpace := by rw [hstrip, hleft]
    _ = (strip s).toList := by rw [List.rdropWhile_idempotent, hstrip]

/-! ### Integers as text -/

/-- The rendering of an integer has no colon. -/
theorem colon_not_mem_toString (n : Int) : ':' ∉ (toString n).toList := by
  have hnat : ∀ m : Nat, ':' ∉ m.repr.toList := by
    intro m hm
    rw [Nat.toList_repr] at hm
    exact absurd (Nat.isDigit_of_mem_toDigits (by decide) (by decide) hm) (by decide)
  cases n with
  | ofNat m => exact hnat m
  | negSucc m =>
      change ':' ∉ ("-" ++ m.succ.repr).toList
      rw [String.toList_append, List.mem_append, not_or]
      exact ⟨by decide, hnat m.succ⟩

/-- Different integers render differently. -/
theorem toString_int_inj {m n : Int} (h : toString m = toString n) : m = n := by
  -- reading the digits back recovers a natural number
  have hnat : ∀ a b : Nat, a.repr = b.repr → a = b := by
    intro a b hab
    rw [← Nat.ofDigitChars_ten_toDigits (n := a), ← Nat.toList_repr, hab, Nat.toList_repr,
      Nat.ofDigitChars_ten_toDigits]
  -- a rendering that starts with a minus sign is not that of a natural number
  have hsign : ∀ a b : Nat, a.repr ≠ "-" ++ b.repr := by
    intro a b hab
    have hmem : '-' ∈ a.repr.toList := by rw [hab, String.toList_append]; simp
    rw [Nat.toList_repr] at hmem
    exact absurd (Nat.isDigit_of_mem_toDigits (by decide) (by decide) hmem) (by decide)
  cases m with
  | ofNat a =>
      cases n with
      | ofNat b => rw [hnat a b h]
      | negSucc b => exact absurd h (hsign a b.succ)
  | negSucc a =>
      cases n with
      | ofNat b => exact absurd h.symm (hsign b a.succ)
      | negSucc b =>
          have hrepr : "-" ++ a.succ.repr = "-" ++ b.succ.repr := h
          rw [← String.toList_inj, String.toList_append, String.toList_append] at hrepr
          have hsucc := hnat _ _ (String.toList_inj.mp (List.append_cancel_left hrepr))
          rw [Nat.succ.inj hsucc]

/-! ### Splitting at the last separator

Parts that are joined by a separator can be read off the text if the last one is free of it.
-/

/-- A list determines the parts around a separator that the second part lacks. -/
theorem append_cons_inj {α : Type} {x : α} {l₁ l₂ r₁ r₂ : List α} (h₁ : x ∉ r₁) (h₂ : x ∉ r₂)
    (h : l₁ ++ x :: r₁ = l₂ ++ x :: r₂) : l₁ = l₂ ∧ r₁ = r₂ := by
  rcases List.append_eq_append_iff.mp h with ⟨m, rfl, hm⟩ | ⟨m, rfl, hm⟩
  · cases m with
    | nil => exact ⟨by simp, by simpa using hm⟩
    | cons y m =>
        obtain ⟨-, rfl⟩ : x = y ∧ r₁ = m ++ x :: r₂ := by simpa using hm
        exact absurd (by simp) h₁
  · cases m with
    | nil => exact ⟨by simp, by simpa using hm.symm⟩
    | cons y m =>
        obtain ⟨-, rfl⟩ : x = y ∧ r₂ = m ++ x :: r₁ := by simpa using hm
        exact absurd (by simp) h₂

/-- `f"{a}:{b}:{n}"` determines `a`, `b` and `n` when `b` has no colon. -/
theorem joined_inj {a₁ a₂ b₁ b₂ : String} {n₁ n₂ : Int} (h₁ : ':' ∉ b₁.toList)
    (h₂ : ':' ∉ b₂.toList)
    (h : a₁ ++ ":" ++ b₁ ++ ":" ++ toString n₁ = a₂ ++ ":" ++ b₂ ++ ":" ++ toString n₂) :
    a₁ = a₂ ∧ b₁ = b₂ ∧ n₁ = n₂ := by
  have hcolon : (":" : String).toList = [':'] := by decide
  rw [← String.toList_inj] at h
  simp only [String.toList_append, hcolon, List.append_assoc, List.singleton_append] at h
  rw [← List.append_assoc, ← List.append_assoc] at h
  obtain ⟨hleft, hnum⟩ := append_cons_inj (colon_not_mem_toString n₁)
    (colon_not_mem_toString n₂) h
  obtain ⟨ha, hb⟩ := append_cons_inj h₁ h₂ hleft
  exact ⟨String.toList_inj.mp ha, String.toList_inj.mp hb,
    toString_int_inj (String.toList_inj.mp hnum)⟩

end PyStr

end CartoonDemo
