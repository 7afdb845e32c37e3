import Mathlib.Data.Nat.Digits.Lemmas
import CartoonDemo.Library.PyNumber
import CartoonDemo.Library.PyStr

/-!
# CartoonDemo.Library.PyText

Python's **untrusted text**: values that are either a `str` or the bytes of one, and the
integers that `int` reads from a text. `int` takes an optional sign, decimal digits of any
script and single underscores between them, and no more digits than `str` would print.

What `str` prints, `int` reads back (`parse_toString`), and what `int` reads, `str` can print
(`printable_of_parse`).
-/

namespace CartoonDemo

/-- A `str | bytes`. -/
inductive PyText
  | str (s : String)
  | bytes (b : ByteArray)

instance : DecidableEq PyText
  | .str s, .str s' => decidable_of_iff (s = s') ⟨congrArg _, PyText.str.inj⟩
  | .bytes b, .bytes b' =>
      @decidable_of_iff _ (b = b') ⟨congrArg _, PyText.bytes.inj⟩ (ByteArray.instDecidableEq b b')
  | .str _, .bytes _ => isFalse fun h => PyText.noConfusion h
  | .bytes _, .str _ => isFalse fun h => PyText.noConfusion h

namespace PyText

/-- The text, with `bytes.decode()` of bytes; `none` is a `UnicodeDecodeError`. -/
def decode : PyText → Option String
  | str s => some s
  | bytes b => String.fromUTF8? b

/-- A `str`, or bytes that are UTF-8. -/
def Decodes : PyText → Prop
  | str _ => True
  | bytes b => b.IsValidUTF8

theorem decode_isSome_iff {t : PyText} : t.decode.isSome ↔ t.Decodes := by
  cases t with
  | str s => exact ⟨fun _ => trivial, fun _ => rfl⟩
  | bytes b =>
      show (String.fromUTF8? b).isSome ↔ b.IsValidUTF8
      rw [String.fromUTF8?]
      split
      · next h => simp [h]
      · next h => simp [h]

end PyText

namespace PyStr

theorem strip_eq_self {s : String} (h : ∀ c ∈ s.toList, isSpace c = false) : strip s = s := by
  have hdrop : ∀ l : List Char, (∀ c ∈ l, isSpace c = false) → l.dropWhile isSpace = l := by
    intro l hl
    cases l with
    | nil => rfl
    | cons c l =>
        rw [List.dropWhile_cons, if_neg]
        rw [hl c (List.mem_cons_self ..)]
        decide
  rw [strip, hdrop _ h, hdrop _ fun c hc => h c (List.mem_reverse.mp hc), List.reverse_reverse,
    String.ofList_toList]

theorem isSpace_of_isDigit {c : Char} (h : c.isDigit) : isSpace c = false := by
  obtain ⟨hlow, hhigh⟩ : 48 ≤ c.toNat ∧ c.toNat ≤ 57 := by
    simp only [Char.isDigit, Bool.and_eq_true, decide_eq_true_eq] at h
    exact ⟨UInt32.le_iff_toNat_le.mp h.1, UInt32.le_iff_toNat_le.mp h.2⟩
  simp only [isSpace, Bool.or_eq_false_iff, Bool.and_eq_false_iff, decide_eq_false_iff_not]
  omega

/-- `str.replace` of a single character. -/
def replaceChar (c : Char) (text s : List Char) : List Char :=
  s.flatMap fun x => if x = c then text else [x]

theorem replaceChar_append (c : Char) (text s t : List Char) :
    replaceChar c text (s ++ t) = replaceChar c text s ++ replaceChar c text t :=
  List.flatMap_append

theorem replaceChar_of_not_mem {c : Char} {text s : List Char} (h : c ∉ s) :
    replaceChar c text s = s := by
  induction s with
  | nil => rfl
  | cons x s ih =>
      obtain ⟨hx, hs⟩ := not_or.mp (mt List.mem_cons.mpr h)
      show (if x = c then text else [x]) ++ replaceChar c text s = x :: s
      rw [if_neg (Ne.symm hx), ih hs]
      rfl

end PyStr

namespace PyInt

/-- The zeros of the decimal digits of Unicode 14; each starts a run of ten digits. -/
def decimalZeros : List Nat :=
  [0x30, 0x660, 0x6f0, 0x7c0, 0x966, 0x9e6, 0xa66, 0xae6, 0xb66, 0xbe6, 0xc66, 0xce6, 0xd66,
   0xde6, 0xe50, 0xed0, 0xf20, 0x1040, 0x1090, 0x17e0, 0x1810, 0x1946, 0x19d0, 0x1a80, 0x1a90,
   0x1b50, 0x1bb0, 0x1c40, 0x1c50, 0xa620, 0xa8d0, 0xa900, 0xa9d0, 0xa9f0, 0xaa50, 0xabf0,
   0xff10, 0x104a0, 0x10d30, 0x11066, 0x110f0, 0x11136, 0x111d0, 0x112f0, 0x11450, 0x114d0,
   0x11650, 0x116c0, 0x11730, 0x118e0, 0x11950, 0x11c50, 0x11d50, 0x11da0, 0x16a60, 0x16ac0,
   0x16b50, 0x1d7ce, 0x1d7d8, 0x1d7e2, 0x1d7ec, 0x1d7f6, 0x1e140, 0x1e2f0, 0x1e950, 0x1fbf0]

/-- The value of a decimal digit. -/
def decimal? (c : Char) : Option Nat :=
  (decimalZeros.find? fun first => first ≤ c.toNat && c.toNat < first + 10).map (c.toNat - ·)

/-- The digits of a literal, with single underscores between them. -/
def literalDigits : List Char → Option (List Nat)
  | [] => none
  | [c] => (decimal? c).map fun d => [d]
  | c :: '_' :: s => (decimal? c).bind fun d => (literalDigits s).map (d :: ·)
  | c :: s => (decimal? c).bind fun d => (literalDigits s).map (d :: ·)

/-- The number that digits stand for. -/
def ofDigits (ds : List Nat) : Nat := ds.foldl (fun n d => 10 * n + d) 0

/-- An unsigned literal; too many digits are a `ValueError` as well. -/
def parseNat (s : List Char) : Option Nat :=
  (literalDigits s).bind fun ds => if ds.length ≤ maxStrDigits then some (ofDigits ds) else none

/-- The sign of a literal, and what follows it. -/
def sign : List Char → Int × List Char
  | '-' :: s => (-1, s)
  | '+' :: s => (1, s)
  | s => (1, s)

/-- `int(s)` of a stripped text; `none` is a `ValueError`. -/
def parse (s : List Char) : Option Int :=
  (parseNat (sign s).2).map fun n : Nat => (sign s).1 * n

theorem natAbs_sign (s : List Char) : (sign s).1.natAbs = 1 := by
  rw [sign.eq_def]
  split <;> rfl

theorem sign_of_isDigit {c : Char} {s : List Char} (h : c.isDigit) : sign (c :: s) = (1, c :: s) := by
  rw [sign]
  · rintro _ hs
    rw [(List.cons.inj hs).1] at h
    exact absurd h (by decide)
  · rintro _ hs
    rw [(List.cons.inj hs).1] at h
    exact absurd h (by decide)

/-! ### Digits that are printed -/

theorem decimal?_of_isDigit {c : Char} (h : c.isDigit) : decimal? c = some (c.toNat - 48) := by
  obtain ⟨hlow, hhigh⟩ : 48 ≤ c.toNat ∧ c.toNat ≤ 57 := by
    simp only [Char.isDigit, Bool.and_eq_true, decide_eq_true_eq] at h
    exact ⟨UInt32.le_iff_toNat_le.mp h.1, UInt32.le_iff_toNat_le.mp h.2⟩
  rw [decimal?, decimalZeros, List.find?_cons_of_pos]
  · rfl
  · simp only [Bool.and_eq_true, decide_eq_true_eq]
    omega

/-- ASCII digits are read one by one. -/
theorem literalDigits_of_isDigit {s : List Char} (hne : s ≠ []) (h : ∀ c ∈ s, c.isDigit) :
    literalDigits s = some (s.map fun c => c.toNat - 48) := by
  induction s with
  | nil => exact absurd rfl hne
  | cons c s ih =>
      have hc := decimal?_of_isDigit (h c (List.mem_cons_self ..))
      cases s with
      | nil => rw [literalDigits, hc]; rfl
      | cons c' s =>
          have hrest := ih (by simp) fun d hd => h d (List.mem_cons_of_mem _ hd)
          have hunder : c' ≠ '_' := by
            rintro rfl
            exact absurd (h '_' (by simp)) (by decide)
          rw [literalDigits, hc, hrest]
          · rfl
          · exact List.cons_ne_nil c' s
          · intro s' hs'
            exact hunder (List.cons.inj hs').1

/-- A digit is at most nine. -/
theorem decimal?_lt {c : Char} {d : Nat} (h : decimal? c = some d) : d < 10 := by
  obtain ⟨first, hfind, rfl⟩ := Option.map_eq_some_iff.mp h
  have := List.find?_some hfind
  simp only [Bool.and_eq_true, decide_eq_true_eq] at this
  omega

theorem literalDigits_lt {s : List Char} {ds : List Nat} (h : literalDigits s = some ds) :
    ∀ d ∈ ds, d < 10 := by
  have hcons : ∀ {c : Char} {s : List Char} {ds : List Nat},
      (∀ ds, literalDigits s = some ds → ∀ d ∈ ds, d < 10) →
      ((decimal? c).bind fun d => (literalDigits s).map (d :: ·)) = some ds → ∀ d ∈ ds, d < 10 := by
    intro c s ds ih h d hd
    obtain ⟨first, hfirst, h⟩ := Option.bind_eq_some_iff.mp h
    obtain ⟨rest, hrest, rfl⟩ := Option.map_eq_some_iff.mp h
    rcases List.mem_cons.mp hd with rfl | hd
    · exact decimal?_lt hfirst
    · exact ih rest hrest d hd
  induction s using literalDigits.induct generalizing ds with
  | case1 => exact absurd h (by simp [literalDigits])
  | case2 c =>
      rw [literalDigits] at h
      obtain ⟨d, hd, rfl⟩ := Option.map_eq_some_iff.mp h
      intro d' hd'
      rw [List.mem_singleton.mp hd']
      exact decimal?_lt hd
  | case3 c s ih =>
      rw [literalDigits] at h
      exact hcons (fun _ => ih) h
  | case4 c s hne hunder ih =>
      rw [literalDigits] at h
      · exact hcons (fun _ => ih) h
      · exact hne
      · exact hunder

theorem foldl_digits_lt {ds : List Nat} (h : ∀ d ∈ ds, d < 10) (n : Nat) :
    ds.foldl (fun n d => 10 * n + d) n < (n + 1) * 10 ^ ds.length := by
  induction ds generalizing n with
  | nil => simp
  | cons d ds ih =>
      have hd := h d (List.mem_cons_self ..)
      calc ds.foldl (fun n d => 10 * n + d) (10 * n + d)
          < (10 * n + d + 1) * 10 ^ ds.length := ih (fun d' hd' => h d' (List.mem_cons_of_mem _ hd')) _
        _ ≤ ((n + 1) * 10) * 10 ^ ds.length := Nat.mul_le_mul_right _ (by omega)
        _ = (n + 1) * 10 ^ (ds.length + 1) := by rw [Nat.mul_assoc, Nat.pow_succ']

theorem ofDigits_lt {ds : List Nat} (h : ∀ d ∈ ds, d < 10) : ofDigits ds < 10 ^ ds.length := by
  have := foldl_digits_lt h 0
  rwa [Nat.zero_add, Nat.one_mul] at this

theorem parseNat_lt {s : List Char} {n : Nat} (h : parseNat s = some n) :
    n < 10 ^ maxStrDigits := by
  obtain ⟨ds, hds, h⟩ := Option.bind_eq_some_iff.mp h
  split at h
  · next hlen =>
    obtain rfl := Option.some.inj h
    exact Nat.lt_of_lt_of_le (ofDigits_lt (literalDigits_lt hds))
      (Nat.pow_le_pow_right (by decide) hlen)
  · exact absurd h (by simp)

/-- **What `int` reads, `str` can print.** -/
theorem printable_of_parse {s : List Char} {n : Int} (h : parse s = some n) : Printable n := by
  obtain ⟨m, hm, rfl⟩ := Option.map_eq_some_iff.mp h
  rw [printable_iff, Int.natAbs_mul, natAbs_sign, Nat.one_mul, Int.natAbs_natCast]
  exact parseNat_lt hm

theorem ofDigits_toDigits (n : Nat) :
    ofDigits ((Nat.toDigits 10 n).map fun c => c.toNat - 48) = n := by
  have hfold : ∀ (s : List Char) (k : Nat),
      (s.map fun c => c.toNat - 48).foldl (fun n d => 10 * n + d) k = Nat.ofDigitChars 10 s k := by
    intro s
    induction s with
    | nil => intro k; rfl
    | cons c s ih => intro k; rw [List.map_cons, List.foldl_cons, ih, Nat.ofDigitChars_cons]; rfl
  rw [ofDigits, hfold, Nat.ofDigitChars_ten_toDigits]

/-- **What `str` prints, `int` reads back.** -/
theorem parse_toString {n : Nat} (h : Printable n) : parse (toString (n : Int)).toList = some (n : Int) := by
  have htext : (toString (n : Int)).toList = Nat.toDigits 10 n := Nat.toList_repr
  have hdigit : ∀ c ∈ Nat.toDigits 10 n, c.isDigit := fun c hc =>
    Nat.isDigit_of_mem_toDigits (by decide) (by decide) hc
  have hne : Nat.toDigits 10 n ≠ [] := Nat.toDigits_ne_nil
  have hlen : (Nat.toDigits 10 n).length ≤ maxStrDigits := by
    rw [printable_iff] at h
    exact (Nat.length_toDigits_le_iff (by decide) (by decide)).mpr h
  have hnat : parseNat (Nat.toDigits 10 n) = some n := by
    rw [parseNat, literalDigits_of_isDigit hne hdigit, Option.bind_some, List.length_map,
      if_pos hlen, ofDigits_toDigits]
  rw [htext]
  have hsign : sign (Nat.toDigits 10 n) = (1, Nat.toDigits 10 n) := by
    cases hs : Nat.toDigits 10 n with
    | nil => exact absurd hs hne
    | cons c s => exact sign_of_isDigit (hdigit c (by rw [hs]; exact List.mem_cons_self ..))
  rw [parse, hsign, hnat, Option.map_some, Int.one_mul]

end PyInt

end CartoonDemo
