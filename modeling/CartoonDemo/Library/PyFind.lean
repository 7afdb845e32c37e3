import CartoonDemo.Library.PyStr

/-!
# CartoonDemo.Library.PyFind

**Searching a text**: `cut` is `str.find` with the slices before and after the hit, and
`stripList` is `str.strip` on character lists.

* `cut_isSome_iff`, `cut_eq_some`, `cut_leftmost`: the hit is there when the text is, and no other
  one starts further left;
* `cut_append_cons`: a character that is not part of the text keeps the hits on both its sides
  apart;
* `countP_stripList`: stripping loses white space only.
-/

namespace CartoonDemo

namespace PyStr

/-- What is before and after the leftmost `sep`. -/
def cut (sep : List Char) : List Char → Option (List Char × List Char)
  | [] => if sep = [] then some ([], []) else none
  | c :: s =>
      if sep <+: c :: s then some ([], (c :: s).drop sep.length)
      else (cut sep s).map fun parts => (c :: parts.1, parts.2)

theorem cut_of_starts {sep s : List Char} (h : sep <+: s) : cut sep s = some ([], s.drop sep.length) := by
  cases s with
  | nil =>
      rw [cut, if_pos (List.prefix_nil.mp h), List.drop_nil]
  | cons c s => rw [cut, if_pos h]

theorem cut_cons_of_not_starts {sep : List Char} {c : Char} {s : List Char} (h : ¬ sep <+: c :: s) :
    cut sep (c :: s) = (cut sep s).map fun parts => (c :: parts.1, parts.2) := by
  rw [cut, if_neg h]

theorem cut_isSome_iff {sep s : List Char} : (cut sep s).isSome ↔ sep <:+: s := by
  induction s with
  | nil =>
      rw [cut, List.infix_nil]
      split <;> simp [*]
  | cons c s ih =>
      rw [List.infix_cons_iff]
      by_cases h : sep <+: c :: s
      · rw [cut_of_starts h]
        exact iff_of_true rfl (Or.inl h)
      · rw [cut_cons_of_not_starts h, Option.isSome_map, ih]
        exact (or_iff_right h).symm

/-- No hit starts before the one that is found. -/
theorem cut_leftmost {sep x y before after : List Char}
    (h : cut sep (x ++ sep ++ y) = some (before, after)) : before <+: x := by
  induction x generalizing before after with
  | nil =>
      rw [List.nil_append, cut_of_starts ⟨y, rfl⟩] at h
      obtain ⟨rfl, -⟩ := Prod.mk.inj (Option.some.inj h)
      exact List.nil_prefix
  | cons c x ih =>
      by_cases hp : sep <+: c :: (x ++ sep ++ y)
      · rw [List.cons_append, List.cons_append, cut_of_starts hp] at h
        obtain ⟨rfl, -⟩ := Prod.mk.inj (Option.some.inj h)
        exact List.nil_prefix
      · rw [List.cons_append, List.cons_append, cut_cons_of_not_starts hp] at h
        obtain ⟨⟨before', after'⟩, hcut, heq⟩ := Option.map_eq_some_iff.mp h
        rw [← (Prod.mk.inj heq).1]
        exact (List.prefix_cons_inj c).mpr (ih hcut)

/-- A hit does not reach over a character that it does not contain. -/
theorem prefix_of_prefix_append_cons {sep x y : List Char} {c : Char} (hc : c ∉ sep)
    (h : sep <+: x ++ c :: y) : sep <+: x := by
  obtain ⟨rest, hrest⟩ := h
  rcases List.append_eq_append_iff.mp hrest with ⟨t, hx, -⟩ | ⟨t, hsep, ht⟩
  · exact ⟨t, hx.symm⟩
  · cases t with
    | nil => exact ⟨[], by rw [hsep, List.append_nil, List.append_nil]⟩
    | cons d t =>
        obtain ⟨rfl, -⟩ := List.cons.inj ht
        exact absurd (by rw [hsep]; simp) hc

/-- Without a hit in `x`, the search goes on behind it. -/
theorem cut_append_cons {sep x y : List Char} {c : Char} (hsep : sep ≠ []) (hc : c ∉ sep)
    (hx : ¬ sep <:+: x) :
    cut sep (x ++ c :: y) = (cut sep y).map fun parts => (x ++ c :: parts.1, parts.2) := by
  induction x with
  | nil =>
      have hp : ¬ sep <+: c :: y := fun h =>
        hsep (List.prefix_nil.mp (prefix_of_prefix_append_cons (x := []) hc h))
      rw [List.nil_append, cut_cons_of_not_starts hp]
      rfl
  | cons d x ih =>
      obtain ⟨hd, hx⟩ := not_or.mp (mt List.infix_cons_iff.mpr hx)
      have hp : ¬ sep <+: d :: (x ++ c :: y) := fun h =>
        hd (prefix_of_prefix_append_cons (x := d :: x) hc h)
      rw [List.cons_append, cut_cons_of_not_starts hp, ih hx, Option.map_map]
      rfl

/-- The first line break, or any other character. -/
theorem cut_singleton {c : Char} {x y : List Char} (hc : c ∉ x) : cut [c] (x ++ c :: y) = some (x, y) := by
  induction x with
  | nil => exact cut_of_starts ⟨y, rfl⟩
  | cons d x ih =>
      obtain ⟨hd, hx⟩ := not_or.mp (mt List.mem_cons.mpr hc)
      have hp : ¬ [c] <+: d :: (x ++ c :: y) := fun h => hd (List.cons_prefix_cons.mp h).1
      rw [List.cons_append, cut_cons_of_not_starts hp, ih hx]
      rfl

/-! ### Stripping -/

/-- `str.strip()` of the characters. -/
def stripList (s : List Char) : List Char := (s.dropWhile isSpace).rdropWhile isSpace

theorem toList_strip (s : String) : (strip s).toList = stripList s.toList := by
  simp [strip, stripList, List.rdropWhile]

theorem strip_ofList (s : List Char) : strip (String.ofList s) = String.ofList (stripList s) := by
  simp [strip, stripList, List.rdropWhile]

theorem stripList_append_left {pre s : List Char} (h : ∀ c ∈ pre, isSpace c) :
    stripList (pre ++ s) = stripList s := by
  rw [stripList, List.dropWhile_append_of_pos h, stripList]

theorem stripList_append_right {s post : List Char} (h : ∀ c ∈ post, isSpace c) :
    stripList (s ++ post) = stripList s := by
  have hr : ∀ t : List Char, (t ++ post).rdropWhile isSpace = t.rdropWhile isSpace := by
    intro t
    rw [List.rdropWhile, List.reverse_append,
      List.dropWhile_append_of_pos fun c hc => h c (List.mem_reverse.mp hc), List.rdropWhile]
  rw [stripList, stripList, List.dropWhile_append]
  split
  · next hempty =>
    rw [List.isEmpty_iff.mp hempty, ← List.nil_append (post.dropWhile isSpace),
      List.dropWhile_eq_nil_iff.mpr h]
    rfl
  · exact hr _

/-- White space around a text makes no difference. -/
theorem stripList_surround {pre s post : List Char} (hpre : ∀ c ∈ pre, isSpace c)
    (hpost : ∀ c ∈ post, isSpace c) : stripList (pre ++ s ++ post) = stripList s := by
  rw [stripList_append_right hpost, stripList_append_left hpre]

/-- A text between two characters that are no white space is not stripped. -/
theorem stripList_eq_self {c d : Char} {s : List Char} (hc : isSpace c = false)
    (hd : isSpace d = false) : stripList (c :: s ++ [d]) = c :: s ++ [d] := by
  rw [stripList, List.cons_append, List.dropWhile_cons_of_neg (by rw [hc]; decide),
    List.rdropWhile_eq_self_iff]
  intro hne
  have hlast : (c :: (s ++ [d])).getLast hne = d := List.getLast_append_singleton (c :: s)
  rw [hlast, hd]
  decide

/-- Stripping takes nothing away but white space. -/
theorem countP_stripList (s : List Char) :
    (stripList s).countP (fun c => !isSpace c) = s.countP fun c => !isSpace c := by
  have hdrop : ∀ t : List Char,
      (t.dropWhile isSpace).countP (fun c => !isSpace c) = t.countP fun c => !isSpace c := by
    intro t
    induction t with
    | nil => rfl
    | cons c t ih =>
        rw [List.dropWhile_cons]
        split
        · next hc => rw [ih, List.countP_cons_of_neg (by rw [hc]; decide)]
        · rfl
  rw [stripList, List.rdropWhile, List.countP_reverse, hdrop, List.countP_reverse, hdrop]

end PyStr

end CartoonDemo
