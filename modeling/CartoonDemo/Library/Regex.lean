import Mathlib.Algebra.GroupWithZero.Nat
import Mathlib.Data.List.Forall2
import CartoonDemo.Library.PyWord

/-!
# CartoonDemo.Library.Regex

**Regular expressions** as Python's `re` runs them: a backtracking search whose first success
counts, so `run` returns the list of all successes in the order in which they are tried. A
repetition is one of a character class and greedy; there is one group.

* `run_text`: a match moves over the text and changes none of it;
* `mem_run_chars`, `mem_run_seq`, …: what a success of each construct consists of;
* `piecesFrom_nil`, `piecesFrom_hit`, `piecesFrom_miss`: the steps of `re.sub`, and
  `pieces_induction`, the induction over them;
* `first_of_run`: with which characters a match can begin.
-/

namespace CartoonDemo

inductive Regex
  /-- A class, repeated greedily; without a maximum as often as possible. -/
  | chars (p : Char → Bool) (min : Nat) (max : Option Nat)
  /-- The edge of a word, `\b`. -/
  | boundary
  /-- The beginning of the text, `^`. -/
  | start
  /-- The end of the text or of its last line, `$`. -/
  | finish
  | seq (r s : Regex)
  | alt (r s : Regex)
  /-- Group 1. -/
  | group (r : Regex)

namespace Regex

/-- A position in a text, with the characters before it in reverse, and what group 1 holds. -/
structure Cursor where
  before : List Char
  after : List Char
  captured : List Char := []
  deriving DecidableEq

namespace Cursor

/-- The beginning of a text. -/
def ofText (s : List Char) : Cursor := { before := [], after := s }

/-- The whole text. -/
def text (c : Cursor) : List Char := c.before.reverse ++ c.after

def advance (k : Nat) (c : Cursor) : Cursor :=
  { c with before := (c.after.take k).reverse ++ c.before, after := c.after.drop k }

/-- Group 1 is only known within a match. -/
def release (c : Cursor) : Cursor := { c with captured := [] }

/-- What lies between this position and a later one. -/
def upTo (c later : Cursor) : List Char := c.after.take (c.after.length - later.after.length)

/-- A word character on one side and none on the other. -/
def atBoundary (c : Cursor) : Bool := c.before.head?.any PyWord.isWord != c.after.head?.any PyWord.isWord

end Cursor

open Cursor

/-- How often a class can be repeated from here. -/
def longest (p : Char → Bool) (max : Option Nat) (s : List Char) : Nat :=
  let n := (s.takeWhile p).length
  max.elim n (Nat.min n)

/-- The successes from a position, in the order in which they are tried. -/
def run : Regex → Cursor → List Cursor
  | chars p min max, c =>
      ((List.range (longest p max c.after + 1)).filter (min ≤ ·)).reverse.map fun k => c.advance k
  | boundary, c => if c.atBoundary then [c] else []
  | start, c => if c.before = [] then [c] else []
  | finish, c => if c.after = [] ∨ c.after = ['\n'] then [c] else []
  | seq r s, c => (run r c).flatMap (run s)
  | alt r s, c => run r c ++ run s c
  | group r, c => (run r c).map fun later => { later with captured := c.upTo later }

/-- Characters are the same. -/
def exact (x c : Char) : Bool := x = c

/-- `(?i)`: characters are the same up to case; the pattern is written in lower case. -/
def ignoreCase (x c : Char) : Bool := x = PyWord.foldCase c

/-- A class, once. -/
def once (p : Char → Bool) : Regex := chars p 1 (some 1)

/-- A class, once or not at all. -/
def optional (p : Char → Bool) : Regex := chars p 0 (some 1)

/-- White space, as long as there is some. -/
def spaces : Regex := chars PyStr.isSpace 0 none

/-- Patterns one after the other. -/
def seqs : List Regex → Regex
  | [] => chars (fun _ => false) 0 (some 0)
  | [r] => r
  | r :: rs => seq r (seqs rs)

/-- A literal text, with the equality of characters that counts. -/
def literal (same : Char → Char → Bool) (text : String) : Regex :=
  seqs (text.toList.map fun x => once (same x))

/-- One pattern or another. -/
def alts : List Regex → Regex
  | [] => once fun _ => false
  | [r] => r
  | r :: rs => alt r (alts rs)

/-! ### The functions of `re` -/

/-- `pattern.match(s) is not None`. -/
def matchesPrefix (r : Regex) (s : List Char) : Bool := !(run r (ofText s)).isEmpty

/-- `pattern.fullmatch(s) is not None`. -/
def fullmatch (r : Regex) (s : List Char) : Bool := (run r (ofText s)).any (·.after.isEmpty)

/-- The first match from a position on: where it starts and where it ends. -/
def searchFrom (r : Regex) (before : List Char) : List Char → Option (Cursor × Cursor)
  | [] => (run r ⟨before, [], []⟩).head?.map fun m => (⟨before, [], []⟩, m)
  | x :: s =>
      match (run r ⟨before, x :: s, []⟩).head? with
      | some m => some (⟨before, x :: s, []⟩, m)
      | none => searchFrom r (x :: before) s

/-- `pattern.search(s)`. -/
def search (r : Regex) (s : List Char) : Option (Cursor × Cursor) := searchFrom r [] s

/-- The match at a position, if there is one that is not empty. -/
def hit (r : Regex) (c : Cursor) : Option Cursor :=
  (run r c).head?.filter fun m => m.after.length < c.after.length

/-- A part of a text in which a pattern is looked for: a character between the matches, or a
match from a position to another. -/
inductive Piece
  | kept (x : Char)
  | found (c m : Cursor)

/-- The pieces of a text, with as many steps as allowed. -/
def piecesSteps (r : Regex) : Nat → Cursor → List Piece
  | 0, c => c.after.map .kept
  | n + 1, c =>
      match c.after with
      | [] => []
      | x :: _ =>
          match hit r c with
          | some m => .found c m :: piecesSteps r n m.release
          | none => .kept x :: piecesSteps r n (c.advance 1)

/-- The pieces of a text from a position on. -/
def piecesFrom (r : Regex) (c : Cursor) : List Piece := piecesSteps r c.after.length c

/-- The pieces of a text: its matches from left to right, and what lies between them. -/
def pieces (r : Regex) (s : List Char) : List Piece := piecesFrom r (ofText s)

/-- What becomes of a piece; the replacement sees both ends of a match. -/
def Piece.replace (repl : Cursor → Cursor → List Char) : Piece → List Char
  | kept x => [x]
  | found c m => repl c m

/-- `pattern.sub(repl, s)`, of a pattern that does not match the empty text. -/
def sub (r : Regex) (repl : Cursor → Cursor → List Char) (s : List Char) : List Char :=
  (pieces r s).flatMap (Piece.replace repl)

/-! ### What a success consists of

One equivalence for each pattern, from the run of it to the text that it takes.
-/

theorem le_length_takeWhile_iff {p : Char → Bool} {s : List Char} {k : Nat} :
    k ≤ (s.takeWhile p).length ↔ k ≤ s.length ∧ ∀ x ∈ s.take k, p x := by
  induction s generalizing k with
  | nil => simp
  | cons y s ih =>
      cases k with
      | zero => simp
      | succ k =>
          by_cases hy : p y
          · simp [hy, ih]
          · simp [hy]

theorem le_longest_iff {p : Char → Bool} {max : Option Nat} {s : List Char} {k : Nat} :
    k ≤ longest p max s ↔ k ≤ s.length ∧ (∀ x ∈ s.take k, p x) ∧ ∀ m ∈ max, k ≤ m := by
  cases max with
  | none => simp [longest, le_length_takeWhile_iff]
  | some m =>
      show k ≤ Nat.min (s.takeWhile p).length m ↔ _
      rw [Nat.le_min, le_length_takeWhile_iff]
      simp only [Option.mem_def, Option.some.injEq, forall_eq']
      tauto

theorem mem_run_chars {p : Char → Bool} {min : Nat} {max : Option Nat} {c c' : Cursor} :
    c' ∈ run (chars p min max) c ↔
      ∃ w rest, c.after = w ++ rest ∧ (∀ x ∈ w, p x) ∧ min ≤ w.length ∧ (∀ m ∈ max, w.length ≤ m) ∧
        c' = ⟨w.reverse ++ c.before, rest, c.captured⟩ := by
  simp only [run, List.mem_map, List.mem_reverse, List.mem_filter, List.mem_range, decide_eq_true_eq,
    Nat.lt_succ_iff, le_longest_iff]
  constructor
  · rintro ⟨k, ⟨⟨hk, hp, hmax⟩, hmin⟩, rfl⟩
    have hlen : (c.after.take k).length = k := List.length_take_of_le hk
    exact ⟨c.after.take k, c.after.drop k, (List.take_append_drop ..).symm, hp, hlen.symm ▸ hmin,
      fun m hm => hlen.symm ▸ hmax m hm, rfl⟩
  · rintro ⟨w, rest, hafter, hp, hmin, hmax, rfl⟩
    refine ⟨w.length, ⟨⟨?_, ?_, hmax⟩, hmin⟩, ?_⟩
    · rw [hafter, List.length_append]
      omega
    · rw [hafter, List.take_left]
      exact hp
    · rw [advance, hafter, List.take_left, List.drop_left]

theorem mem_run_once {p : Char → Bool} {c c' : Cursor} :
    c' ∈ run (once p) c ↔
      ∃ x rest, c.after = x :: rest ∧ p x ∧ c' = ⟨x :: c.before, rest, c.captured⟩ := by
  rw [once, mem_run_chars]
  constructor
  · rintro ⟨w, rest, hafter, hp, hmin, hmax, rfl⟩
    obtain ⟨x, rfl⟩ := List.length_eq_one_iff.mp (Nat.le_antisymm (hmax 1 rfl) hmin)
    exact ⟨x, rest, hafter, hp x (List.mem_singleton_self x), rfl⟩
  · rintro ⟨x, rest, hafter, hp, rfl⟩
    exact ⟨[x], rest, hafter, fun y hy => List.mem_singleton.mp hy ▸ hp, Nat.le_refl 1,
      fun m hm => Option.some.inj hm ▸ Nat.le_refl 1, rfl⟩

theorem mem_run_seq {r s : Regex} {c c' : Cursor} :
    c' ∈ run (seq r s) c ↔ ∃ mid ∈ run r c, c' ∈ run s mid := List.mem_flatMap

theorem mem_run_alt {r s : Regex} {c c' : Cursor} :
    c' ∈ run (alt r s) c ↔ c' ∈ run r c ∨ c' ∈ run s c := List.mem_append

theorem mem_run_group {r : Regex} {c c' : Cursor} :
    c' ∈ run (group r) c ↔ ∃ m ∈ run r c, c' = { m with captured := c.upTo m } := by
  simp only [run, List.mem_map, eq_comm]

theorem mem_run_boundary {c c' : Cursor} : c' ∈ run boundary c ↔ c.atBoundary ∧ c' = c := by
  rw [run]
  split <;> simp [*]

theorem mem_run_start {c c' : Cursor} : c' ∈ run start c ↔ c.before = [] ∧ c' = c := by
  rw [run]
  split <;> simp [*]

theorem mem_run_finish {c c' : Cursor} :
    c' ∈ run finish c ↔ (c.after = [] ∨ c.after = ['\n']) ∧ c' = c := by
  rw [run]
  split <;> simp [*]

/-- A success lies further on in the same text. -/
theorem run_split {r : Regex} {c c' : Cursor} (h : c' ∈ run r c) :
    ∃ w, c.after = w ++ c'.after ∧ c'.before = w.reverse ++ c.before := by
  induction r generalizing c c' with
  | chars p min max =>
      obtain ⟨w, rest, hafter, -, -, -, rfl⟩ := mem_run_chars.mp h
      exact ⟨w, hafter, rfl⟩
  | boundary =>
      rw [(mem_run_boundary.mp h).2]
      exact ⟨[], rfl, rfl⟩
  | start =>
      rw [run] at h
      split at h
      · rw [List.mem_singleton.mp h]
        exact ⟨[], rfl, rfl⟩
      · cases h
  | finish =>
      rw [run] at h
      split at h
      · rw [List.mem_singleton.mp h]
        exact ⟨[], rfl, rfl⟩
      · cases h
  | seq r s ihr ihs =>
      obtain ⟨mid, hr, hs⟩ := mem_run_seq.mp h
      obtain ⟨u, hu, hu'⟩ := ihr hr
      obtain ⟨v, hv, hv'⟩ := ihs hs
      exact ⟨u ++ v, by rw [hu, hv, List.append_assoc],
        by rw [hv', hu', List.reverse_append, List.append_assoc]⟩
  | alt r s ihr ihs => exact (mem_run_alt.mp h).elim ihr ihs
  | group r ih =>
      obtain ⟨m, hm, heq⟩ := mem_run_group.mp h
      obtain ⟨w, hafter, hbefore⟩ := ih hm
      rw [heq]
      exact ⟨w, hafter, hbefore⟩

/-- A match moves over the text and changes none of it. -/
theorem run_text {r : Regex} {c c' : Cursor} (h : c' ∈ run r c) : c'.text = c.text := by
  obtain ⟨w, hafter, hbefore⟩ := run_split h
  rw [text, text, hafter, hbefore, List.reverse_append, List.reverse_reverse, List.append_assoc]

theorem upTo_eq {c c' : Cursor} {w : List Char} (h : c.after = w ++ c'.after) : c.upTo c' = w := by
  rw [upTo, h, List.length_append, Nat.add_sub_cancel, List.take_left]

/-! ### First characters

A search can skip the positions where no match can start.
-/

/-- The pattern may match the empty text. -/
def nullable : Regex → Bool
  | chars _ min _ => min = 0
  | boundary | start | finish => true
  | seq r s => nullable r && nullable s
  | alt r s => nullable r || nullable s
  | group r => nullable r

/-- A match that is not empty may begin with the character. -/
def first : Regex → Char → Bool
  | chars p _ _, x => p x
  | boundary, _ | start, _ | finish, _ => false
  | seq r s, x => first r x || (nullable r && first s x)
  | alt r s, x => first r x || first s x
  | group r, x => first r x

/-- A success is empty, or begins with a first character. -/
theorem first_of_run {r : Regex} {c c' : Cursor} (h : c' ∈ run r c) :
    (nullable r ∧ c'.after = c.after) ∨ ∃ x s, c.after = x :: s ∧ first r x := by
  induction r generalizing c c' with
  | chars p min max =>
      obtain ⟨w, rest, hafter, hp, hmin, -, rfl⟩ := mem_run_chars.mp h
      cases w with
      | nil => exact Or.inl ⟨decide_eq_true (Nat.le_zero.mp hmin), hafter.symm⟩
      | cons x w => exact Or.inr ⟨x, w ++ rest, hafter, hp x List.mem_cons_self⟩
  | boundary => exact Or.inl ⟨rfl, by rw [(mem_run_boundary.mp h).2]⟩
  | start =>
      rw [run] at h
      split at h
      · exact Or.inl ⟨rfl, by rw [List.mem_singleton.mp h]⟩
      · cases h
  | finish =>
      rw [run] at h
      split at h
      · exact Or.inl ⟨rfl, by rw [List.mem_singleton.mp h]⟩
      · cases h
  | seq r s ihr ihs =>
      obtain ⟨mid, hr, hs⟩ := mem_run_seq.mp h
      rcases ihr hr with ⟨hnull, hmid⟩ | ⟨x, t, hafter, hx⟩
      · rcases ihs hs with ⟨hnull', hafter⟩ | ⟨x, t, hafter, hx⟩
        · exact Or.inl ⟨by rw [nullable, hnull, hnull']; rfl, hafter.trans hmid⟩
        · exact Or.inr ⟨x, t, hmid ▸ hafter, by rw [first, hnull, hx, Bool.and_self, Bool.or_true]⟩
      · exact Or.inr ⟨x, t, hafter, by rw [first, hx, Bool.true_or]⟩
  | alt r s ihr ihs =>
      rcases mem_run_alt.mp h with h | h
      · rcases ihr h with ⟨hnull, hafter⟩ | ⟨x, t, hafter, hx⟩
        · exact Or.inl ⟨by rw [nullable, hnull, Bool.true_or], hafter⟩
        · exact Or.inr ⟨x, t, hafter, by rw [first, hx, Bool.true_or]⟩
      · rcases ihs h with ⟨hnull, hafter⟩ | ⟨x, t, hafter, hx⟩
        · exact Or.inl ⟨by rw [nullable, hnull, Bool.or_true], hafter⟩
        · exact Or.inr ⟨x, t, hafter, by rw [first, hx, Bool.or_true]⟩
  | group r ih =>
      obtain ⟨m, hm, rfl⟩ := mem_run_group.mp h
      have hrun := ih hm
      exact hrun

/-! ### Searching -/

/-- What a search finds is a match in the text. -/
theorem searchFrom_some {r : Regex} {before s : List Char} {c m : Cursor}
    (h : searchFrom r before s = some (c, m)) :
    m ∈ run r c ∧ c.before.reverse ++ c.after = before.reverse ++ s := by
  induction s generalizing before with
  | nil =>
      obtain ⟨m', hm', heq⟩ := Option.map_eq_some_iff.mp h
      obtain ⟨rfl, rfl⟩ := Prod.mk.inj heq
      exact ⟨List.mem_of_head? hm', rfl⟩
  | cons x s ih =>
      rw [searchFrom] at h
      split at h
      · next m' hm' =>
          obtain ⟨rfl, rfl⟩ := Prod.mk.inj (Option.some.inj h)
          exact ⟨List.mem_of_head? hm', rfl⟩
      · obtain ⟨hrun, htext⟩ := ih h
        exact ⟨hrun, by rw [htext, List.reverse_cons, List.append_assoc]; rfl⟩

theorem searchFrom_isSome_iff {r : Regex} {before s : List Char} :
    (searchFrom r before s).isSome ↔
      ∃ u v, s = u ++ v ∧ run r ⟨u.reverse ++ before, v, []⟩ ≠ [] := by
  have hhead : ∀ {l : List Cursor} {c : Cursor},
      (l.head?.map fun m => (c, m)).isSome ↔ l ≠ [] := by
    intro l c
    rw [Option.isSome_map, List.isSome_head?]
  induction s generalizing before with
  | nil =>
      rw [searchFrom, hhead]
      constructor
      · exact fun h => ⟨[], [], rfl, h⟩
      · rintro ⟨u, v, huv, h⟩
        obtain ⟨rfl, rfl⟩ := List.append_eq_nil_iff.mp huv.symm
        exact h
  | cons x s ih =>
      rw [searchFrom]
      cases hfirst : (run r ⟨before, x :: s, []⟩).head? with
      | some m =>
          refine iff_of_true rfl ⟨[], x :: s, rfl, ?_⟩
          intro hnil
          rw [List.reverse_nil, List.nil_append] at hnil
          rw [hnil] at hfirst
          cases hfirst
      | none =>
          refine ih.trans ?_
          constructor
          · rintro ⟨u, v, rfl, h⟩
            exact ⟨x :: u, v, rfl, by rwa [List.reverse_cons, List.append_assoc]⟩
          · rintro ⟨u, v, huv, h⟩
            cases u with
            | nil =>
                obtain rfl : x :: s = v := huv
                exact absurd (List.head?_eq_none_iff.mp hfirst) h
            | cons y u =>
                obtain ⟨rfl, rfl⟩ := List.cons.inj huv
                exact ⟨u, v, rfl, by rwa [List.reverse_cons, List.append_assoc] at h⟩

theorem search_isSome_iff {r : Regex} {s : List Char} :
    (search r s).isSome ↔ ∃ u v, s = u ++ v ∧ run r ⟨u.reverse, v, []⟩ ≠ [] := by
  rw [search, searchFrom_isSome_iff]
  simp only [List.append_nil]

/-! ### Literal texts -/

theorem mem_run_seqs_nil {c c' : Cursor} : c' ∈ run (seqs []) c ↔ c' = c := by
  rw [seqs, mem_run_chars]
  constructor
  · rintro ⟨w, rest, hafter, -, -, hmax, rfl⟩
    obtain rfl : w = [] := List.length_eq_zero_iff.mp (Nat.le_zero.mp (hmax 0 rfl))
    rw [← List.nil_append rest, ← hafter]
    rfl
  · rintro rfl
    exact ⟨[], c'.after, rfl, by simp, Nat.le_refl 0, by simp, rfl⟩

theorem mem_run_seqs_cons {r : Regex} {rs : List Regex} {c c' : Cursor} :
    c' ∈ run (seqs (r :: rs)) c ↔ ∃ mid ∈ run r c, c' ∈ run (seqs rs) mid := by
  cases rs with
  | nil =>
      simp only [mem_run_seqs_nil]
      exact ⟨fun h => ⟨c', h, rfl⟩, fun ⟨_, h, heq⟩ => heq ▸ h⟩
  | cons s rs => exact mem_run_seq

theorem mem_run_literal {same : Char → Char → Bool} {text : String} {c c' : Cursor} :
    c' ∈ run (literal same text) c ↔
      ∃ w rest, c.after = w ++ rest ∧ List.Forall₂ (fun x y => same x y) text.toList w ∧
        c' = ⟨w.reverse ++ c.before, rest, c.captured⟩ := by
  rw [literal]
  induction text.toList generalizing c with
  | nil =>
      rw [List.map_nil, mem_run_seqs_nil]
      constructor
      · rintro rfl
        exact ⟨[], c'.after, rfl, .nil, rfl⟩
      · rintro ⟨w, rest, hafter, hsame, rfl⟩
        obtain rfl := List.forall₂_nil_left_iff.mp hsame
        rw [← List.nil_append rest, ← hafter]
        rfl
  | cons x t ih =>
      rw [List.map_cons, mem_run_seqs_cons]
      constructor
      · rintro ⟨mid, hmid, h⟩
        obtain ⟨y, rest, hafter, hy, rfl⟩ := mem_run_once.mp hmid
        obtain ⟨w, rest', hrest, hsame, rfl⟩ := ih.mp h
        refine ⟨y :: w, rest', ?_, .cons hy hsame, ?_⟩
        · rw [hafter, List.cons_append, ← hrest]
        · rw [List.reverse_cons, List.append_assoc]
          rfl
      · rintro ⟨w, rest, hafter, hsame, rfl⟩
        obtain ⟨y, w, hy, hrest, rfl⟩ := List.forall₂_cons_left_iff.mp hsame
        refine ⟨⟨y :: c.before, w ++ rest, c.captured⟩,
          mem_run_once.mpr ⟨y, w ++ rest, hafter, hy, rfl⟩, ih.mpr ⟨w, rest, rfl, hrest, ?_⟩⟩
        rw [List.reverse_cons, List.append_assoc]
        rfl

theorem mem_run_literal_exact {text : String} {c c' : Cursor} :
    c' ∈ run (literal exact text) c ↔
      ∃ rest, c.after = text.toList ++ rest ∧
        c' = ⟨text.toList.reverse ++ c.before, rest, c.captured⟩ := by
  have hsame : ∀ {v w : List Char}, List.Forall₂ (fun x y => exact x y) v w ↔ v = w := by
    intro v w
    simp only [exact, decide_eq_true_eq, List.forall₂_eq_eq_eq]
  simp only [mem_run_literal, hsame]
  constructor
  · rintro ⟨w, rest, hafter, rfl, h⟩
    exact ⟨rest, hafter, h⟩
  · rintro ⟨rest, hafter, h⟩
    exact ⟨_, rest, hafter, rfl, h⟩

/-! ### The pieces of a text

A text is what a search keeps of it and what it finds, in turn.
-/

section Pieces

variable {r : Regex}

theorem mem_of_hit {c m : Cursor} (h : hit r c = some m) : m ∈ run r c := by
  obtain ⟨hhead, -⟩ := Option.filter_eq_some_iff.mp h
  exact List.mem_of_head? hhead

theorem lt_of_hit {c m : Cursor} (h : hit r c = some m) : m.after.length < c.after.length := by
  obtain ⟨-, hlt⟩ := Option.filter_eq_some_iff.mp h
  exact of_decide_eq_true hlt

/-- A step for every character is enough. -/
theorem piecesSteps_stable {n k : Nat} {c : Cursor} (hn : c.after.length ≤ n)
    (hk : c.after.length ≤ k) : piecesSteps r n c = piecesSteps r k c := by
  induction n generalizing k c with
  | zero =>
      have hnil : c.after = [] := List.length_eq_zero_iff.mp (Nat.le_zero.mp hn)
      cases k with
      | zero => rfl
      | succ k =>
          rw [piecesSteps, piecesSteps, hnil]
          rfl
  | succ n ih =>
      cases k with
      | zero =>
          have hnil : c.after = [] := List.length_eq_zero_iff.mp (Nat.le_zero.mp hk)
          rw [piecesSteps, piecesSteps, hnil]
          rfl
      | succ k =>
          cases hafter : c.after with
          | nil => rw [piecesSteps, piecesSteps, hafter]
          | cons x s =>
              rw [hafter, List.length_cons] at hn hk
              rw [piecesSteps, piecesSteps, hafter]
              cases hhit : hit r c with
              | none =>
                  have hadv : (c.advance 1).after = s := by rw [advance, hafter]; rfl
                  exact congrArg (Piece.kept x :: ·) (ih (by rw [hadv]; omega) (by rw [hadv]; omega))
              | some m =>
                  have hlt := lt_of_hit hhit
                  rw [hafter, List.length_cons] at hlt
                  exact congrArg (Piece.found c m :: ·) (ih (show m.release.after.length ≤ n from
                    Nat.le_of_lt_succ (Nat.lt_of_lt_of_le hlt hn)) (Nat.le_of_lt_succ
                      (Nat.lt_of_lt_of_le hlt hk)))

theorem piecesFrom_nil {c : Cursor} (h : c.after = []) : piecesFrom r c = [] := by
  rw [piecesFrom, h, List.length_nil, piecesSteps, h]
  rfl

/-- At a match, the search goes on behind it. -/
theorem piecesFrom_hit {c m : Cursor} (h : hit r c = some m) :
    piecesFrom r c = .found c m :: piecesFrom r m.release := by
  have hlt := lt_of_hit h
  cases hafter : c.after with
  | nil =>
      rw [hafter, List.length_nil] at hlt
      omega
  | cons x s =>
      rw [hafter, List.length_cons] at hlt
      rw [piecesFrom, hafter, List.length_cons, piecesSteps, hafter, h]
      exact congrArg (Piece.found c m :: ·)
        (piecesSteps_stable (show m.release.after.length ≤ s.length from Nat.le_of_lt_succ hlt)
          (Nat.le_refl _))

/-- Elsewhere the character is kept. -/
theorem piecesFrom_miss {c : Cursor} {x : Char} {s : List Char} (hafter : c.after = x :: s)
    (h : hit r c = none) :
    piecesFrom r c = .kept x :: piecesFrom r ⟨x :: c.before, s, c.captured⟩ := by
  have hadv : c.advance 1 = ⟨x :: c.before, s, c.captured⟩ := by
    rw [advance, hafter]
    rfl
  rw [piecesFrom, hafter, List.length_cons, piecesSteps, hafter, h]
  show _ :: piecesSteps r s.length (c.advance 1) = _
  rw [hadv]
  rfl

/-- Induction from the end of a text to its beginning, piece by piece. -/
theorem pieces_induction {motive : Cursor → Prop} (done : ∀ c, c.after = [] → motive c)
    (found : ∀ c m, hit r c = some m → motive m.release → motive c)
    (kept : ∀ c x s, c.after = x :: s → hit r c = none →
      motive ⟨x :: c.before, s, c.captured⟩ → motive c) (c : Cursor) : motive c := by
  induction hn : c.after.length using Nat.strong_induction_on generalizing c with
  | _ n ih =>
    cases hafter : c.after with
    | nil => exact done c hafter
    | cons x s =>
        cases hhit : hit r c with
        | some m => exact found c m hhit (ih m.after.length (hn ▸ lt_of_hit hhit) m.release rfl)
        | none =>
            refine kept c x s hafter hhit (ih s.length ?_ _ rfl)
            rw [← hn, hafter, List.length_cons]
            omega

/-- Every match that is listed is one. -/
theorem hit_of_found {c m : Cursor} {d : Cursor} (h : .found c m ∈ piecesFrom r d) :
    hit r c = some m := by
  induction d using pieces_induction (r := r) with
  | done d hafter =>
      rw [piecesFrom_nil hafter] at h
      cases h
  | found d e hhit ih =>
      rw [piecesFrom_hit hhit] at h
      rcases List.mem_cons.mp h with heq | h
      · obtain ⟨rfl, rfl⟩ := Piece.found.inj heq
        exact hhit
      · exact ih h
  | kept d x s hafter hhit ih =>
      rw [piecesFrom_miss hafter hhit] at h
      rcases List.mem_cons.mp h with heq | h
      · cases heq
      · exact ih h

/-- A match that is listed lies in the text, and its group is not known before it. -/
theorem text_of_found {c m d : Cursor} (h : .found c m ∈ piecesFrom r d) (hd : d.captured = []) :
    c.text = d.text ∧ c.captured = [] := by
  induction d using pieces_induction (r := r) with
  | done d hafter =>
      rw [piecesFrom_nil hafter] at h
      cases h
  | found d e hhit ih =>
      rw [piecesFrom_hit hhit] at h
      rcases List.mem_cons.mp h with heq | h
      · obtain ⟨rfl, -⟩ := Piece.found.inj heq
        exact ⟨rfl, hd⟩
      · obtain ⟨htext, hcaptured⟩ := ih h rfl
        have hmatch : e.text = d.text := run_text (mem_of_hit hhit)
        exact ⟨htext.trans hmatch, hcaptured⟩
  | kept d x s hafter hhit ih =>
      rw [piecesFrom_miss hafter hhit] at h
      rcases List.mem_cons.mp h with heq | h
      · cases heq
      · obtain ⟨htext, hcaptured⟩ := ih h hd
        refine ⟨htext.trans ?_, hcaptured⟩
        rw [text, text, hafter, List.reverse_cons, List.append_assoc]
        rfl

/-- A text in which nothing is found has no match among its pieces. -/
theorem found_notMem_of_search {s : List Char} (h : search r s = none) (c m : Cursor) :
    .found c m ∉ pieces r s := by
  intro hfound
  obtain ⟨htext, hcaptured⟩ := text_of_found hfound rfl
  have hsome : (search r s).isSome := by
    refine search_isSome_iff.mpr ⟨c.before.reverse, c.after, htext.symm, ?_⟩
    rw [List.reverse_reverse, ← hcaptured]
    exact List.ne_nil_of_mem (mem_of_hit (hit_of_found hfound))
  rw [h] at hsome
  cases hsome

/-- The pieces make up the text. -/
theorem piecesFrom_text (d : Cursor) : (piecesFrom r d).flatMap (Piece.replace upTo) = d.after := by
  induction d using pieces_induction (r := r) with
  | done d hafter => rw [piecesFrom_nil hafter, hafter]; rfl
  | found d m hhit ih =>
      obtain ⟨w, hafter, -⟩ := run_split (mem_of_hit hhit)
      rw [piecesFrom_hit hhit, List.flatMap_cons, ih, Piece.replace, upTo_eq hafter, hafter]
      rfl
  | kept d x s hafter hhit ih =>
      rw [piecesFrom_miss hafter hhit, List.flatMap_cons, ih, hafter]
      rfl

/-- Characters that no match can begin with are kept. -/
theorem replaced_keep {repl : Cursor → Cursor → List Char} {u v before : List Char}
    (h : ∀ x ∈ u, first r x = false) :
    (piecesFrom r ⟨before, u ++ v, []⟩).flatMap (Piece.replace repl) =
      u ++ (piecesFrom r ⟨u.reverse ++ before, v, []⟩).flatMap (Piece.replace repl) := by
  induction u generalizing before with
  | nil => rfl
  | cons x u ih =>
      have hmiss : hit r ⟨before, x :: (u ++ v), []⟩ = none := by
        refine Option.eq_none_iff_forall_ne_some.mpr fun m hm => ?_
        rcases first_of_run (mem_of_hit hm) with ⟨-, hafter⟩ | ⟨y, s, hafter, hy⟩
        · exact absurd (lt_of_hit hm) (by rw [hafter]; exact Nat.lt_irrefl _)
        · obtain ⟨rfl, -⟩ := List.cons.inj hafter
          rw [h x List.mem_cons_self] at hy
          cases hy
      rw [List.cons_append, piecesFrom_miss rfl hmiss, List.flatMap_cons,
        ih fun y hy => h y (List.mem_cons_of_mem x hy), List.reverse_cons, List.append_assoc]
      rfl

theorem infix_flatMap {α β : Type} (f : α → List β) {l : List α} {a : α} (h : a ∈ l) :
    f a <:+: l.flatMap f := by
  obtain ⟨u, v, rfl⟩ := List.append_of_mem h
  exact ⟨u.flatMap f, v.flatMap f, by simp⟩

/-- What replaces a match stands in the result. -/
theorem infix_sub {repl : Cursor → Cursor → List Char} {s : List Char} {c m : Cursor}
    (h : .found c m ∈ pieces r s) : repl c m <:+: sub r repl s :=
  infix_flatMap (Piece.replace repl) h

/-- A text without a match stays as it is. -/
theorem sub_eq_self {repl : Cursor → Cursor → List Char} {s : List Char}
    (h : ∀ c m, .found c m ∉ pieces r s) : sub r repl s = s := by
  have htext : (pieces r s).flatMap (Piece.replace upTo) = s := piecesFrom_text (ofText s)
  calc sub r repl s = (pieces r s).flatMap (Piece.replace upTo) := by
        refine List.flatMap_congr fun piece hpiece => ?_
        cases piece with
        | kept x => rfl
        | found c m => exact absurd hpiece (h c m)
    _ = s := htext

end Pieces

end Regex

end CartoonDemo
