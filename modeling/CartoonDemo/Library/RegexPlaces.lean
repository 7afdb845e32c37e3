import Mathlib.Data.Bool.Basic
import CartoonDemo.Library.Regex

/-!
# CartoonDemo.Library.RegexPlaces

**Where a pattern can match**, and how much longer a substitution can make a text. A pattern often
begins with a part that is easier to look for, its *head*; each match takes up one of the places of
the head.

* `matches_before`: a match that cannot contain a character ends before it;
* `length_sub_le`: a substitution adds at most so much for each place of the head;
* `Replaced.places_le`: what is put into a text adds no place;
* `replaced_alike`: of what stands before a text, only the last character matters.
-/

namespace CartoonDemo

namespace Regex

open Cursor

/-! ### Patterns that avoid a character

A match of such a pattern ends before the character.
-/

/-- The pattern has no anchor, and none of its classes contains the character. -/
def avoids (y : Char) : Regex → Bool
  | chars p _ _ => !p y
  | boundary | start | finish => false
  | seq r s => avoids y r && avoids y s
  | alt r s => avoids y r && avoids y s
  | group r => avoids y r

/-- What is matched does not contain the character, and is matched before any other text. -/
theorem read_of_run {y : Char} {r : Regex} (h : avoids y r) {c m : Cursor} (hrun : m ∈ run r c) :
    ∃ w, c.after = w ++ m.after ∧ y ∉ w ∧
      ∀ (d : Cursor) rest, d.after = w ++ rest → ∃ e ∈ run r d, e.after = rest := by
  induction r generalizing c m with
  | chars p min max =>
      obtain ⟨w, rest, hafter, hp, hmin, hmax, rfl⟩ := mem_run_chars.mp hrun
      refine ⟨w, hafter, fun hy => ?_, fun d rest' hd => ?_⟩
      · rw [avoids, hp y hy] at h
        cases h
      · exact ⟨_, mem_run_chars.mpr ⟨w, rest', hd, hp, hmin, hmax, rfl⟩, rfl⟩
  | boundary => cases h
  | start => cases h
  | finish => cases h
  | seq r s ihr ihs =>
      obtain ⟨hr, hs⟩ := Bool.and_eq_true_iff.mp h
      obtain ⟨mid, hmid, hend⟩ := mem_run_seq.mp hrun
      obtain ⟨u, hu, hyu, hread⟩ := ihr hr hmid
      obtain ⟨v, hv, hyv, hread'⟩ := ihs hs hend
      refine ⟨u ++ v, by rw [hu, hv, List.append_assoc], ?_, fun d rest hd => ?_⟩
      · rw [List.mem_append]
        exact fun hy => hy.elim hyu hyv
      · obtain ⟨e, he, heafter⟩ := hread d (v ++ rest) (by rw [hd, List.append_assoc])
        obtain ⟨e', he', hrest⟩ := hread' e rest heafter
        exact ⟨e', mem_run_seq.mpr ⟨e, he, he'⟩, hrest⟩
  | alt r s ihr ihs =>
      obtain ⟨hr, hs⟩ := Bool.and_eq_true_iff.mp h
      rcases mem_run_alt.mp hrun with hrun | hrun
      · obtain ⟨w, hafter, hy, hread⟩ := ihr hr hrun
        refine ⟨w, hafter, hy, fun d rest hd => ?_⟩
        obtain ⟨e, he, hrest⟩ := hread d rest hd
        exact ⟨e, mem_run_alt.mpr (Or.inl he), hrest⟩
      · obtain ⟨w, hafter, hy, hread⟩ := ihs hs hrun
        refine ⟨w, hafter, hy, fun d rest hd => ?_⟩
        obtain ⟨e, he, hrest⟩ := hread d rest hd
        exact ⟨e, mem_run_alt.mpr (Or.inr he), hrest⟩
  | group r ih =>
      obtain ⟨m', hm', rfl⟩ := mem_run_group.mp hrun
      obtain ⟨w, hafter, hy, hread⟩ := ih h hm'
      refine ⟨w, hafter, hy, fun d rest hd => ?_⟩
      obtain ⟨e, he, hrest⟩ := hread d rest hd
      exact ⟨_, mem_run_group.mpr ⟨e, he, rfl⟩, hrest⟩

theorem matchesPrefix_iff {r : Regex} {s : List Char} :
    matchesPrefix r s ↔ ∃ m, m ∈ run r (ofText s) := by
  rw [matchesPrefix, Bool.not_eq_true', List.isEmpty_eq_false_iff_exists_mem]

/-- A pattern without anchors matches whatever stands before. -/
theorem matches_of_run {y : Char} {r : Regex} (h : avoids y r) {c m : Cursor} (hrun : m ∈ run r c) :
    matchesPrefix r c.after := by
  obtain ⟨w, hafter, -, hread⟩ := read_of_run h hrun
  obtain ⟨e, he, -⟩ := hread (ofText c.after) m.after hafter
  exact matchesPrefix_iff.mpr ⟨e, he⟩

/-- A match that cannot contain a character ends before it, so what follows does not matter. -/
theorem matches_before {y : Char} {r : Regex} (h : avoids y r) {u t : List Char}
    (hmatch : matchesPrefix r (u ++ y :: t)) (s : List Char) : matchesPrefix r (u ++ s) := by
  obtain ⟨m, hm⟩ := matchesPrefix_iff.mp hmatch
  obtain ⟨w, hafter, hy, hread⟩ := read_of_run h hm
  obtain ⟨v, rfl⟩ : ∃ v, u = w ++ v := by
    rcases List.append_eq_append_iff.mp (show u ++ y :: t = w ++ m.after from hafter) with
      ⟨v, hw, hv⟩ | ⟨v, hu, -⟩
    · cases v with
      | nil => exact ⟨[], by rw [hw, List.append_nil, List.append_nil]⟩
      | cons z v =>
          obtain ⟨rfl, -⟩ := List.cons.inj hv
          exact absurd (by rw [hw]; simp) hy
    · exact ⟨v, hu⟩
  obtain ⟨e, he, -⟩ := hread (ofText (w ++ v ++ s)) (v ++ s) (List.append_assoc w v s)
  exact matchesPrefix_iff.mpr ⟨e, he⟩

/-! ### A part at the beginning -/

theorem mem_run_seqs_append {rs rs' : List Regex} {c m : Cursor} :
    m ∈ run (seqs (rs ++ rs')) c ↔ ∃ mid ∈ run (seqs rs) c, m ∈ run (seqs rs') mid := by
  induction rs generalizing c with
  | nil =>
      simp only [List.nil_append, mem_run_seqs_nil, exists_eq_left]
  | cons r rs ih =>
      simp only [List.cons_append, mem_run_seqs_cons, ih]
      constructor
      · rintro ⟨mid, hmid, mid', hmid', hm⟩
        exact ⟨mid', ⟨mid, hmid, hmid'⟩, hm⟩
      · rintro ⟨mid', ⟨mid, hmid, hmid'⟩, hm⟩
        exact ⟨mid, hmid, mid', hmid', hm⟩

/-- A label, `\s*` and one of two characters, where one of them comes next: it is read before, or
it is the one that ends the match, which then may be preceded by more space. -/
theorem matches_delimited {label : Regex} {space mark : Char → Bool} {x : Char} {u t : List Char}
    (hlabel : avoids x label) (hspace : space x = false)
    (hmatch : matchesPrefix (seqs [label, chars space 0 none, once mark]) (u ++ x :: t))
    {v : List Char} (hv : ∀ z ∈ v, space z) {y : Char} (hy : mark y) (s : List Char) :
    matchesPrefix (seqs [label, chars space 0 none, once mark]) (u ++ (v ++ y :: s)) := by
  obtain ⟨m, hm⟩ := matchesPrefix_iff.mp hmatch
  obtain ⟨c₁, hc₁, hm⟩ := mem_run_seqs_cons.mp hm
  obtain ⟨c₂, hc₂, hm⟩ := mem_run_seqs_cons.mp hm
  obtain ⟨l, hl, hxl, hread⟩ := read_of_run hlabel hc₁
  obtain ⟨w, rest, hw, hpw, -, -, rfl⟩ := mem_run_chars.mp hc₂
  obtain ⟨z, rest', hz, hmark, -⟩ := mem_run_once.mp hm
  obtain rfl : rest = z :: rest' := hz
  have hxw : x ∉ w := fun hx => by rw [hpw x hx] at hspace; cases hspace
  have htext : u ++ x :: t = (l ++ w) ++ z :: rest' := by
    rw [List.append_assoc, ← hw]
    exact hl
  -- a text that begins like this one up to the mark is matched
  have hend : ∀ {w'} {z' : Char} {rest : List Char}, (∀ z ∈ w', space z) → mark z' →
      matchesPrefix (seqs [label, chars space 0 none, once mark]) (l ++ (w' ++ z' :: rest)) := by
    intro w' z' rest hw' hz'
    obtain ⟨e, he, heafter⟩ := hread (ofText (l ++ (w' ++ z' :: rest))) (w' ++ z' :: rest) rfl
    exact matchesPrefix_iff.mpr ⟨_, mem_run_seqs_cons.mpr ⟨e, he, mem_run_seqs_cons.mpr
      ⟨_, mem_run_chars.mpr ⟨w', z' :: rest, heafter, hw', Nat.zero_le _, by simp, rfl⟩,
        mem_run_once.mpr ⟨z', rest, rfl, hz', rfl⟩⟩⟩⟩
  rcases List.append_eq_append_iff.mp htext with ⟨a, hlw, ha⟩ | ⟨a, hu, ha⟩
  · cases a with
    | nil =>
        rw [List.append_nil] at hlw
        rw [← hlw, List.append_assoc, ← List.append_assoc w]
        exact hend (fun b hb => (List.mem_append.mp hb).elim (hpw b) (hv b)) hy
    | cons b a =>
        obtain ⟨rfl, -⟩ := List.cons.inj ha
        have hx : x ∈ l ++ w := by rw [hlw]; simp
        exact absurd (List.mem_append.mp hx) (not_or.mpr ⟨hxl, hxw⟩)
  · cases a with
    | nil =>
        rw [List.append_nil] at hu
        rw [hu, List.append_assoc, ← List.append_assoc w]
        exact hend (fun b hb => (List.mem_append.mp hb).elim (hpw b) (hv b)) hy
    | cons b a =>
        obtain ⟨rfl, -⟩ := List.cons.inj ha
        rw [hu, List.append_assoc, List.append_assoc]
        exact hend hpw hmark

/-! ### Lengths of matches -/

/-- The least length of a match. -/
def minLength : Regex → ℕ
  | chars _ min _ => min
  | boundary | start | finish => 0
  | seq r s => minLength r + minLength s
  | alt r s => Nat.min (minLength r) (minLength s)
  | group r => minLength r

theorem minLength_le {r : Regex} {c m : Cursor} (h : m ∈ run r c) :
    minLength r + m.after.length ≤ c.after.length := by
  induction r generalizing c m with
  | chars p min max =>
      obtain ⟨w, rest, hafter, -, hmin, -, rfl⟩ := mem_run_chars.mp h
      rw [hafter, List.length_append, minLength]
      exact Nat.add_le_add_right hmin rest.length
  | boundary => rw [(mem_run_boundary.mp h).2, minLength, Nat.zero_add]
  | start => rw [(mem_run_start.mp h).2, minLength, Nat.zero_add]
  | finish => rw [(mem_run_finish.mp h).2, minLength, Nat.zero_add]
  | seq r s ihr ihs =>
      obtain ⟨mid, hr, hs⟩ := mem_run_seq.mp h
      have := ihr hr
      have := ihs hs
      rw [minLength]
      omega
  | alt r s ihr ihs =>
      rw [minLength]
      rcases mem_run_alt.mp h with h | h
      · exact le_trans (Nat.add_le_add_right (Nat.min_le_left _ _) _) (ihr h)
      · exact le_trans (Nat.add_le_add_right (Nat.min_le_right _ _) _) (ihs h)
  | group r ih =>
      obtain ⟨m', hm', rfl⟩ := mem_run_group.mp h
      have hle := ih hm'
      exact hle

/-- The pattern leaves the group alone. -/
def groupless : Regex → Bool
  | chars _ _ _ | boundary | start | finish => true
  | seq r s | alt r s => groupless r && groupless s
  | group _ => false

theorem captured_of_run {r : Regex} (h : groupless r) {c m : Cursor} (hrun : m ∈ run r c) :
    m.captured = c.captured := by
  induction r generalizing c m with
  | chars p min max =>
      obtain ⟨w, rest, -, -, -, -, rfl⟩ := mem_run_chars.mp hrun
      rfl
  | boundary => rw [(mem_run_boundary.mp hrun).2]
  | start => rw [(mem_run_start.mp hrun).2]
  | finish => rw [(mem_run_finish.mp hrun).2]
  | seq r s ihr ihs =>
      obtain ⟨hr, hs⟩ := Bool.and_eq_true_iff.mp h
      obtain ⟨mid, hmid, hend⟩ := mem_run_seq.mp hrun
      exact (ihs hs hend).trans (ihr hr hmid)
  | alt r s ihr ihs =>
      obtain ⟨hr, hs⟩ := Bool.and_eq_true_iff.mp h
      exact (mem_run_alt.mp hrun).elim (ihr hr) (ihs hs)
  | group r => cases h

theorem length_upTo {r : Regex} {c m : Cursor} (h : m ∈ run r c) :
    (c.upTo m).length + m.after.length = c.after.length := by
  obtain ⟨w, hafter, -⟩ := run_split h
  rw [upTo_eq hafter, hafter, List.length_append]

/-! ### Places

How often a replacement can take place, counted without running it.
-/

/-- At how many places of a text the pattern matches. -/
def places (r : Regex) : List Char → ℕ
  | [] => 0
  | x :: s => (matchesPrefix r (x :: s)).toNat + places r s

theorem places_le_append (r : Regex) (u s : List Char) : places r s ≤ places r (u ++ s) := by
  induction u with
  | nil => exact Nat.le_refl _
  | cons x u ih => exact le_trans ih (Nat.le_add_left _ _)

/-- A place where the pattern matches, and those behind it. -/
theorem places_lt_append {r : Regex} {x : Char} {u s : List Char}
    (h : matchesPrefix r (x :: (u ++ s))) : places r s < places r (x :: (u ++ s)) := by
  have := places_le_append r u s
  rw [places, h, Bool.toNat_true]
  omega

/-- No place begins with a character that no match can begin with. -/
theorem places_keep {r : Regex} {u : List Char} (hfirst : ∀ x ∈ u, first r x = false)
    (hnull : nullable r = false) (s : List Char) : places r (u ++ s) = places r s := by
  induction u with
  | nil => rfl
  | cons x u ih =>
      have hmiss : matchesPrefix r (x :: (u ++ s)) = false := by
        rw [Bool.eq_false_iff]
        intro hmatch
        obtain ⟨m, hm⟩ := matchesPrefix_iff.mp hmatch
        rcases first_of_run hm with ⟨hempty, -⟩ | ⟨y, t, hafter, hy⟩
        · rw [hnull] at hempty
          cases hempty
        · obtain ⟨rfl, -⟩ := List.cons.inj (show x :: (u ++ s) = y :: t from hafter)
          rw [hfirst x List.mem_cons_self] at hy
          cases hy
      rw [List.cons_append, places, hmiss, Bool.toNat_false, Nat.zero_add]
      exact ih fun y hy => hfirst y (List.mem_cons_of_mem x hy)

/-- A head that ends with a class has no place in a text without its characters. -/
theorem places_eq_zero (rs : List Regex) {p : Char → Bool} {min : ℕ} {max : Option ℕ}
    (hmin : 0 < min) {s : List Char} (h : ∀ x ∈ s, p x = false) :
    places (seqs (rs ++ [chars p min max])) s = 0 := by
  have hmiss : ∀ u, (∀ x ∈ u, p x = false) →
      matchesPrefix (seqs (rs ++ [chars p min max])) u = false := by
    intro u hu
    rw [Bool.eq_false_iff]
    intro hmatch
    obtain ⟨m, hm⟩ := matchesPrefix_iff.mp hmatch
    obtain ⟨mid, hmid, hend⟩ := mem_run_seqs_append.mp hm
    obtain ⟨v, hv, -⟩ := run_split hmid
    obtain ⟨w, rest, hw, hp, hlength, -, -⟩ := mem_run_chars.mp hend
    obtain ⟨x, hx⟩ := List.exists_mem_of_length_pos (Nat.lt_of_lt_of_le hmin hlength)
    have hxu : x ∈ u := by
      rw [show u = v ++ mid.after from hv, hw]
      simp [hx]
    have hpx := hp x hx
    rw [hu x hxu] at hpx
    cases hpx
  induction s with
  | nil => rfl
  | cons x s ih =>
      rw [places, hmiss (x :: s) h, ih fun y hy => h y (List.mem_cons_of_mem x hy)]
      rfl

theorem not_matches_of_places {r : Regex} {x : Char} {s : List Char} (h : places r (x :: s) = 0) :
    ¬ matchesPrefix r (x :: s) := by
  rw [places] at h
  exact Bool.eq_false_iff.mp (Bool.toNat_eq_zero.mp (Nat.eq_zero_of_add_eq_zero_right h))

/-- No place begins in a text that ends with an avoided character, if the text alone has none. -/
theorem places_append_le {y : Char} {head : Regex} (h : avoids y head) {p : List Char}
    (hnone : places head (p ++ [y]) = 0) (t : List Char) :
    places head (p ++ y :: t) ≤ places head t := by
  induction p with
  | nil =>
      have hmiss : matchesPrefix head (y :: t) = false :=
        Bool.eq_false_iff.mpr fun hmatch =>
          not_matches_of_places hnone (matches_before (u := []) h hmatch [y])
      rw [List.nil_append, places, hmiss, Bool.toNat_false, Nat.zero_add]
  | cons x p ih =>
      rw [List.cons_append] at hnone
      have hmiss : matchesPrefix head (x :: (p ++ y :: t)) = false :=
        Bool.eq_false_iff.mpr fun hmatch =>
          not_matches_of_places hnone (matches_before (u := x :: p) h hmatch [y])
      have hrest : places head (p ++ [y]) = 0 := by
        rw [places] at hnone
        exact Nat.eq_zero_of_add_eq_zero_left hnone
      rw [List.cons_append, places, hmiss, Bool.toNat_false, Nat.zero_add]
      exact ih hrest

/-- **A substitution adds at most so much for each place of a head.** -/
theorem length_sub_le {r head : Regex} {repl : Cursor → Cursor → List Char} {k : ℕ}
    (hhead : ∀ c m, m ∈ run r c → matchesPrefix head c.after)
    (hlength : ∀ c m, m ∈ run r c → (repl c m).length ≤ (c.upTo m).length + k) (s : List Char) :
    (sub r repl s).length ≤ s.length + k * places head s := by
  have hfrom : ∀ d : Cursor, ((piecesFrom r d).flatMap (Piece.replace repl)).length ≤
      d.after.length + k * places head d.after := by
    intro d
    induction d using pieces_induction (r := r) with
    | done d hafter =>
        rw [piecesFrom_nil hafter]
        exact Nat.zero_le _
    | found d m hhit ih =>
        have hrun := mem_of_hit hhit
        obtain ⟨w, hafter, -⟩ := run_split hrun
        have hlen := hlength d m hrun
        rw [upTo_eq hafter] at hlen
        have hplaces : places head m.after + 1 ≤ places head d.after := by
          have hmatch := hhead d m hrun
          cases w with
          | nil => exact absurd (lt_of_hit hhit) (by rw [hafter]; exact Nat.lt_irrefl _)
          | cons x w =>
              rw [hafter] at hmatch ⊢
              exact places_lt_append hmatch
        have hmul := Nat.mul_le_mul_left k hplaces
        rw [Nat.mul_succ] at hmul
        rw [piecesFrom_hit hhit, List.flatMap_cons, List.length_append, Piece.replace]
        have hrest : ((piecesFrom r m.release).flatMap (Piece.replace repl)).length ≤
            m.after.length + k * places head m.after := ih
        have hsum : d.after.length = w.length + m.after.length := by
          rw [hafter, List.length_append]
        omega
    | kept d x s hafter hhit ih =>
        have hplaces : places head s ≤ places head (x :: s) := places_le_append head [x] s
        have hmul := Nat.mul_le_mul_left k hplaces
        have hrest : ((piecesFrom r ⟨x :: d.before, s, d.captured⟩).flatMap
            (Piece.replace repl)).length ≤ s.length + k * places head s := ih
        rw [piecesFrom_miss hafter hhit, List.flatMap_cons, Piece.replace, List.singleton_append,
          hafter, List.length_cons, List.length_cons]
        omega
  exact hfrom (ofText s)

/-! ### What is put into a text -/

/-- A text in which parts of another were replaced: `put p w` where `p` may stand for `w`. -/
inductive Replaced (put : List Char → List Char → Prop) : List Char → List Char → Prop
  | done : Replaced put [] []
  | kept (x : Char) {t s : List Char} : Replaced put t s → Replaced put (x :: t) (x :: s)
  | put {p w t s : List Char} : put p w → Replaced put t s → Replaced put (p ++ t) (w ++ s)

namespace Replaced

variable {put : List Char → List Char → Prop} {t s : List Char}

theorem append_left (u : List Char) (h : Replaced put t s) : Replaced put (u ++ t) (u ++ s) := by
  induction u with
  | nil => exact h
  | cons x u ih => exact .kept x ih

/-- A substitution that keeps the beginnings of the matches and puts something for the rest. -/
theorem of_sub {r : Regex} {repl : Cursor → Cursor → List Char}
    (hrepl : ∀ c m, m ∈ run r c → ∃ u p w, repl c m = u ++ p ∧ c.upTo m = u ++ w ∧ put p w)
    (s : List Char) : Replaced put (sub r repl s) s := by
  have hfrom : ∀ d : Cursor,
      Replaced put ((piecesFrom r d).flatMap (Piece.replace repl)) d.after := by
    intro d
    induction d using pieces_induction (r := r) with
    | done d hafter =>
        rw [piecesFrom_nil hafter, hafter]
        exact .done
    | found d m hhit ih =>
        have hrun := mem_of_hit hhit
        obtain ⟨w, hafter, -⟩ := run_split hrun
        obtain ⟨u, p, v, hreplaced, hkept, hput⟩ := hrepl d m hrun
        rw [upTo_eq hafter] at hkept
        rw [piecesFrom_hit hhit, List.flatMap_cons, Piece.replace, hreplaced, hafter, hkept,
          List.append_assoc, List.append_assoc]
        exact append_left u (.put hput ih)
    | kept d x s hafter hhit ih =>
        rw [piecesFrom_miss hafter hhit, List.flatMap_cons, hafter]
        exact .kept x ih
  exact hfrom (ofText s)

/-- **What is put into a text adds no place of a head**, if a match that runs into it shows that
the head matched before, and none begins in it. -/
theorem places_le {head : Regex}
    (hinto : ∀ p w, put p w → ∀ u t s, matchesPrefix head (u ++ (p ++ t)) →
      matchesPrefix head (u ++ (w ++ s)))
    (hinside : ∀ p w, put p w → ∀ t, places head (p ++ t) ≤ places head t)
    (h : Replaced put t s) : places head t ≤ places head s := by
  suffices hboth : places head t ≤ places head s ∧
      ∀ u, matchesPrefix head (u ++ t) → matchesPrefix head (u ++ s) from hboth.1
  induction h with
  | done => exact ⟨Nat.le_refl 0, fun u hu => hu⟩
  | @kept x t s _ ih =>
      obtain ⟨hle, hmatches⟩ := ih
      refine ⟨?_, fun u hu => ?_⟩
      · have hhere : (matchesPrefix head (x :: t)).toNat ≤ (matchesPrefix head (x :: s)).toNat :=
          Bool.toNat_le_toNat (hmatches [x])
        exact Nat.add_le_add hhere hle
      · rw [List.append_cons] at hu ⊢
        exact hmatches _ hu
  | @put p w t s hput _ ih =>
      refine ⟨?_, fun u => hinto p w hput u t s⟩
      calc places head (p ++ t) ≤ places head t := hinside p w hput t
        _ ≤ places head s := ih.1
        _ ≤ places head (w ++ s) := places_le_append head w s

end Replaced

/-! ### What stands before

A match depends on what stands before it through the boundary only.
-/

/-- Two positions before the same text, with the same character before them. -/
structure Alike (c d : Cursor) : Prop where
  after : c.after = d.after
  captured : c.captured = d.captured
  last : c.before.head? = d.before.head?

theorem Alike.atBoundary {c d : Cursor} (h : Alike c d) : c.atBoundary = d.atBoundary := by
  rw [Cursor.atBoundary, Cursor.atBoundary, h.after, h.last]

theorem Alike.before_eq_nil {c d : Cursor} (h : Alike c d) : c.before = [] ↔ d.before = [] := by
  rw [← List.head?_eq_none_iff, ← List.head?_eq_none_iff, h.last]

theorem Alike.advance {c d : Cursor} (h : Alike c d) (k : ℕ) : Alike (c.advance k) (d.advance k) where
  after := congrArg (List.drop k) h.after
  captured := h.captured
  last := by
    simp only [Cursor.advance, List.head?_append, h.after, h.last]

theorem Alike.upTo {c d m e : Cursor} (h : Alike c d) (hm : Alike m e) : c.upTo m = d.upTo e := by
  rw [Cursor.upTo, Cursor.upTo, h.after, hm.after]

/-- From positions that are alike, the same is matched. -/
theorem run_alike (r : Regex) {c d : Cursor} (h : Alike c d) :
    List.Forall₂ Alike (run r c) (run r d) := by
  induction r generalizing c d with
  | chars p min max =>
      rw [run, run, h.after, List.forall₂_map_left_iff, List.forall₂_map_right_iff, List.forall₂_same]
      exact fun k _ => h.advance k
  | boundary =>
      rw [run, run, h.atBoundary]
      split
      · exact .cons h .nil
      · exact .nil
  | start =>
      simp only [run, h.before_eq_nil]
      split
      · exact .cons h .nil
      · exact .nil
  | finish =>
      rw [run, run, h.after]
      split
      · exact .cons h .nil
      · exact .nil
  | seq r s ihr ihs => exact List.rel_flatMap (ihr h) fun _ _ hmid => ihs hmid
  | alt r s ihr ihs => exact List.rel_append (ihr h) (ihs h)
  | group r ih =>
      rw [run, run, List.forall₂_map_left_iff, List.forall₂_map_right_iff]
      exact (ih h).imp fun m e hm => ⟨hm.after, h.upTo hm, hm.last⟩

theorem hit_alike (r : Regex) {c d : Cursor} (h : Alike c d) :
    Option.Rel Alike (hit r c) (hit r d) := by
  have hrun := run_alike r h
  rw [hit, hit]
  generalize run r c = ms at hrun ⊢
  generalize run r d = es at hrun ⊢
  cases hrun with
  | nil => exact .none
  | @cons m e _ _ hm _ =>
      rw [List.head?_cons, List.head?_cons, Option.filter, Option.filter, hm.after, h.after]
      split
      · exact .some hm
      · exact .none

/-- **Of what stands before a text, only the last character matters** for what is replaced in it. -/
theorem replaced_alike {r : Regex} {repl : Cursor → Cursor → List Char}
    (hrepl : ∀ {c d m e}, Alike c d → Alike m e → repl c m = repl d e) {c d : Cursor}
    (h : Alike c d) :
    (piecesFrom r c).flatMap (Piece.replace repl) = (piecesFrom r d).flatMap (Piece.replace repl) := by
  induction c using pieces_induction (r := r) generalizing d with
  | done c hafter =>
      rw [piecesFrom_nil hafter, piecesFrom_nil (h.after.symm.trans hafter)]
  | found c m hhit ih =>
      have hd := hit_alike r h
      rw [hhit] at hd
      cases hhit' : hit r d with
      | none => rw [hhit'] at hd; cases hd
      | some e =>
          rw [hhit'] at hd
          cases hd with
          | some hm =>
              have hrest := ih (d := e.release) ⟨hm.after, rfl, hm.last⟩
              rw [piecesFrom_hit hhit, piecesFrom_hit hhit', List.flatMap_cons, List.flatMap_cons,
                hrest, Piece.replace, Piece.replace, hrepl h hm]
  | kept c x s hafter hhit ih =>
      have hd := hit_alike r h
      rw [hhit] at hd
      have hmiss : hit r d = none := by
        cases hhit' : hit r d with
        | none => rfl
        | some e => rw [hhit'] at hd; cases hd
      have hrest := ih (d := ⟨x :: d.before, s, d.captured⟩) ⟨rfl, h.captured, rfl⟩
      rw [piecesFrom_miss hafter hhit, piecesFrom_miss (h.after.symm.trans hafter) hmiss,
        List.flatMap_cons, List.flatMap_cons, hrest]

end Regex

end CartoonDemo
