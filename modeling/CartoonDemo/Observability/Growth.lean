import CartoonDemo.Library.RegexPlaces
import CartoonDemo.Observability.Redaction

/-!
# CartoonDemo.Observability.Growth

**How much longer a redaction can make a text.** Three kinds of secrets are never shorter than their
placeholder. The others begin with a word that is easy to look for in the text itself: `growth`
counts these words, each with the most that the placeholder of such a secret can exceed it.

The substitutions run one after the other, and each may meet what those before it have put into the
text. None of the placeholders adds such a word, so the count of the text bounds all of them
(`length_applyStringScrubbers_le`).
-/

namespace CartoonDemo

namespace Observability

open Regex Cursor

/-! ### How secrets begin

Every pattern begins with a literal text, its head.
-/

/-- A label before `:` or `=`. -/
def assignmentHead (label : Regex) : Regex :=
  seqs [label, spaces, once fun c => c = ':' || c = '=']

/-- `Bearer` and white space. -/
def bearerHead : Regex := seqs [literal exact "Bearer", chars PyStr.isSpace 1 none]

/-- `eyJ`, more of a token, and a dot. -/
def jwtHead : Regex := seqs [literal exact "eyJ", chars isJwtChar 1 none, once fun c => c = '.']

/-- The labels of `_R005_API_KEY_ASSIGNMENT`, as group 1. -/
def apiKeyLabel : Regex :=
  group (alts
    [seqs [literal ignoreCase "api", optional fun c => c = '_' || c = '-', literal ignoreCase "key"],
     literal ignoreCase "apikey"])

/-- The labels of `_R007_ENV_STYLE_SECRET`, as group 1. -/
def envStyleLabel : Regex :=
  group (alts (["password", "secret", "token", "credential"].map (literal ignoreCase)))

def apiKeyHead : Regex := assignmentHead apiKeyLabel

def authorizationHead : Regex := assignmentHead (literal ignoreCase "authorization")

def envStyleHead : Regex := assignmentHead envStyleLabel

/-- A head that is nowhere. -/
def nowhere : Regex := once fun _ => false

/-- By how many characters the redaction can lengthen a text at most. -/
def growth (s : List Char) : ℕ :=
  8 * places bearerHead s + 6 * places jwtHead s + 3 * places apiKeyHead s +
    places authorizationHead s + 7 * places envStyleHead s

/-- A text without white space, dots, colons and equals signs cannot become longer. -/
theorem growth_eq_zero {s : List Char}
    (h : ∀ x ∈ s, PyStr.isSpace x = false ∧ x ≠ '.' ∧ x ≠ ':' ∧ x ≠ '=') : growth s = 0 := by
  have hbearer : places bearerHead s = 0 :=
    places_eq_zero [literal exact "Bearer"] Nat.one_pos fun x hx => (h x hx).1
  have hjwt : places jwtHead s = 0 :=
    places_eq_zero [literal exact "eyJ", chars isJwtChar 1 none] Nat.one_pos
      fun x hx => decide_eq_false (h x hx).2.1
  have hassignment : ∀ label, places (assignmentHead label) s = 0 := by
    intro label
    refine places_eq_zero [label, spaces] Nat.one_pos fun x hx => ?_
    obtain ⟨-, -, hcolon, hequals⟩ := h x hx
    simp [hcolon, hequals]
  rw [growth, hbearer, hjwt, apiKeyHead, authorizationHead, envStyleHead, hassignment, hassignment,
    hassignment]

/-! ### One substitution -/

/-- The substitution adds at most `k` characters for each place of the head. -/
def Grows (scrubber : Scrubber) (head : Regex) (k : ℕ) : Prop :=
  ∀ s, (scrubber.scrub s).length ≤ s.length + k * places head s

/-- The substitution adds no place of the head. -/
def Keeps (scrubber : Scrubber) (head : Regex) : Prop :=
  ∀ s, places head (scrubber.scrub s) ≤ places head s

/-- What matches a pattern matches its head. -/
theorem matches_head {y : Char} {rs : List Regex} (rs' : List Regex) (havoids : avoids y (seqs rs)) {c m : Cursor}
    (h : m ∈ Regex.run (seqs (rs ++ rs')) c) : matchesPrefix (seqs rs) c.after := by
  obtain ⟨mid, hmid, -⟩ := mem_run_seqs_append.mp h
  exact matches_of_run havoids hmid

theorem length_upTo_le {r : Regex} {c m : Cursor} (h : m ∈ Regex.run r c) :
    minLength r ≤ (c.upTo m).length := by
  have := minLength_le h
  have := length_upTo h
  omega

/-- A secret that cannot be shorter than its placeholder. -/
theorem grows_nowhere {pattern : Regex} {text : String}
    (hlength : text.toList.length ≤ minLength pattern) :
    Grows ⟨pattern, placeholder text⟩ nowhere 0 := by
  intro s
  have hle := @length_sub_le pattern (chars (fun _ => true) 0 none) (placeholder text) 0
    (fun c m _ => matchesPrefix_iff.mpr ⟨_, mem_run_chars.mpr ⟨[], c.after, rfl, by simp,
      Nat.le_refl 0, by simp, rfl⟩⟩)
    (fun c m h => le_trans hlength (length_upTo_le h)) s
  rw [Nat.zero_mul] at hle ⊢
  exact hle

theorem grows_placeholder {y : Char} {pattern : Regex} {rs rs' : List Regex} {text : String} {k : ℕ}
    (havoids : avoids y (seqs rs))
    (hpattern : ∀ c m, m ∈ Regex.run pattern c → m ∈ Regex.run (seqs (rs ++ rs')) c)
    (hlength : text.toList.length ≤ minLength pattern + k) :
    Grows ⟨pattern, placeholder text⟩ (seqs rs) k :=
  length_sub_le (fun c m h => matches_head _ havoids (hpattern c m h))
    (fun _ _ h => le_trans hlength (Nat.add_le_add_right (length_upTo_le h) k))

theorem run_of_boundary {rs : List Regex} (c m : Cursor) (h : m ∈ Regex.run (seqs (boundary :: rs)) c) :
    m ∈ Regex.run (seqs rs) c := by
  obtain ⟨mid, hmid, hm⟩ := mem_run_seqs_cons.mp h
  rwa [(mem_run_boundary.mp hmid).2] at hm

/-- An assignment consists of its label, which is captured, of white space, of `:` or `=`, and of
at least as many characters as the value has. -/
theorem run_assignment {r : Regex} {min : ℕ} {c m : Cursor}
    (h : m ∈ Regex.run (seqs (group r :: assignedSecret min)) c) :
    ∃ v y w, c.upTo m = m.captured ++ (v ++ y :: w) ∧ (∀ z ∈ v, PyStr.isSpace z) ∧
      (y = ':' ∨ y = '=') ∧ min ≤ w.length := by
  obtain ⟨mid, hmid, hrest⟩ := mem_run_seqs_cons.mp h
  obtain ⟨label, hlabel, rfl⟩ := mem_run_group.mp hmid
  obtain ⟨l, hl, -⟩ := run_split hlabel
  have hcaptured : m.captured = l := by
    have hkept : m.captured = c.upTo label := captured_of_run rfl hrest
    rw [hkept, upTo_eq hl]
  obtain ⟨c₁, hc₁, hrest⟩ := mem_run_seqs_cons.mp hrest
  obtain ⟨v, rest, hv, hspaces, -, -, rfl⟩ := mem_run_chars.mp hc₁
  obtain ⟨c₂, hc₂, hrest⟩ := mem_run_seqs_cons.mp hrest
  obtain ⟨y, rest', hy, hmark, rfl⟩ := mem_run_once.mp hc₂
  obtain ⟨w, hw, -⟩ := run_split hrest
  have hmin : min ≤ w.length := by
    have hlength := length_upTo_le hrest
    rw [upTo_eq hw] at hlength
    refine le_trans (le_of_eq ?_) hlength
    show min = 0 + (0 + min)
    omega
  refine ⟨v, y, w, ?_, hspaces, by simpa using hmark, hmin⟩
  obtain rfl : rest = y :: rest' := hy
  obtain rfl : rest' = w ++ m.after := hw
  obtain hv : label.after = v ++ y :: (w ++ m.after) := hv
  rw [hcaptured]
  refine upTo_eq ?_
  rw [hl, hv, List.append_assoc, List.append_assoc]
  rfl

/-- What replaces the rest of an assignment. -/
theorem replAssignment_eq (c m : Cursor) :
    ∃ p ∈ [": [REDACTED]".toList, "=[REDACTED]".toList], replAssignment c m = m.captured ++ p := by
  rw [replAssignment]
  split
  · exact ⟨_, List.mem_cons_self, List.append_assoc ..⟩
  · exact ⟨_, List.mem_cons_of_mem _ List.mem_cons_self, List.append_assoc ..⟩

theorem grows_assignment {y : Char} {r : Regex} {min k : ℕ}
    (havoids : avoids y (assignmentHead (group r))) (hk : 11 ≤ min + k) :
    Grows ⟨seqs (group r :: assignedSecret min), replAssignment⟩ (assignmentHead (group r)) k := by
  refine length_sub_le
    (fun c m h => matches_head [spaces, optional fun c => c = '\'' || c = '"',
      chars isSecretChar min none] havoids h) fun c m h => ?_
  obtain ⟨v, y, w, hupTo, -, -, hmin⟩ := run_assignment h
  obtain ⟨p, hp, hrepl⟩ := replAssignment_eq c m
  have hlength : p.length ≤ 12 := by
    have hboth : ∀ p ∈ [": [REDACTED]".toList, "=[REDACTED]".toList], p.length ≤ 12 := by decide
    exact hboth p hp
  show (replAssignment c m).length ≤ (c.upTo m).length + k
  rw [hrepl, hupTo]
  simp only [List.length_append, List.length_cons]
  omega

/-! ### What the placeholders leave of the heads

A substitution puts no new head into a text, or only where one stood.
-/

/-- The placeholders that begin with a bracket. -/
def placeholders : List String := ["[REDACTED:api_key]", "[REDACTED:token]", "[REDACTED:jwt]"]

theorem keeps_placeholder {pattern head : Regex} {text : String} {p q : List Char}
    (hbegin : text.toList = '[' :: q) (hend : text.toList = p ++ [']'])
    (hnone : places head text.toList = 0) (hopen : avoids '[' head) (hclose : avoids ']' head) :
    Keeps ⟨pattern, placeholder text⟩ head := by
  intro s
  have hreplaced : Replaced (fun p _ => p = text.toList) (sub pattern (placeholder text) s) s :=
    .of_sub (fun c m _ => ⟨[], text.toList, c.upTo m, rfl, rfl, rfl⟩) s
  refine Replaced.places_le ?_ ?_ hreplaced
  · rintro _ w rfl u t s hmatch
    rw [hbegin] at hmatch
    exact matches_before hopen hmatch (w ++ s)
  · rintro _ w rfl t
    rw [hend] at hnone ⊢
    rw [List.append_assoc]
    exact places_append_le hclose hnone t

theorem keeps_assignment {r label : Regex} {min : ℕ}
    (hcolon : avoids ':' label) (hequals : avoids '=' label)
    (hclose : avoids ']' (assignmentHead label))
    (hnone : ∀ p ∈ [": [REDACTED", "=[REDACTED"],
      places (assignmentHead label) (p.toList ++ [']']) = 0) :
    Keeps ⟨seqs (group r :: assignedSecret min), replAssignment⟩ (assignmentHead label) := by
  intro s
  have hreplaced : Replaced
      (fun p w => p ∈ [": [REDACTED]".toList, "=[REDACTED]".toList] ∧
        ∃ v y rest, w = v ++ y :: rest ∧ (∀ z ∈ v, PyStr.isSpace z) ∧ (y = ':' ∨ y = '='))
      (sub (seqs (group r :: assignedSecret min)) replAssignment s) s := by
    refine .of_sub (fun c m h => ?_) s
    obtain ⟨v, y, w, hupTo, hspaces, hmark, -⟩ := run_assignment h
    obtain ⟨p, hp, hrepl⟩ := replAssignment_eq c m
    exact ⟨m.captured, p, _, hrepl, hupTo, hp, v, y, w, rfl, hspaces, hmark⟩
  refine Replaced.places_le ?_ ?_ hreplaced
  · rintro p _ ⟨hp, v, y, rest, rfl, hspaces, hmark⟩ u t s hmatch
    have hy : (y = ':' || y = '=') = true := by simpa using hmark
    rw [List.append_assoc, List.cons_append]
    rcases List.mem_cons.mp hp with rfl | hp
    · exact matches_delimited hcolon (by decide) hmatch hspaces hy _
    · obtain rfl := List.mem_singleton.mp hp
      exact matches_delimited hequals (by decide) hmatch hspaces hy _
  · rintro p _ ⟨hp, -⟩ t
    rcases List.mem_cons.mp hp with rfl | hp
    · exact places_append_le hclose (hnone _ List.mem_cons_self) t
    · obtain rfl := List.mem_singleton.mp hp
      exact places_append_le hclose (hnone _ (List.mem_cons_of_mem _ List.mem_cons_self)) t

/-! ### The whole redaction -/

/-- A substitution with the head of its secrets, and the most by which a placeholder exceeds one. -/
structure Kind where
  scrubber : Scrubber
  head : Regex
  most : ℕ

/-- **Substitutions that keep the heads of those behind them** lengthen a text by what the heads
in the text itself allow. -/
theorem length_applyScrubbers_le {kinds : List Kind}
    (hgrows : ∀ kind ∈ kinds, Grows kind.scrubber kind.head kind.most)
    (hkeeps : kinds.Pairwise fun kind later => Keeps kind.scrubber later.head) (s : List Char) :
    (applyScrubbers (kinds.map Kind.scrubber) s).length ≤
      s.length + (kinds.map fun kind => kind.most * places kind.head s).sum := by
  induction kinds generalizing s with
  | nil => exact Nat.le_refl _
  | cons kind kinds ih =>
      obtain ⟨hkeep, hkeeps⟩ := List.pairwise_cons.mp hkeeps
      have hrest := ih (fun later hlater => hgrows later (List.mem_cons_of_mem kind hlater)) hkeeps
        (kind.scrubber.scrub s)
      have hfirst := hgrows kind List.mem_cons_self s
      have hsum : (kinds.map fun later => later.most * places later.head (kind.scrubber.scrub s)).sum ≤
          (kinds.map fun later => later.most * places later.head s).sum :=
        List.sum_le_sum fun later hlater => Nat.mul_le_mul_left _ (hkeep later hlater s)
      rw [List.map_cons, List.map_cons, applyScrubbers, List.sum_cons]
      omega

/-- The substitutions, but for that of hexadecimal secrets. -/
def plainKinds : List Kind :=
  [⟨⟨openaiKey, placeholder "[REDACTED:api_key]"⟩, nowhere, 0⟩,
   ⟨⟨awsAccessKey, placeholder "[REDACTED:api_key]"⟩, nowhere, 0⟩,
   ⟨⟨bearerToken, placeholder "[REDACTED:token]"⟩, bearerHead, 8⟩,
   ⟨⟨jwt, placeholder "[REDACTED:jwt]"⟩, jwtHead, 6⟩,
   ⟨⟨apiKeyAssignment, replAssignment⟩, apiKeyHead, 3⟩,
   ⟨⟨authorizationHeader, placeholder "[REDACTED:token]"⟩, authorizationHead, 1⟩,
   ⟨⟨envStyleSecret, replAssignment⟩, envStyleHead, 7⟩]

def hexKind : Kind := ⟨hexScrubber, nowhere, 0⟩

theorem plainKinds_grow {kind : Kind} (hkind : kind ∈ plainKinds) :
    Grows kind.scrubber kind.head kind.most := by
  have hall : ∀ kind ∈ plainKinds, Grows kind.scrubber kind.head kind.most := by
    simp only [plainKinds, List.forall_mem_cons]
    refine ⟨grows_nowhere (by decide), grows_nowhere (by decide), ?_, ?_, ?_, ?_, ?_, by simp⟩
    · exact grows_placeholder (y := '[') rfl run_of_boundary (by decide)
    · exact grows_placeholder (y := '[') rfl run_of_boundary (by decide)
    · exact grows_assignment (y := '[') rfl (by decide)
    · exact grows_placeholder (y := '[') rfl (fun c m h => h) (by decide)
    · exact grows_assignment (y := '[') rfl (by decide)
  exact hall kind hkind

/-- None of the placeholders holds a head, or a part of one that the text could complete. -/
theorem placeholder_keeps {pattern head : Regex} {text : String} (htext : text ∈ placeholders)
    (hhead : head ∈ [nowhere, bearerHead, jwtHead, apiKeyHead, authorizationHead, envStyleHead]) :
    Keeps ⟨pattern, placeholder text⟩ head := by
  have havoids : ∀ head ∈ [nowhere, bearerHead, jwtHead, apiKeyHead, authorizationHead, envStyleHead],
      avoids '[' head ∧ avoids ']' head := by
    decide +kernel
  have hnone : ∀ text ∈ placeholders,
      ∀ head ∈ [nowhere, bearerHead, jwtHead, apiKeyHead, authorizationHead, envStyleHead],
        places head text.toList = 0 := by
    simp only [List.forall_mem_cons, placeholders]
    decide +kernel
  have hshape : ∀ text ∈ placeholders,
      text.toList = '[' :: text.toList.tail ∧ text.toList = text.toList.dropLast ++ [']'] := by
    decide
  obtain ⟨hopen, hclose⟩ := havoids head hhead
  obtain ⟨hbegin, hend⟩ := hshape text htext
  exact keeps_placeholder hbegin hend (hnone text htext head hhead) hopen hclose

theorem assignment_keeps {r : Regex} {min : ℕ} (label : Regex)
    (hlabel : label ∈ [literal ignoreCase "authorization", envStyleLabel]) :
    Keeps ⟨seqs (group r :: assignedSecret min), replAssignment⟩ (assignmentHead label) := by
  have hall : ∀ label ∈ [literal ignoreCase "authorization", envStyleLabel],
      avoids ':' label ∧ avoids '=' label ∧ avoids ']' (assignmentHead label) ∧
        ∀ p ∈ [": [REDACTED", "=[REDACTED"],
          places (assignmentHead label) (p.toList ++ [']']) = 0 := by
    simp only [List.forall_mem_cons]
    decide +kernel
  obtain ⟨hcolon, hequals, hclose, hnone⟩ := hall label hlabel
  exact keeps_assignment hcolon hequals hclose hnone

/-- The heads of the kinds. -/
theorem head_of_mem {kind : Kind} (hkind : kind ∈ plainKinds) :
    kind.head ∈ [nowhere, bearerHead, jwtHead, apiKeyHead, authorizationHead, envStyleHead] := by
  have hall : ∀ kind ∈ plainKinds, kind.head ∈
      [nowhere, bearerHead, jwtHead, apiKeyHead, authorizationHead, envStyleHead] := by
    simp [plainKinds]
  exact hall kind hkind

theorem plainKinds_keep :
    plainKinds.Pairwise fun kind later => Keeps kind.scrubber later.head := by
  -- a placeholder keeps every head, so the kinds behind one only have to be among them
  have hplaceholder : ∀ {pattern : Regex} {text : String} {kinds : List Kind},
      text ∈ placeholders → kinds ⊆ plainKinds →
      ∀ later ∈ kinds, Keeps ⟨pattern, placeholder text⟩ later.head :=
    fun htext hsub later hlater => placeholder_keeps htext (head_of_mem (hsub hlater))
  have hdrop : ∀ n, plainKinds.drop n ⊆ plainKinds := fun n => List.drop_subset n plainKinds
  refine .cons (hplaceholder (by decide) (hdrop 1)) (.cons (hplaceholder (by decide) (hdrop 2))
    (.cons (hplaceholder (by decide) (hdrop 3)) (.cons (hplaceholder (by decide) (hdrop 4))
      (.cons ?_ (.cons (hplaceholder (by decide) (hdrop 6)) (.cons (by simp) .nil))))))
  -- an assignment keeps the heads of the two kinds behind it
  intro later hlater
  rcases List.mem_cons.mp hlater with rfl | hlater
  · exact assignment_keeps (literal ignoreCase "authorization") List.mem_cons_self
  · obtain rfl := List.mem_singleton.mp hlater
    exact assignment_keeps envStyleLabel (List.mem_cons_of_mem _ List.mem_cons_self)

theorem sum_growth (s : List Char) :
    (plainKinds.map fun kind => kind.most * places kind.head s).sum = growth s := by
  simp only [plainKinds, List.map_cons, List.map_nil, List.sum_cons, List.sum_nil, growth]
  omega

/-- **A redacted text is longer than the text by no more than the words in it allow** with which
secrets begin. -/
theorem length_applyStringScrubbers_le (value : String) (attributeKey : Option String) :
    (applyStringScrubbers value attributeKey).length ≤ value.length + growth value.toList := by
  have hplain : (applyScrubbers (plainKinds.map Kind.scrubber) value.toList).length ≤
      value.length + growth value.toList := by
    rw [← sum_growth, ← String.length_toList]
    exact length_applyScrubbers_le (fun _ => plainKinds_grow) plainKinds_keep value.toList
  have hhex : ∀ s, (hexScrubber.scrub s).length ≤ s.length := by
    intro s
    have hle := @grows_nowhere hexSecret redactionPlaceholder (by decide) s
    rwa [Nat.zero_mul] at hle
  have hkinds : stringScrubbers ++ assignmentScrubbers = plainKinds.map Kind.scrubber := rfl
  rw [applyStringScrubbers, String.length_ofList, scrubbersFor, applyScrubbers_append, hkinds]
  split
  · exact le_trans (hhex _) hplain
  · exact hplain

/-- A text in which no secret is found stays as it is. -/
theorem applyStringScrubbers_of_none {value : String} {attributeKey : Option String}
    (h : secretSpan value.toList attributeKey = none) :
    applyStringScrubbers value attributeKey = value := by
  have hsame : ∀ scrubber ∈ scrubbersFor attributeKey, scrubber.scrub value.toList = value.toList := by
    intro scrubber hmem
    have hnone : search scrubber.pattern value.toList = none :=
      List.findSome?_eq_none_iff.mp h scrubber hmem
    exact sub_eq_self (found_notMem_of_search hnone)
  rw [applyStringScrubbers, applyScrubbers_eq_self hsame, String.ofList_toList]

end Observability

end CartoonDemo
