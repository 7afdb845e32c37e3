import CartoonDemo.Config.Schema
import CartoonDemo.Library.Regex

/-!
# CartoonDemo.Config.Secrets

The **scan for inline secrets** (`config/secrets.py`), which the loader runs on the parsed tree
before it maps it. The key that makes a value suspicious is read off the dotted path of the value,
and there the last dot counts: the index of a list, an inner key or a dot inside a key hides the
keys further out.
-/

namespace CartoonDemo

namespace Secrets

open Regex

/-! ### Patterns

The default patterns, as regular expressions.
-/

/-- The class `[A-Za-z0-9_-]`. -/
def isKeyChar (c : Char) : Bool := c.isAlphanum || c = '_' || c = '-'

/-- The class `[A-Za-z0-9/+=_-]`. -/
def isSecretChar (c : Char) : Bool := isKeyChar c || c = '/' || c = '+' || c = '='

/-- `ENV_VAR_NAME_PATTERN`. -/
def envVarNamePattern : Regex :=
  seqs [start, once Char.isUpper, chars (fun c => c.isUpper || c.isDigit || c = '_') 2 none, finish]

/-- `_SUSPICIOUS_KEY_PATTERN`. -/
def suspiciousKeyPattern : Regex :=
  seqs
    [chars (fun c => c ≠ '\n') 0 none,
     group (alts (["password", "secret", "token", "api_key"].map (literal ignoreCase))),
     chars (fun c => c ≠ '\n') 0 none]

/-- `_suspicious_key`. -/
def suspiciousKey (key : String) : Bool := matchesPrefix suspiciousKeyPattern key.toList

/-- A pattern of a secret, and the keys that it is for. -/
structure SecretPattern where
  name : String
  pattern : Regex
  appliesToKey : Option (String → Bool) := none

/-- `sk-`, and a key. -/
def openaiApiKey : SecretPattern where
  name := "openai_api_key"
  pattern := seqs [start, literal exact "sk-", chars isKeyChar 17 none, finish]

/-- `sk-ant-`, and a key. -/
def anthropicApiKey : SecretPattern where
  name := "anthropic_api_key"
  pattern := seqs [start, literal exact "sk-ant-", chars isKeyChar 8 none, finish]

/-- The first line of a private key. -/
def pemPrivateKey : SecretPattern where
  name := "pem_private_key"
  pattern := seqs
    [literal exact "-----BEGIN", chars (fun c => c.isUpper || c = ' ') 0 none,
     literal exact "PRIVATE KEY-----"]

/-- An assignment to a name of a credential. -/
def inlineCredentialAssignment : SecretPattern where
  name := "inline_credential_assignment"
  pattern := seqs
    [group (alts
      [seqs [literal ignoreCase "api", optional fun c => c = '_' || c = '-', literal ignoreCase "key"],
       literal ignoreCase "secret", literal ignoreCase "token", literal ignoreCase "password"]),
     spaces, once fun c => c = ':' || c = '=', spaces,
     optional fun c => c = '\'' || c = '"', chars (fun c => isSecretChar (PyWord.foldCase c)) 8 none]

/-- A long text without blanks under a suspicious key. -/
def highEntropySecretField : SecretPattern where
  name := "high_entropy_secret_field"
  pattern := seqs [start, chars isSecretChar 40 none, finish]
  appliesToKey := some suspiciousKey

/-- The patterns that look at the value alone. -/
def textPatterns : List SecretPattern :=
  [openaiApiKey, anthropicApiKey, pemPrivateKey, inlineCredentialAssignment]

/-- `_default_patterns`. -/
def defaultPatterns : List SecretPattern := textPatterns ++ [highEntropySecretField]

/-- `compiled.startswith("^")`. -/
def startsAnchored : Regex → Bool
  | .start => true
  | .seq r _ => startsAnchored r
  | _ => false

/-- `compiled.endswith("$")`. -/
def endsAnchored : Regex → Bool
  | .finish => true
  | .seq _ s => endsAnchored s
  | _ => false

/-- `SecretScanner._matches_pattern`. -/
def matchesPattern (value : String) (pattern : Regex) : Bool :=
  if startsAnchored pattern && endsAnchored pattern then fullmatch pattern value.toList
  else (search pattern value.toList).isSome

/-! ### The scan -/

/-- `ConfigSecretDetectedError`, or another exception. -/
inductive ScanException
  | secretDetected (message keyPath : String)
  | other (e : ConfigException)
  deriving DecidableEq

/-- `secret_detected_message`. -/
def secretDetectedMessage (keyPath patternName : String) : String :=
  validationMessage keyPath ("Inline secret pattern detected (" ++ patternName ++ ")")
    "reference credentials via environment variable names, not inline values"

/-- `f"{key_path}.{key}" if key_path else str(key)`. -/
def childPath (keyPath segment : String) : String :=
  if keyPath = "" then segment else keyPath ++ "." ++ segment

/-- `s.rsplit(".", 1)[-1]`. -/
def afterLastDot (s : String) : String := String.ofList (s.toList.rtakeWhile (· ≠ '.'))

/-- A pattern applies to a key and matches the value. -/
def SecretPattern.fires (keyName value : String) (p : SecretPattern) : Bool :=
  p.appliesToKey.all (· keyName) && matchesPattern value p.pattern

/-- `SecretScanner._scan_string`. -/
def scanString (value keyPath : String) : Except ScanException Unit :=
  if fullmatch envVarNamePattern value.toList then .ok ()
  else
    let keyName := if keyPath = "" then "" else afterLastDot keyPath
    match defaultPatterns.find? (·.fires keyName value) with
    | some p => .error (.secretDetected (secretDetectedMessage keyPath p.name) keyPath)
    | none => .ok ()

/-- The text of a key, as far as it has one. -/
def keyText (key : NodeKey) : Except ScanException String := key.shown.mapError .other

mutual

/-- `SecretScanner._scan_node`. -/
def scanNode : Node → String → Except ScanException Unit
  | .str s, keyPath => scanString s keyPath
  | .mapping entries, keyPath => scanEntries entries keyPath
  | .list items, keyPath => scanItems items 0 keyPath
  | _, _ => .ok ()

/-- The loop over the entries of a dict. -/
def scanEntries : List (NodeKey × Node) → String → Except ScanException Unit
  | [], _ => .ok ()
  | (key, value) :: entries, keyPath => do
      let segment ← keyText key
      scanNode value (childPath keyPath segment)
      scanEntries entries keyPath

/-- The loop over the items of a list. -/
def scanItems : List Node → Nat → String → Except ScanException Unit
  | [], _, _ => .ok ()
  | item :: items, index, keyPath => do
      scanNode item (childPath keyPath (toString index))
      scanItems items (index + 1) keyPath

end

/-- `SecretScanner.scan`. -/
def scan (tree : RawConfigTree) : Except ScanException Unit := scanNode (.mapping tree) ""

/-! ### What is visited

The scan is a walk over the leaves of the tree, in their order, each with its path.
-/

/-- A step of the way from the root to a value. -/
inductive Segment
  | key (k : NodeKey)
  | index (i : Nat)

/-- A string of the tree, and the way to it. -/
structure Leaf where
  path : List Segment
  value : String

/-- What the scan meets: a string, or a key that has no text. -/
inductive Visit
  | leaf (l : Leaf)
  | noText (e : ConfigException)

/-- A key that cannot be turned into a text. -/
def Visit.ofKey (key : NodeKey) : List Visit :=
  match key.shown with
  | .ok _ => []
  | .error e => [.noText e]

mutual

/-- Everything below a node that the scan meets, in order. -/
def visits : Node → List Segment → List Visit
  | .str s, path => [.leaf ⟨path, s⟩]
  | .mapping entries, path => visitsEntries entries path
  | .list items, path => visitsItems items 0 path
  | _, _ => []

/-- The leaves of a mapping. -/
def visitsEntries : List (NodeKey × Node) → List Segment → List Visit
  | [], _ => []
  | (key, value) :: entries, path =>
      Visit.ofKey key ++ (visits value (path ++ [.key key]) ++ visitsEntries entries path)

/-- The leaves of a list. -/
def visitsItems : List Node → Nat → List Segment → List Visit
  | [], _, _ => []
  | item :: items, index, path =>
      visits item (path ++ [.index index]) ++ visitsItems items (index + 1) path

end

/-- The text of a segment in a dotted path. -/
def Segment.text : Segment → String
  | key k => k.shown.toOption.getD ""
  | index i => toString i

/-- The dotted path that the scan carries along. -/
def dotted (path : List Segment) : String := path.foldl (fun keyPath s => childPath keyPath s.text) ""

/-- A path grows at its end. -/
theorem dotted_append (path : List Segment) (s : Segment) :
    dotted (path ++ [s]) = childPath (dotted path) s.text := by
  rw [dotted, List.foldl_append]
  rfl

/-- What the scan does where it meets something. -/
def Visit.check : Visit → Except ScanException Unit
  | leaf l => scanString l.value (dotted l.path)
  | noText e => .error (.other e)

/-- The checks, one after the other. -/
def checkAll : List Visit → Except ScanException Unit
  | [] => .ok ()
  | v :: vs => do
      v.check
      checkAll vs

theorem checkAll_append (vs ws : List Visit) :
    checkAll (vs ++ ws) = (checkAll vs >>= fun _ => checkAll ws) := by
  induction vs with
  | nil => rfl
  | cons v vs ih =>
      rw [List.cons_append, checkAll, checkAll, ih]
      cases v.check with
      | ok _ => rfl
      | error e => rfl

mutual

/-- The scan is a walk over what it meets. -/
theorem scanNode_eq (node : Node) (path : List Segment) :
    scanNode node (dotted path) = checkAll (visits node path) := by
  cases node with
  | str s =>
      rw [scanNode, visits, checkAll, Visit.check]
      cases scanString s (dotted path) <;> rfl
  | mapping entries => rw [scanNode, visits, scanEntries_eq entries path]
  | list items => rw [scanNode, visits, scanItems_eq items 0 path]
  | _ => rfl

/-- The entries of a mapping. -/
theorem scanEntries_eq (entries : List (NodeKey × Node)) (path : List Segment) :
    scanEntries entries (dotted path) = checkAll (visitsEntries entries path) := by
  cases entries with
  | nil => rfl
  | cons entry entries =>
      obtain ⟨key, value⟩ := entry
      have hvalue := scanNode_eq value (path ++ [.key key])
      have hentries := scanEntries_eq entries path
      rw [scanEntries, visitsEntries, checkAll_append, checkAll_append, ← hvalue, ← hentries,
        dotted_append]
      cases hshown : key.shown with
      | error e => rw [Visit.ofKey, keyText, hshown]; rfl
      | ok segment => rw [Visit.ofKey, Segment.text, keyText, hshown]; rfl

/-- The items of a list. -/
theorem scanItems_eq (items : List Node) (index : Nat) (path : List Segment) :
    scanItems items index (dotted path) = checkAll (visitsItems items index path) := by
  cases items with
  | nil => rfl
  | cons item items =>
      have hitem := scanNode_eq item (path ++ [.index index])
      have hitems := scanItems_eq items (index + 1) path
      rw [scanItems, visitsItems, checkAll_append, ← hitem, ← hitems, dotted_append]
      rfl

end

/-! ### Which key counts

A pattern for suspicious keys looks at what follows the last dot of the path, which is an index for
the element of a list.
-/

theorem afterLastDot_empty : afterLastDot "" = "" := by decide

/-- Of a dotted path, the text after the last dot of its last segment is left. -/
theorem afterLastDot_childPath (keyPath segment : String) :
    afterLastDot (childPath keyPath segment) = afterLastDot segment := by
  rw [childPath]
  split
  · rfl
  · have hdot : ("." : String).toList = ['.'] := by decide
    rw [afterLastDot, afterLastDot, String.toList_append, String.toList_append, hdot]
    congr 1
    rw [List.rtakeWhile, List.rtakeWhile, List.reverse_append, List.takeWhile_append]
    split
    · next hall =>
      rw [(List.takeWhile_prefix _).eq_of_length hall]
      simp
    · rfl

/-- The text that the scan takes for the key of a value. -/
def Leaf.keyName (l : Leaf) : String := ((l.path.getLast?).map fun s => afterLastDot s.text).getD ""

/-- The key that a leaf is judged by. -/
theorem keyName_eq (l : Leaf) :
    (if dotted l.path = "" then "" else afterLastDot (dotted l.path)) = l.keyName := by
  have hname : afterLastDot (dotted l.path) = l.keyName := by
    rw [Leaf.keyName]
    rcases List.eq_nil_or_concat l.path with hnil | ⟨path, s, hpath⟩
    · rw [hnil]
      exact afterLastDot_empty
    · rw [hpath, List.concat_eq_append, dotted_append, afterLastDot_childPath,
        List.getLast?_append_of_ne_nil _ (by simp)]
      rfl
  split
  · next hempty => rw [← hname, hempty, afterLastDot_empty]
  · exact hname

/-- The name of an environment variable. -/
def Leaf.IsEnvVarName (l : Leaf) : Prop := fullmatch envVarNamePattern l.value.toList

/-- A long run of the characters that secrets are made of. -/
def Leaf.HighEntropy (l : Leaf) : Prop := fullmatch highEntropySecretField.pattern l.value.toList

/-- The scan stops at the string: its text alone gives it away, or it is a long run under a key
that is suspicious as far as the scan can see. -/
def Leaf.Found (l : Leaf) : Prop :=
  ¬ l.IsEnvVarName ∧
    ((∃ p ∈ textPatterns, matchesPattern l.value p.pattern) ∨
      (l.HighEntropy ∧ suspiciousKey l.keyName))

/-- A pattern fires on the text alone, or on the text under a suspicious key. -/
theorem exists_fires_iff (keyName value : String) :
    (∃ p ∈ defaultPatterns, p.fires keyName value) ↔
      (∃ p ∈ textPatterns, matchesPattern value p.pattern) ∨
        (fullmatch highEntropySecretField.pattern value.toList ∧ suspiciousKey keyName) := by
  have htext : ∀ p ∈ textPatterns, p.fires keyName value = matchesPattern value p.pattern := by
    intro p hp
    have hkey : p.appliesToKey = none := by
      simp only [textPatterns, List.mem_cons, List.not_mem_nil, or_false] at hp
      rcases hp with rfl | rfl | rfl | rfl <;> rfl
    rw [SecretPattern.fires, hkey]
    rfl
  have hfield : highEntropySecretField.fires keyName value =
      (suspiciousKey keyName && fullmatch highEntropySecretField.pattern value.toList) := rfl
  constructor
  · rintro ⟨p, hp, hfires⟩
    rcases List.mem_append.mp hp with hp | hp
    · exact Or.inl ⟨p, hp, htext p hp ▸ hfires⟩
    · rw [List.mem_singleton.mp hp, hfield, Bool.and_eq_true] at hfires
      exact Or.inr ⟨hfires.2, hfires.1⟩
  · rintro (⟨p, hp, hmatch⟩ | ⟨hmatch, hkey⟩)
    · exact ⟨p, List.mem_append_left _ hp, (htext p hp).symm ▸ hmatch⟩
    · refine ⟨highEntropySecretField, List.mem_append_right _ (List.mem_singleton_self _), ?_⟩
      rw [hfield, Bool.and_eq_true]
      exact ⟨hkey, hmatch⟩

/-- The scan of one leaf. -/
theorem scanString_eq (l : Leaf) :
    scanString l.value (dotted l.path) =
      if fullmatch envVarNamePattern l.value.toList then .ok ()
      else match defaultPatterns.find? (·.fires l.keyName l.value) with
        | some p => .error (.secretDetected (secretDetectedMessage (dotted l.path) p.name) (dotted l.path))
        | none => .ok () := by
  rw [← keyName_eq]
  rfl

/-- What `_scan_string` does with a string. -/
theorem scanString_cases (l : Leaf) :
    (l.Found ∧ ∃ message keyPath,
        scanString l.value (dotted l.path) = .error (.secretDetected message keyPath)) ∨
      (¬ l.Found ∧ scanString l.value (dotted l.path) = .ok ()) := by
  rw [scanString_eq]
  by_cases henv : fullmatch envVarNamePattern l.value.toList
  · rw [if_pos henv]
    exact Or.inr ⟨fun h => h.1 henv, rfl⟩
  · rw [if_neg henv]
    cases hfind : defaultPatterns.find? (·.fires l.keyName l.value) with
    | none =>
        refine Or.inr ⟨?_, rfl⟩
        rintro ⟨-, h⟩
        obtain ⟨p, hp, hfires⟩ := (exists_fires_iff l.keyName l.value).mpr h
        exact List.find?_eq_none.mp hfind p hp hfires
    | some p =>
        have hfires := (exists_fires_iff l.keyName l.value).mp
          ⟨p, List.mem_of_find?_eq_some hfind, List.find?_some hfind⟩
        exact Or.inl ⟨⟨henv, hfires⟩, _, _, rfl⟩

/-! ### What is found -/

/-- The strings of a walk. -/
def stringsOf : List Visit → List Leaf
  | [] => []
  | .leaf l :: vs => l :: stringsOf vs
  | .noText _ :: vs => stringsOf vs

/-- The strings that the scan reaches: those before the first key without a text. -/
def reachedOf : List Visit → List Leaf
  | [] => []
  | .leaf l :: vs => l :: reachedOf vs
  | .noText _ :: _ => []

/-- `scan` raises a `ConfigSecretDetectedError`. -/
def DetectsSecret (tree : RawConfigTree) : Prop :=
  ∃ message keyPath, scan tree = .error (.secretDetected message keyPath)

/-- The strings of a tree. -/
def strings (tree : RawConfigTree) : List Leaf := stringsOf (visits (.mapping tree) [])

/-- The strings of a tree that the scan reaches. -/
def reached (tree : RawConfigTree) : List Leaf := reachedOf (visits (.mapping tree) [])

/-- The scan raises at the first string that is found. -/
theorem checkAll_secret_iff (vs : List Visit) :
    (∃ message keyPath, checkAll vs = .error (.secretDetected message keyPath)) ↔
      ∃ l ∈ reachedOf vs, l.Found := by
  induction vs with
  | nil => exact iff_of_false (by simp [checkAll]) (by simp [reachedOf])
  | cons v vs ih =>
      cases v with
      | noText e =>
          have hraise : checkAll (.noText e :: vs) = .error (.other e) := rfl
          refine iff_of_false ?_ (by simp [reachedOf])
          rintro ⟨message, keyPath, herror⟩
          rw [hraise] at herror
          cases herror
      | leaf l =>
          rw [reachedOf, List.exists_mem_cons_iff, ← ih]
          rcases scanString_cases l with ⟨hfound, message, keyPath, herror⟩ | ⟨hfound, hok⟩
          · refine iff_of_true ⟨message, keyPath, ?_⟩ (Or.inl hfound)
            rw [checkAll, Visit.check, herror]
            rfl
          · rw [or_iff_right hfound, checkAll, Visit.check, hok]
            rfl

/-- A secret is detected at a leaf that the scan gets to. -/
theorem detectsSecret_iff (tree : RawConfigTree) : DetectsSecret tree ↔ ∃ l ∈ reached tree, l.Found := by
  rw [DetectsSecret, scan, reached, ← checkAll_secret_iff, ← scanNode_eq]
  rfl

/-- A long run of secret characters that is no environment variable and lies beneath a suspicious
key, however deep. -/
structure Leaf.NestedSecret (l : Leaf) : Prop where
  highEntropy : l.HighEntropy
  notEnvVarName : ¬ l.IsEnvVarName
  beneath : ∃ k, Segment.key k ∈ l.path ∧ suspiciousKey (Segment.key k).text

/-- **Nested secrets are found** where there are none, or where the scan reaches a string that
gives itself away or whose own key does. -/
theorem nested_secrets_found_iff (tree : RawConfigTree) :
    (∀ l ∈ strings tree, l.NestedSecret → DetectsSecret tree) ↔
      (∀ l ∈ strings tree, ¬ l.NestedSecret) ∨ ∃ l ∈ reached tree, l.Found := by
  rw [← detectsSecret_iff]
  constructor
  · intro h
    by_cases hdetects : DetectsSecret tree
    · exact Or.inr hdetects
    · exact Or.inl fun l hl hsecret => hdetects (h l hl hsecret)
  · rintro (hnone | hdetects) l hl hsecret
    · exact absurd hsecret (hnone l hl)
    · exact hdetects

/-- A password in a list. -/
def passwordInList : RawConfigTree :=
  [(.str "password", .list [.str (String.ofList (List.replicate 40 'a'))])]

/-- The index of the list hides the key. -/
theorem password_in_list_missed :
    ¬ ∀ l ∈ strings passwordInList, l.NestedSecret → DetectsSecret passwordInList := by
  intro h
  let l : Leaf := ⟨[.key (.str "password"), .index 0], String.ofList (List.replicate 40 'a')⟩
  have hsecret : l.NestedSecret :=
    { highEntropy := by unfold Leaf.HighEntropy; decide +kernel
      notEnvVarName := by unfold Leaf.IsEnvVarName; decide +kernel
      beneath := ⟨.str "password", List.mem_cons_self .., by decide +kernel⟩ }
  obtain ⟨message, keyPath, herror⟩ := h l (List.mem_singleton.mpr rfl) hsecret
  have hok : scan passwordInList = .ok () := by decide +kernel
  rw [hok] at herror
  cases herror

end Secrets

end CartoonDemo
