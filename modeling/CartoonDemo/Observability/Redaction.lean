import CartoonDemo.Library.PyFind
import CartoonDemo.Library.PyText
import CartoonDemo.Library.Regex

/-!
# CartoonDemo.Observability.Redaction

The **redaction of secrets** (`observability/redaction.py`): substitutions that run over a text one
after the other. A placeholder may be longer than the secret it stands for, so a redacted text
may be longer than the text.
-/

namespace CartoonDemo

namespace Observability

open Regex

/-! ### Patterns

The patterns of the source, one by one.
-/

/-- `REDACTION_PLACEHOLDER`. -/
def redactionPlaceholder : String := "[REDACTED]"

/-- `FORBIDDEN_LOG_FIELDS`. -/
def forbiddenLogFields : List String :=
  ["prompt", "response", "api_key", "token", "authorization", "password", "secret"]

/-- `FORBIDDEN_TRACE_ATTRIBUTE_KEYS`. -/
def forbiddenTraceAttributeKeys : List String :=
  forbiddenLogFields ++ ["request_body", "response_body"]

/-- `_CREDENTIAL_LIKE_KEY_TERMS`. -/
def credentialLikeKeyTerms : List String :=
  ["api_key", "apikey", "token", "password", "secret", "credential", "authorization"]

/-- The class `[A-Za-z0-9\-._~+/]`. -/
def isTokenChar (c : Char) : Bool :=
  c.isAlphanum || c = '-' || c = '.' || c = '_' || c = '~' || c = '+' || c = '/'

/-- The class `[A-Za-z0-9_-]`. -/
def isJwtChar (c : Char) : Bool := c.isAlphanum || c = '_' || c = '-'

/-- The class `[^\s'\",]`. -/
def isSecretChar (c : Char) : Bool :=
  !PyStr.isSpace c && c ≠ '\'' && c ≠ '"' && c ≠ ','

/-- The class `[0-9a-fA-F]`. -/
def isHexChar (c : Char) : Bool :=
  c.isDigit || ('a' ≤ c && c ≤ 'f') || ('A' ≤ c && c ≤ 'F')

/-- `_R001_OPENAI_KEY`. -/
def openaiKey : Regex :=
  seqs [boundary, literal exact "sk-", chars Char.isAlphanum 20 none, boundary]

/-- `_R002_AWS_ACCESS_KEY`. -/
def awsAccessKey : Regex :=
  seqs [boundary, literal exact "AKIA", chars (fun c => c.isDigit || c.isUpper) 16 (some 16), boundary]

/-- `_R003_BEARER_TOKEN`. -/
def bearerToken : Regex :=
  seqs
    [boundary, literal exact "Bearer", chars PyStr.isSpace 1 none, chars isTokenChar 1 none,
     chars (fun c => c = '=') 0 none, boundary]

/-- `_R004_JWT`. -/
def jwt : Regex :=
  seqs
    [boundary, literal exact "eyJ", chars isJwtChar 1 none, once fun c => c = '.',
     chars isJwtChar 1 none, once fun c => c = '.', chars isJwtChar 1 none, boundary]

/-- What follows the label of an assignment: `\s*[:=]\s*['\"]?[^\s'\",]{min,}`. -/
def assignedSecret (min : Nat) : List Regex :=
  [spaces, once fun c => c = ':' || c = '=', spaces, optional fun c => c = '\'' || c = '"',
   chars isSecretChar min none]

/-- `_R005_API_KEY_ASSIGNMENT`. -/
def apiKeyAssignment : Regex :=
  seqs (group (alts
    [seqs [literal ignoreCase "api", optional fun c => c = '_' || c = '-', literal ignoreCase "key"],
     literal ignoreCase "apikey"]) :: assignedSecret 8)

/-- `_R006_AUTHORIZATION_HEADER`. -/
def authorizationHeader : Regex := seqs (literal ignoreCase "authorization" :: assignedSecret 1)

/-- `_R007_ENV_STYLE_SECRET`. -/
def envStyleSecret : Regex :=
  seqs (group (alts (["password", "secret", "token", "credential"].map (literal ignoreCase))) ::
    assignedSecret 4)

/-- `_R008_HEX_SECRET`. -/
def hexSecret : Regex := seqs [boundary, chars isHexChar 32 none, boundary]

/-! ### Substitutions

Each pattern with what is put in its place.
-/

/-- A pattern, with what replaces its matches. -/
structure Scrubber where
  pattern : Regex
  repl : Cursor → Cursor → List Char

/-- `pattern.sub(repl, s)`. -/
def Scrubber.scrub (scrubber : Scrubber) (s : List Char) : List Char :=
  sub scrubber.pattern scrubber.repl s

/-- The same text for every match. -/
def placeholder (text : String) : Cursor → Cursor → List Char := fun _ _ => text.toList

/-- `_repl_assignment`, but for the authorization header. -/
def replAssignment (c m : Cursor) : List Char :=
  let separator := if ':' ∈ c.upTo m then ": " else "="
  m.captured ++ separator.toList ++ redactionPlaceholder.toList

/-- `_STRING_SCRUBBERS`. -/
def stringScrubbers : List Scrubber :=
  [⟨openaiKey, placeholder "[REDACTED:api_key]"⟩,
   ⟨awsAccessKey, placeholder "[REDACTED:api_key]"⟩,
   ⟨bearerToken, placeholder "[REDACTED:token]"⟩,
   ⟨jwt, placeholder "[REDACTED:jwt]"⟩]

/-- `_ASSIGNMENT_SCRUBBERS`; the header has a replacement of its own in `_repl_assignment`. -/
def assignmentScrubbers : List Scrubber :=
  [⟨apiKeyAssignment, replAssignment⟩,
   ⟨authorizationHeader, placeholder "[REDACTED:token]"⟩,
   ⟨envStyleSecret, replAssignment⟩]

def hexScrubber : Scrubber := ⟨hexSecret, placeholder redactionPlaceholder⟩

/-- `_is_credential_like_key`. -/
def isCredentialLikeKey (key : String) : Bool :=
  let normalized := PyStr.replaceChar '-' ['_'] (PyWord.lowered key.toList)
  credentialLikeKeyTerms.any fun term => (PyStr.cut term.toList normalized).isSome

/-- The substitutions for the value of an attribute, or of a text without a key. -/
def scrubbersFor (attributeKey : Option String) : List Scrubber :=
  stringScrubbers ++ assignmentScrubbers ++
    (if attributeKey.any isCredentialLikeKey then [hexScrubber] else [])

/-- One substitution after the other. -/
def applyScrubbers : List Scrubber → List Char → List Char
  | [], s => s
  | scrubber :: scrubbers, s => applyScrubbers scrubbers (scrubber.scrub s)

theorem applyScrubbers_append (scrubbers scrubbers' : List Scrubber) (s : List Char) :
    applyScrubbers (scrubbers ++ scrubbers') s = applyScrubbers scrubbers' (applyScrubbers scrubbers s) := by
  induction scrubbers generalizing s with
  | nil => rfl
  | cons scrubber scrubbers ih => exact ih (scrubber.scrub s)

theorem applyScrubbers_eq_self {scrubbers : List Scrubber} {s : List Char}
    (h : ∀ scrubber ∈ scrubbers, scrubber.scrub s = s) : applyScrubbers scrubbers s = s := by
  induction scrubbers with
  | nil => rfl
  | cons scrubber scrubbers ih =>
      rw [applyScrubbers, h scrubber List.mem_cons_self]
      exact ih fun other hother => h other (List.mem_cons_of_mem _ hother)

/-- `_apply_string_scrubbers`. -/
def applyStringScrubbers (value : String) (attributeKey : Option String) : String :=
  String.ofList (applyScrubbers (scrubbersFor attributeKey) value.toList)

/-- `scrub_string`. -/
def scrubString (value : String) : String := applyStringScrubbers value none

/-- `_secret_span`: the first match of the first pattern that matches at all. -/
def secretSpan (value : List Char) (attributeKey : Option String) : Option (Cursor × Cursor) :=
  (scrubbersFor attributeKey).findSome? fun scrubber => search scrubber.pattern value

/-- `matches_secret_pattern`. -/
def matchesSecretPattern (value : String) : Bool := (secretSpan value.toList none).isSome

/-- `_is_entirely_secret`. -/
def isEntirelySecret (value : String) (attributeKey : Option String) : Bool :=
  match secretSpan (PyStr.stripList value.toList) attributeKey with
  | some (c, m) => c.before.isEmpty && m.after.isEmpty
  | none => false

inductive TelemetryError
  | invalidLogEnvelope (message : String)
  | redactionRequired (message : String)
  /-- An exception of the language, by its name. -/
  | py (name : String)
  deriving DecidableEq, Repr

/-- `_redact_string_value`. -/
def redactStringValue (value : String) (attributeKey : Option String) :
    Except TelemetryError String :=
  if isEntirelySecret value attributeKey then
    .error (.redactionRequired "Unredactable secret in telemetry value")
  else .ok (applyStringScrubbers value attributeKey)

/-! ### Where a secret can begin -/

/-- A substitution keeps what comes before the first character that a secret can begin with. -/
theorem scrub_keep {scrubber : Scrubber} {u v w : List Char}
    (hfirst : ∀ x ∈ u, scrubber.pattern.first x = false)
    (h : (piecesFrom scrubber.pattern ⟨u.reverse, v, []⟩).flatMap (Piece.replace scrubber.repl) = w) :
    scrubber.scrub (u ++ v) = u ++ w := by
  have hkeep : (piecesFrom scrubber.pattern ⟨[], u ++ v, []⟩).flatMap (Piece.replace scrubber.repl) =
      u ++ (piecesFrom scrubber.pattern ⟨u.reverse ++ [], v, []⟩).flatMap
        (Piece.replace scrubber.repl) := replaced_keep hfirst
  rw [List.append_nil, h] at hkeep
  exact hkeep

/-- A text is no secret as a whole when no secret begins with its first character. -/
theorem isEntirelySecret_eq_false {value : String} {key : Option String} {x : Char} {s : List Char}
    (hvalue : PyStr.stripList value.toList = x :: s)
    (hfirst : ∀ scrubber ∈ scrubbersFor key, scrubber.pattern.first x = false ∧
      scrubber.pattern.nullable = false) :
    isEntirelySecret value key = false := by
  rw [isEntirelySecret]
  split
  · next c m hspan =>
      rw [secretSpan, hvalue] at hspan
      obtain ⟨scrubber, hmem, hsearch⟩ := List.exists_of_findSome?_eq_some hspan
      obtain ⟨hrun, htext⟩ := searchFrom_some hsearch
      obtain ⟨hx, hnull⟩ := hfirst scrubber hmem
      rw [Bool.and_eq_false_iff]
      left
      -- a match at the beginning would begin with the first character
      by_contra hbefore
      have hnil : c.before = [] := List.isEmpty_iff.mp (Bool.eq_true_of_not_eq_false hbefore)
      rw [hnil] at htext
      rcases first_of_run hrun with ⟨hempty, -⟩ | ⟨y, t, hafter, hy⟩
      · rw [hnull] at hempty
        cases hempty
      · rw [hafter] at htext
        obtain ⟨rfl, -⟩ := List.cons.inj htext
        rw [hx] at hy
        cases hy
  · rfl

end Observability

end CartoonDemo
