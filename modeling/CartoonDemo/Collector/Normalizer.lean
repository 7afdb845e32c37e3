import CartoonDemo.Collector.HnClient
import CartoonDemo.Collector.Types
import CartoonDemo.Library.PyFind
import CartoonDemo.Library.PyTimestamp
import CartoonDemo.Library.PyUrl
import CartoonDemo.Library.Regex
import CartoonDemo.Library.SortBy
import Mathlib.Data.String.Basic

/-!
# CartoonDemo.Collector.Normalizer

The **normalisation of an observation** (`collector/hn_parser.py`, `collector/normalizer.py` and the
texts of `collector/messages.py`): an observation becomes a draft, or it is rejected. The time of
the collection is written into the result and otherwise makes no difference, so the fields are
normalised without it (`normalizeFields`).

`lib` has the functions of `urllib.parse`, and `render` stands for Python's `str` of a value that
is not a string.
-/

namespace CartoonDemo

namespace Collector

open PyStr

/-! ### Texts of rejections -/

/-- `ERROR_DETAIL_MAX_LENGTH`. -/
def errorDetailMaxLength : ℕ := 200

/-- `rejection_detail`. -/
def rejectionDetail (reasonCode : RejectionReason) (stage field : Option String) : String :=
  let message := match reasonCode, stage, field with
    | .validationFailed, some stage, some field => "validation failed at " ++ stage ++ ": " ++ field
    | .validationFailed, some stage, none => "validation failed at " ++ stage
    | .validationFailed, none, _ => "validation failed"
    | .normalizationFailed, some stage, _ => "normalization failed at " ++ stage
    | .normalizationFailed, none, _ => "normalization failed"
    | .duplicate, _, _ => "duplicate source_id in feed order"
    | .untrustedContent, _, _ => "untrusted control characters in content"
  String.ofList (message.toList.take errorDetailMaxLength)

/-- Why an observation is rejected, under which identifier. -/
structure Rejection where
  sourceId : String
  reasonCode : RejectionReason
  stage : Option String := none
  field : Option String := none
  deriving DecidableEq, Repr

/-- The record of a rejection. -/
def Rejection.record (r : Rejection) (collectedAt : PyDatetime) (rawObservation : RawObservation) :
    RejectedStoryRecord where
  sourceId := r.sourceId
  collectedAt
  rawObservation
  reasonCode := r.reasonCode
  reasonDetail := rejectionDetail r.reasonCode r.stage r.field

/-! ### Parsing an item -/

/-- `value == "story"`. -/
def isStory : Json → Bool
  | .str s => s = "story"
  | _ => false

/-- `value is True`. -/
def isTrue : Json → Bool
  | .bool b => b
  | _ => false

inductive ParseOutcome
  | story | skip | rejectDeleted
  deriving DecidableEq, Repr

/-- `parse_item`; a story is passed on as it is. -/
def parseItem (observation : RawObservation) : ParseOutcome :=
  if !isStory (Json.get observation "type") then .skip
  else if isTrue (Json.get observation "deleted") then .rejectDeleted
  else .story

/-! ### Canonical URLs

`urllib.parse` is a parameter; what is done with the parts of an URL is here.
-/

inductive UrlError
  /-- `UrlCanonicalizationError`. -/
  | canonicalization (message : String)
  /-- An exception of the library, by its name. -/
  | py (name : String)
  deriving DecidableEq, Repr

/-- `if not condition: raise error`. -/
def ensure {ε : Type} (condition : Prop) [Decidable condition] (error : ε) : Except ε Unit :=
  if condition then .ok () else .error error

/-- The port that is written in the URL. -/
def explicitPort (trimmed : List Char) : Except UrlError (Option ℤ) :=
  match cut [':', '/', '/'] trimmed with
  | none => .ok none
  | some (_, rest) =>
      match cut [':'] (rest.takeWhile (· ≠ '/')) with
      | none => .ok none
      | some (_, portValue) =>
          if isDigits portValue then
            match PyInt.parse portValue with
            | some port => .ok (some port)
            | none => .error (.py "ValueError")
          else .ok none

/-- The URL, with a scheme. -/
def withScheme (trimmed : String) : String :=
  if (cut [':', '/', '/'] trimmed.toList).isSome then trimmed else "https://" ++ trimmed

/-- `path.replace("//", "/")`. -/
def replaceSlashes : List Char → List Char
  | '/' :: '/' :: path => '/' :: replaceSlashes path
  | c :: path => c :: replaceSlashes path
  | [] => []

/-- `while "//" in path`; every round makes the path shorter. -/
def collapseSlashes : (rounds : ℕ) → List Char → List Char
  | 0, path => path
  | rounds + 1, path =>
      if (cut ['/', '/'] path).isSome then collapseSlashes rounds (replaceSlashes path) else path

/-- The path with single slashes, and none at its end. -/
def canonicalPath (path : List Char) : List Char :=
  let path := collapseSlashes path.length path
  if path ≠ ['/'] ∧ path.getLast? = some '/' then path.rdropWhile (· = '/') else path

/-- `TRACKING_PARAM_PATTERN`. -/
def trackingParamPattern : Regex :=
  .seqs
    [.start,
     .alts
       [.seq (.literal Regex.ignoreCase "utm_") (.chars (· ≠ '\n') 0 none),
        .literal Regex.ignoreCase "fbclid",
        .literal Regex.ignoreCase "gclid"],
     .finish]

section Canonicalize

variable (lib : Urllib)

/-- The parameters of a query that are kept, sorted by name. -/
def keptParams (query : String) : List (String × String) :=
  sortBy Prod.fst
    ((lib.parseQsl query).filter fun param =>
      !Regex.matchesPrefix trackingParamPattern param.1.toList)

/-- The port, where it is not the default of the scheme. -/
def keptPort (scheme : String) (port : Option ℕ) : Option ℕ :=
  if (scheme = "https" ∧ port = some 443) ∨ (scheme = "http" ∧ port = some 80) then none else port

/-- `UrlCanonicalizer.canonicalize`. -/
def canonicalize (url : String) : Except UrlError String := do
  let trimmed := strip url
  ensure (trimmed ≠ "") (.canonicalization "empty URL")
  let explicit ← explicitPort trimmed.toList
  let parsed ← (lib.urlparse (withScheme trimmed)).mapError .py
  let scheme := lib.lower parsed.scheme
  let host := parsed.hostname.getD ""
  ensure (host ≠ "") (.canonicalization ("unparseable URL: " ++ trimmed))
  ensure ('.' ∈ host.toList ∨ isDigits host.toList) (.canonicalization ("invalid host: " ++ host))
  ensure (scheme = "http" ∨ scheme = "https") (.canonicalization ("unsupported scheme: " ++ scheme))
  let scheme := if scheme = "http" ∧ explicit = none then "https" else scheme
  let host := lib.lower host
  let host ← match lib.idna host with
    | some host => .ok host
    | none => .error (.canonicalization ("invalid host encoding: " ++ host))
  let port ← parsed.port.mapError .py
  let query ← (lib.urlencode (keptParams lib parsed.query)).mapError .py
  let netloc := match keptPort scheme port with
    | none => host
    | some port => host ++ ":" ++ toString port
  return lib.urlunparse scheme netloc (String.ofList (canonicalPath parsed.path.toList)) query

end Canonicalize

/-! ### Normalising the fields

A field is refused, or an exception of another class passes.
-/

/-- `CONTROL_CHAR_PATTERN`. -/
def isControlChar (c : Char) : Bool :=
  c.toNat ≤ 0x08 || c.toNat = 0x0b || c.toNat = 0x0c || (0x0e ≤ c.toNat && c.toNat ≤ 0x1f)

/-- `UntrustedContentGuard.check`. -/
def checkContent (values : List (Option String)) : Bool :=
  values.all fun value => value.all fun text => !text.toList.any isControlChar

/-- `_collapse_title_whitespace`; `inSpace` tells whether the last character was white space. -/
def collapseTitleWhitespace (inSpace : Bool) : List Char → List Char
  | [] => []
  | c :: title =>
      if isSpace c then
        if inSpace then collapseTitleWhitespace true title
        else ' ' :: collapseTitleWhitespace true title
      else c :: collapseTitleWhitespace false title

/-- The fields of a draft that are made of the observation. -/
structure StoryFields where
  sourceId : String
  title : String
  url : Option String
  author : Option String
  score : Option ℤ
  commentCount : Option ℤ
  publishedAt : Option PyDatetime

/-- An observation that becomes no draft. -/
inductive Refusal
  | rejected (r : Rejection)
  /-- An exception, by its name. -/
  | raised (name : String)
  deriving DecidableEq, Repr

/-- `_stage_published_at`. -/
def stagePublishedAt (rejection : Rejection) : Json → Except Refusal (Option PyDatetime)
  | .null => .ok none
  | .int n =>
      match PyFloat.ofInt n with
      | none => .error (.raised "OverflowError")
      | some x => fromFloat x
  | .float x => fromFloat x
  | _ => .error (.rejected rejection)
where
  fromFloat (x : PyFloat) : Except Refusal (Option PyDatetime) :=
    match PyDatetime.fromTimestamp x with
    | some published => .ok (some published)
    | none => .error (.raised "OverflowError, OSError or ValueError")

/-- `int(value)` of a number that is no `bool`, and `None` of anything else. -/
def intSignal : Json → Except Refusal (Option ℤ)
  | .int n => .ok (some n)
  | .float x =>
      match Json.toInt (.float x) with
      | some n => .ok (some n)
      | none => .error (.raised (if x = .nan then "ValueError" else "OverflowError"))
  | _ => .ok none

section Normalize

variable (lib : Urllib) (render : Json → String)

/-- `str(value).strip()`; `None` and the empty text are `None`. -/
def textOrNone : Json → Option String
  | .null => none
  | value =>
      let text := strip (value.toStr render)
      if text = "" then none else some text

/-- The canonical URL; one with another scheme is kept as it is. -/
def stageUrl (rejection : Rejection) : Option String → Except Refusal (Option String)
  | none => .ok none
  | some url =>
      match canonicalize lib url with
      | .ok canonical => .ok (some canonical)
      | .error (.py name) => .error (.raised name)
      | .error (.canonicalization _) =>
          match lib.urlparse (strip url) with
          | .error name => .error (.raised name)
          | .ok parsed =>
              if parsed.scheme ≠ "" ∧ parsed.scheme ≠ "http" ∧ parsed.scheme ≠ "https" then
                .ok (some (strip url))
              else .error (.rejected rejection)

/-- There is no title, or an empty one. -/
def missingTitle : Json → Bool
  | .null => true
  | .str s => strip s = ""
  | _ => false

/-- What `normalize` makes of the observation. -/
def normalizeFields (observation : RawObservation) : Except Refusal StoryFields := do
  let sourceId := Json.strOf render observation "id" ""
  ensure (isStory (Json.get observation "type")) (.rejected
    { sourceId := if sourceId = "" then "unknown" else sourceId
      reasonCode := .validationFailed, stage := some "type_gate" })
  ensure (sourceId ≠ "" ∧ sourceId ≠ "None") (.rejected
    { sourceId := "unknown", reasonCode := .validationFailed, stage := some "required_fields"
      field := some "source_id" })
  let titleRaw := Json.get observation "title"
  ensure (!missingTitle titleRaw) (.rejected
    { sourceId, reasonCode := .validationFailed, stage := some "required_fields"
      field := some "title" })
  let title := String.ofList
    (collapseTitleWhitespace false (strip (titleRaw.toStr render)).toList)
  let author := textOrNone render (Json.get observation "by")
  let url := textOrNone render (Json.get observation "url")
  ensure (title ≠ "") (.rejected
    { sourceId, reasonCode := .normalizationFailed, stage := some "whitespace" })
  let canonicalUrl ← stageUrl lib
    { sourceId, reasonCode := .normalizationFailed, stage := some "url" } url
  let publishedAt ← stagePublishedAt
    { sourceId, reasonCode := .validationFailed, stage := some "timestamp" }
    (Json.get observation "time")
  let score ← intSignal (Json.get observation "score")
  let commentCount ← intSignal (Json.get observation "descendants")
  ensure (checkContent [some title, canonicalUrl, author]) (.rejected
    { sourceId, reasonCode := .untrustedContent })
  return { sourceId, title, url := canonicalUrl, author, score, commentCount, publishedAt }

/-- The draft of the fields. -/
def StoryFields.draft {K : Type} (f : StoryFields) (collectedAt : PyDatetime)
    (rawObservation : RawObservation) : StoryRecord K where
  sourceId := f.sourceId
  collectedAt
  rawObservation
  title := some f.title
  url := f.url
  author := f.author
  score := f.score
  commentCount := f.commentCount
  publishedAt := f.publishedAt

/-- `StoryNormalizer.normalize`: a draft, or a rejection. -/
def normalize {K : Type} (observation : RawObservation) (collectedAt : PyDatetime) :
    Except CollectException (StoryRecord K ⊕ RejectedStoryRecord) :=
  match normalizeFields lib render observation with
  | .ok fields => .ok (.inl (fields.draft collectedAt observation))
  | .error (.rejected r) => .ok (.inr (r.record collectedAt observation))
  | .error (.raised name) => .error (.py name)

end Normalize

end Collector

end CartoonDemo
