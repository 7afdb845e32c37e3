import CartoonDemo.Library.Gather
import CartoonDemo.Library.Json

/-!
# CartoonDemo.Collector.HnClient

The **client of the feed** (`collector/hn_client.py`): the feed is a list of identifiers, and every
item is fetched by a thread of its own. A failed item is a result like the others, except that a
fatal failure of the first one ends the fetching (`fetchOne_error`); so the results do not depend
on the order in which the threads complete (`fetchAll_perm`).

`loads` stands for `json.loads` of bytes, and `get` for what the service answers to the request
for an item, which is made once for each entry of the feed.
-/

namespace CartoonDemo

namespace Collector

/-! ### Errors

Which exceptions of the transport end a run.
-/

inductive CollectorErrorKind
  | fetch | response | timeout
  deriving DecidableEq, Repr

def CollectorErrorKind.code : CollectorErrorKind → String
  | fetch => "COL_FETCH"
  | response => "COL_RESPONSE"
  | timeout => "COL_TIMEOUT"

def CollectorErrorKind.retryable : CollectorErrorKind → Bool
  | response => false
  | _ => true

/-- `CollectorError`, with its message. -/
structure CollectorError where
  kind : CollectorErrorKind
  message : String
  deriving DecidableEq, Repr

/-- What a run raises: a `CollectorError`, or an exception of the language by its name. -/
inductive CollectException
  | collector (e : CollectorError)
  | py (name : String)
  deriving DecidableEq, Repr

/-- An error with the message of `collector_error_message`. -/
def CollectorErrorKind.error (kind : CollectorErrorKind) (reason : String) : CollectorError where
  kind
  message := kind.code ++ ": " ++ reason ++ " (retryable=" ++
    (if kind.retryable then "True" else "False") ++ ")"

/-- What `client.get` raises. -/
inductive HttpException
  /-- `TimeoutError`, which is an `OSError`. -/
  | timeoutError
  /-- Another `OSError`, such as a `ConnectionError`. -/
  | osError
  /-- `httpx.TimeoutException`. -/
  | httpxTimeout
  /-- Another `httpx.TransportError`. -/
  | httpxTransport
  | other
  deriving DecidableEq, Repr

def HttpException.isFatalTransport : HttpException → Bool
  | timeoutError | osError | httpxTransport => true
  | httpxTimeout | other => false

def HttpException.isTimeout : HttpException → Bool
  | timeoutError | httpxTimeout => true
  | _ => false

/-- `classify_feed_failure` of an exception. -/
def classifyFeedException (exc : HttpException) : CollectorError :=
  if exc.isTimeout then CollectorErrorKind.timeout.error "feed fetch exceeded deadline"
  else if exc.isFatalTransport then
    CollectorErrorKind.fetch.error "feed transport connection failed"
  else CollectorErrorKind.fetch.error "feed fetch failed"

/-- `_RETRYABLE_HTTP_STATUSES`. -/
def retryableHttpStatuses : List ℕ := [408, 429, 500, 502, 503, 504]

/-- `classify_feed_failure` of a status code. -/
def classifyFeedStatus (statusCode : ℕ) : CollectorError :=
  let reason := "feed HTTP status " ++ toString statusCode
  if statusCode ∈ retryableHttpStatuses then CollectorErrorKind.fetch.error reason
  else if 400 ≤ statusCode ∧ statusCode < 500 then CollectorErrorKind.response.error reason
  else if 500 ≤ statusCode then CollectorErrorKind.fetch.error reason
  else CollectorErrorKind.fetch.error "feed fetch failed"

/-! ### Responses -/

abbrev Bytes := List UInt8

/-- White space in `bytes.strip`. -/
def isSpaceByte (b : UInt8) : Bool := (9 ≤ b && b ≤ 13) || b = 32

/-- `body.strip()`. -/
def stripBytes (body : Bytes) : Bytes := (body.dropWhile isSpaceByte).rdropWhile isSpaceByte

structure Response where
  statusCode : ℕ
  content : Bytes

/-- What `json.loads` raises. -/
inductive LoadsError
  | jsonDecodeError
  /-- Another exception, such as a `UnicodeDecodeError` or the `ValueError` of an integer with too
  many digits. -/
  | other (name : String)

/-- An entry of the feed: what Python counts as an integer. -/
inductive StoryId
  | int (n : ℤ)
  | bool (b : Bool)
  deriving DecidableEq, Repr

/-- `str(story_id)`. -/
def StoryId.str : StoryId → String
  | int n => toString n
  | bool b => if b then "True" else "False"

/-- The entries of the feed, up to the first that is no integer. -/
def storyIdsOf : List Json → Option (List StoryId)
  | [] => some []
  | .int n :: items => (storyIdsOf items).map (.int n :: ·)
  | .bool b :: items => (storyIdsOf items).map (.bool b :: ·)
  | _ :: _ => none

inductive ErrorKind
  | none | timeout | connection | http
  deriving DecidableEq, Repr

structure ItemFetchResult where
  sourceId : String
  statusCode : Option ℕ
  body : Option Bytes
  errorKind : ErrorKind

inductive ItemOutcome
  | skip | rejectJson | ok
  deriving DecidableEq, Repr

section Decode

variable (loads : Bytes → Except LoadsError Json)

/-- `decode_feed`. -/
def decodeFeed (body : Bytes) : Except CollectException (List StoryId) :=
  match loads body with
  | .error .jsonDecodeError =>
      .error (.collector (CollectorErrorKind.response.error "feed response is not valid JSON"))
  | .error (.other name) => .error (.py name)
  | .ok (.arr items) =>
      match storyIdsOf items with
      | some storyIds => .ok storyIds
      | none => .error (.collector (CollectorErrorKind.response.error
          "feed response array contains non-integer values"))
  | .ok _ =>
      .error (.collector (CollectorErrorKind.response.error "feed response is not a JSON array"))

/-- `decode_item`; `None` where there is no item. -/
def decodeItem (body : Bytes) (sourceId : String) :
    Except CollectException (Option (List (String × Json))) :=
  if stripBytes body = [] then .ok none
  else match loads body with
    | .error .jsonDecodeError => .error (.collector (CollectorErrorKind.response.error
        ("item " ++ sourceId ++ " response is not valid JSON")))
    | .error (.other name) => .error (.py name)
    | .ok .null => .ok none
    | .ok (.obj payload) => .ok (some payload)
    | .ok _ => .error (.collector (CollectorErrorKind.response.error
        ("item " ++ sourceId ++ " response is not a JSON object")))

/-- `classify_item_failure`. -/
def classifyItemFailure (result : ItemFetchResult) : Except CollectException ItemOutcome :=
  if result.errorKind ≠ .none then .ok .skip
  else if result.statusCode ≠ some 200 then .ok .skip
  else match result.body with
    | none => .ok .ok
    | some body =>
        if stripBytes body = [] then .ok .ok
        else match loads (stripBytes body) with
          | .error .jsonDecodeError => .ok .rejectJson
          | .error (.other name) => .error (.py name)
          | .ok .null => .ok .ok
          | .ok (.obj _) => .ok .ok
          | .ok _ => .ok .rejectJson

/-! ### Fetching

The items are fetched together; the first fatal failure ends all of them.
-/

/-- `FeedFetcher.fetch`, with what the service answers. -/
def fetchFeed (answer : Except HttpException Response) : Except CollectException (List StoryId) :=
  match answer with
  | .error exc => .error (.collector (classifyFeedException exc))
  | .ok response =>
      if response.statusCode ≠ 200 then
        .error (.collector (classifyFeedStatus response.statusCode))
      else decodeFeed loads response.content

end Decode

section Fetch

variable (get : ℕ → StoryId → Except HttpException Response)

/-- The result of a fetch that is not fatal. -/
def itemFetchResult (storyId : StoryId) : Except HttpException Response → ItemFetchResult
  | .error exc =>
      { sourceId := storyId.str
        statusCode := none
        body := none
        errorKind := if exc.isTimeout then .timeout else .connection }
  | .ok response =>
      { sourceId := storyId.str
        statusCode := some response.statusCode
        body := some response.content
        errorKind := if response.statusCode ≠ 200 then .http else .none }

/-- `fetch_one`. -/
def fetchOne (index : ℕ) (storyId : StoryId) : Except CollectException ItemFetchResult :=
  match get index storyId with
  | .error exc =>
      if exc.isFatalTransport ∧ index = 0 then .error (.collector (classifyFeedException exc))
      else .ok (itemFetchResult storyId (.error exc))
  | .ok response => .ok (itemFetchResult storyId (.ok response))

/-- The task of a thread; there is one for every entry of the feed. -/
def fetchTask (storyIds : List StoryId) (index : ℕ) : Except CollectException ItemFetchResult :=
  fetchOne get index (storyIds.getD index (.int 0))

/-- `fetch_all`, whose futures complete in the given order. -/
def fetchAll (storyIds : List StoryId) (order : List ℕ) :
    Except CollectException (List ItemFetchResult) :=
  if storyIds = [] then .ok []
  else (gather (fetchTask get storyIds) order (List.replicate storyIds.length none)).map
    fun results => results.filterMap id

/-- Only the first fetch can fail. -/
theorem fetchOne_error {index : ℕ} {storyId : StoryId} {e : CollectException}
    (h : fetchOne get index storyId = .error e) : index = 0 := by
  rw [fetchOne] at h
  split at h
  · next exc _ =>
      by_cases hfatal : exc.isFatalTransport ∧ index = 0
      · exact hfatal.2
      · rw [if_neg hfatal] at h
        cases h
  · cases h

theorem failAlike_fetchTask (storyIds : List StoryId) : FailAlike (fetchTask get storyIds) := by
  intro i j e e' hi hj
  obtain rfl := fetchOne_error get hi
  obtain rfl := fetchOne_error get hj
  exact Except.error.inj (hi.symm.trans hj)

/-- **The results do not depend on the order** in which the fetches complete. -/
theorem fetchAll_perm (storyIds : List StoryId) {order order' : List ℕ} (h : order.Perm order') :
    fetchAll get storyIds order = fetchAll get storyIds order' := by
  rw [fetchAll, fetchAll, gather_perm (failAlike_fetchTask get storyIds) h]

/-- The first fetch does not end the run. -/
def NotFatal (storyIds : List StoryId) : Prop :=
  ∀ exc, get 0 (storyIds.getD 0 (.int 0)) = .error exc → exc.isFatalTransport = false

/-- Otherwise there is one result for each entry of the feed, in the order of the feed. -/
theorem fetchAll_complete {storyIds : List StoryId} (h : NotFatal get storyIds) {order : List ℕ}
    (horder : order.Perm (List.range storyIds.length)) :
    fetchAll get storyIds order = .ok ((List.range storyIds.length).map fun i =>
      itemFetchResult (storyIds.getD i (.int 0)) (get i (storyIds.getD i (.int 0)))) := by
  have hrun : ∀ i, fetchTask get storyIds i =
      .ok (itemFetchResult (storyIds.getD i (.int 0)) (get i (storyIds.getD i (.int 0)))) := by
    intro i
    rw [fetchTask, fetchOne]
    split
    · next exc hexc =>
        have hnot : ¬ (exc.isFatalTransport ∧ i = 0) := by
          rintro ⟨hfatal, rfl⟩
          rw [h exc hexc] at hfatal
          cases hfatal
        rw [if_neg hnot, hexc]
    · next response hresponse => rw [hresponse]
  rw [fetchAll]
  by_cases hempty : storyIds = []
  · subst hempty
    rfl
  · rw [if_neg hempty, gather_complete hrun horder, Except.map]
    simp [List.filterMap_map]

end Fetch

end Collector

end CartoonDemo
