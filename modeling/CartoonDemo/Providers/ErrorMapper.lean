import CartoonDemo.Library.PyWord
import CartoonDemo.Types
import Mathlib.Data.List.Infix

/-!
# CartoonDemo.Providers.ErrorMapper

The **errors of the vendors** (`providers/error_mapper.py`, `providers/errors.py`,
`providers/messages.py`): what an extractor reads off an exception of an SDK, the signal it makes
of it, and the `ProviderError` that `VendorErrorMapper` makes of the signal.

Whether an error may be retried depends on its kind alone, and the kind of a status error on the
status: `retryable_map_failure` says on which, and the lemmas about the extractors say that the
status gets there.
-/

namespace CartoonDemo

namespace VendorErrorMapper

/-! ### Errors -/

/-- `ProviderErrorClass`. -/
inductive ProviderErrorClass
  | timeout | rateLimit | authentication | providerUnavailable | providerError | networkError
  | schemaValidation | unknown
  deriving DecidableEq, Repr

def ProviderErrorClass.value : ProviderErrorClass → String
  | timeout => "timeout"
  | rateLimit => "rate_limit"
  | authentication => "authentication"
  | providerUnavailable => "provider_unavailable"
  | providerError => "provider_error"
  | networkError => "network_error"
  | schemaValidation => "schema_validation"
  | unknown => "unknown"

/-- The subclasses of `ProviderError` that a mapped failure can be. -/
inductive ErrorType
  | timeout | rateLimit | authentication | unavailable | response | network | schemaValidation
  | unknown
  deriving DecidableEq, Repr

namespace ErrorType

/-- The class attribute `code`. -/
def code : ErrorType → String
  | timeout => "PRV_TIMEOUT"
  | rateLimit => "PRV_RATE"
  | authentication => "PRV_AUTH"
  | unavailable => "PRV_UNAVAILABLE"
  | response => "PRV_ERROR"
  | network => "PRV_NETWORK"
  | schemaValidation => "PRV_SCHEMA"
  | unknown => "PRV_UNKNOWN"

/-- The class attribute `error_class`. -/
def errorClass : ErrorType → ProviderErrorClass
  | timeout => .timeout
  | rateLimit => .rateLimit
  | authentication => .authentication
  | unavailable => .providerUnavailable
  | response => .providerError
  | network => .networkError
  | schemaValidation => .schemaValidation
  | unknown => .unknown

/-- The class attribute `retryable`. -/
def retryable : ErrorType → Bool
  | timeout | rateLimit | unavailable | network => true
  | authentication | response | schemaValidation | unknown => false

end ErrorType

/-- `_DEFAULT_RETRYABLE`. -/
def defaultRetryable : ProviderErrorClass → Bool
  | .timeout => true
  | .rateLimit => true
  | .authentication => false
  | .providerUnavailable => true
  | .providerError => false
  | .networkError => true
  | .schemaValidation => false
  | .unknown => false

/-- Each class has the flag that the table gives its error class. -/
theorem defaultRetryable_errorClass (t : ErrorType) :
    defaultRetryable t.errorClass = t.retryable := by
  cases t <;> rfl

/-- `ProviderError`. -/
structure ProviderError where
  type : ErrorType
  message : String
  providerId : ProviderId
  deriving DecidableEq, Repr

def ProviderError.retryable (e : ProviderError) : Bool := e.type.retryable

/-! ### Messages -/

/-- `VENDOR_DETAIL_MAX_LENGTH`. -/
def vendorDetailMaxLength : Nat := 200

/-- `truncate_vendor_detail`. -/
def truncateVendorDetail : Option String → String
  | none => ""
  | some detail => String.ofList (detail.toList.take vendorDetailMaxLength)

/-- `s or t`. -/
def orText (s t : String) : String := if s = "" then t else s

/-- `str(bool)`. -/
def boolText (b : Bool) : String := if b then "True" else "False"

/-- `provider_error_message`. -/
def providerErrorMessage (code : String) (errorClass : ProviderErrorClass) (providerId : ProviderId)
    (reason : String) (retryable : Bool) : String :=
  code ++ ": " ++ errorClass.value ++ " provider=" ++ providerId.value ++ " — " ++
    truncateVendorDetail (some reason) ++ " (retryable=" ++ boolText retryable ++ ")"

/-! ### Signals

The common mapper, branch by branch in its order.
-/

/-- `VendorFailureSignal`. -/
structure VendorFailureSignal where
  httpStatus : Option Int := none
  vendorMessage : Option String := none
  exceptionType : Option String := none
  isTimeout : Bool := false
  isConnectionError : Bool := false
  isRateLimit : Bool := false
  isAuthError : Bool := false
  isSchemaValidation : Bool := false
  isServiceUnavailable : Bool := false
  providerId : Option ProviderId := none
  deriving DecidableEq, Repr

/-- `_make`. -/
def make (type : ErrorType) (providerId : ProviderId) (reason : String) : ProviderError :=
  { type, providerId,
    message := providerErrorMessage type.code type.errorClass providerId reason type.retryable }

/-- `_map_generic_http`. -/
def mapGenericHttp (providerId : ProviderId) (httpStatus : Int) (reason : String) : ProviderError :=
  if httpStatus ∈ [400, 404, 413, 422] ∨ (400 ≤ httpStatus ∧ httpStatus < 500) then
    make .response providerId reason
  else if 500 ≤ httpStatus ∧ httpStatus < 600 then make .unknown providerId reason
  else make .response providerId reason

/-- `signal.http_status in {..}`. -/
def statusIn (status : Option Int) (statuses : List Int) : Bool :=
  match status with
  | none => false
  | some status => statuses.contains status

/-- `map_vendor_failure`, of the mapper of a provider. -/
def mapVendorFailure (mapper : ProviderId) (signal : VendorFailureSignal)
    (providerId : Option ProviderId := none) : ProviderError :=
  let pid := (providerId <|> signal.providerId).getD mapper
  let reason := orText (truncateVendorDetail signal.vendorMessage) "vendor failure"
  if signal.isTimeout ∨ statusIn signal.httpStatus [408] then make .timeout pid reason
  else if signal.isRateLimit ∨ statusIn signal.httpStatus [429] then make .rateLimit pid reason
  else if signal.isAuthError ∨ statusIn signal.httpStatus [401, 403] then
    make .authentication pid "authentication failed"
  else if signal.isServiceUnavailable ∨ statusIn signal.httpStatus [502, 503, 504] then
    make .unavailable pid reason
  else if signal.isConnectionError then make .network pid reason
  else if signal.isSchemaValidation then make .schemaValidation pid reason
  else if statusIn signal.httpStatus [529] then
    if pid = .openai then make .unavailable pid reason else make .response pid reason
  else if statusIn signal.httpStatus [500] then make .response pid reason
  else
    match signal.httpStatus with
    | some status => mapGenericHttp pid status reason
    | none => make .unknown pid reason

/-! ### Exceptions

What is read off an exception of a vendor's package.
-/

/-- What the extractors ask of an exception. -/
structure VendorException where
  /-- `type(exc).__name__`, `__qualname__` and `__module__`. -/
  className : String
  qualname : String
  moduleName : String
  /-- `isinstance(exc, TimeoutError)` and `isinstance(exc, ConnectionError)`. -/
  isTimeoutError : Bool := false
  isConnectionError : Bool := false
  /-- The attribute `status_code`, that of the attribute `response`, and the attribute `code`
  where it is an `int`. -/
  statusCode : Option Int := none
  responseStatusCode : Option Int := none
  code : Option Int := none
  /-- `str(exc)`. -/
  message : String := ""
  /-- `str` of the attributes `param` and `type`. -/
  param : String := "None"
  errorType : String := "None"
  deriving DecidableEq, Repr

/-- `_http_status`. -/
def httpStatus (exc : VendorException) : Option Int :=
  exc.statusCode <|> exc.responseStatusCode <|> exc.code

/-- `_exception_fqn`. -/
def exceptionFqn (exc : VendorException) : String := exc.moduleName ++ "." ++ exc.qualname

/-- `needle in text`. -/
def contains (text : List Char) (needle : String) : Bool := decide (needle.toList <:+: text)

/-- `_openai_schema_signals`. -/
def openaiSchemaSignals (exc : VendorException) : Bool :=
  let message := PyWord.lowered exc.message.toList
  let param := PyWord.lowered exc.param.toList
  ((param = "response_format".toList ∨ param = "messages".toList) ∧
      contains (PyWord.lowered exc.errorType.toList) "invalid") ||
    (contains message "json_schema" || contains message "response_format")

/-- `_anthropic_schema_signals`. -/
def anthropicSchemaSignals (exc : VendorException) : Bool :=
  let message := PyWord.lowered exc.message.toList
  contains message "json" && (contains message "schema" || contains message "output_format")

/-- `_gemini_schema_signals`. -/
def geminiSchemaSignals (exc : VendorException) : Bool :=
  let message := PyWord.lowered exc.message.toList
  contains message "response_schema" || (contains message "json" && contains message "validation")

/-- `module == package or module.startswith(package + ".")`. -/
def fromPackage (package : String) (exc : VendorException) : Bool :=
  exc.moduleName = package ∨ (package ++ ".").toList <+: exc.moduleName.toList

/-- `module.startswith("google.")`. -/
def fromGoogle (exc : VendorException) : Bool := decide ("google.".toList <+: exc.moduleName.toList)

/-- The body that `extract_openai_failure` and `extract_anthropic_failure` share: they differ in
the package, in what they take for a schema error and in the statuses that make a service
unavailable. -/
def extractSdkFailure (package : String) (schemaSignals : VendorException → Bool)
    (unavailable : List Int) (exc : VendorException) : VendorFailureSignal :=
  let name := exc.className
  let status := httpStatus exc
  let message := some exc.message
  let isVendor := fromPackage package exc
  if name = "APITimeoutError" ∨ (isVendor ∧ statusIn status [408]) then
    { httpStatus := status, isTimeout := true, vendorMessage := message }
  else if name = "APIConnectionError" ∨ name = "_ConnectionError" ∨
      (isVendor ∧ contains name.toList "Connection") then
    { isConnectionError := true, vendorMessage := message }
  else if name = "RateLimitError" ∨ statusIn status [429] then
    { httpStatus := some 429, isRateLimit := true, vendorMessage := message }
  else if name ∈ ["AuthenticationError", "_AuthError"] ∨ statusIn status [401] then
    { httpStatus := some 401, isAuthError := true, vendorMessage := message }
  else if name ∈ ["PermissionDeniedError", "_PermissionDeniedError"] ∨ statusIn status [403] then
    { httpStatus := some 403, isAuthError := true, vendorMessage := message }
  else if name ∈ ["BadRequestError", "_BadRequestError"] ∨ statusIn status [400] then
    if schemaSignals exc then
      { httpStatus := some 400, isSchemaValidation := true, vendorMessage := message }
    else { httpStatus := some 400, vendorMessage := message }
  else if name = "APIStatusError" ∨ (isVendor ∧ status.isSome) then
    if statusIn status unavailable then
      { httpStatus := status, isServiceUnavailable := true, vendorMessage := message }
    else { httpStatus := status, vendorMessage := message }
  else if statusIn status [408] then
    { httpStatus := some 408, isTimeout := true, vendorMessage := message }
  else { exceptionType := some (exceptionFqn exc), vendorMessage := message }

/-- `extract_openai_failure`: a 529 too is a service that is unavailable. -/
def extractOpenaiFailure : VendorException → VendorFailureSignal :=
  extractSdkFailure "openai" openaiSchemaSignals [502, 503, 504, 529]

/-- `extract_anthropic_failure`. -/
def extractAnthropicFailure : VendorException → VendorFailureSignal :=
  extractSdkFailure "anthropic" anthropicSchemaSignals [502, 503, 504]

/-- `extract_gemini_failure`. -/
def extractGeminiFailure (exc : VendorException) : VendorFailureSignal :=
  let name := exc.className
  let status := httpStatus exc
  let message := some exc.message
  let isGoogle := fromGoogle exc
  if name = "DeadlineExceeded" ∨ exc.isTimeoutError ∨ name ∈ ["TimeoutException", "ReadTimeout"] then
    { isTimeout := true, vendorMessage := message }
  else if name ∈ ["ServiceUnavailable", "Unavailable"] then
    { isServiceUnavailable := true, vendorMessage := message }
  else if name = "ResourceExhausted" then { isRateLimit := true, vendorMessage := message }
  else if name = "Unauthenticated" then { isAuthError := true, vendorMessage := message }
  else if name = "PermissionDenied" then { isAuthError := true, vendorMessage := message }
  else if name = "InvalidArgument" then
    if geminiSchemaSignals exc then { isSchemaValidation := true, vendorMessage := message }
    else { vendorMessage := message }
  else if name ∈ ["TransportError", "ConnectError"] ∨ exc.isConnectionError then
    { isConnectionError := true, vendorMessage := message }
  else if name ∈ ["GoogleAPICallError", "APIError", "ClientError", "ServerError"] ∨
      (isGoogle ∧ status.isSome) then
    if statusIn status [408] then
      { httpStatus := some 408, isTimeout := true, vendorMessage := message }
    else if statusIn status [429] then
      { httpStatus := some 429, isRateLimit := true, vendorMessage := message }
    else if statusIn status [401, 403] then
      { httpStatus := status, isAuthError := true, vendorMessage := message }
    else if statusIn status [502, 503, 504] then
      { httpStatus := status, isServiceUnavailable := true, vendorMessage := message }
    else if statusIn status [500] then { httpStatus := some 500, vendorMessage := message }
    else { httpStatus := status, vendorMessage := message }
  else { exceptionType := some (exceptionFqn exc), vendorMessage := message }

/-- No extractor names a provider: the mapper's own stands in the error. -/
theorem providerId_extractSdkFailure (package : String) (schemaSignals : VendorException → Bool)
    (unavailable : List Int) (exc : VendorException) :
    (extractSdkFailure package schemaSignals unavailable exc).providerId = none := by
  simp only [extractSdkFailure, apply_ite VendorFailureSignal.providerId, ite_self]

theorem providerId_extractGeminiFailure (exc : VendorException) :
    (extractGeminiFailure exc).providerId = none := by
  simp only [extractGeminiFailure, apply_ite VendorFailureSignal.providerId, ite_self]

/-! ### What makes an error retryable

The signals that report a passing condition.
-/

@[simp] theorem statusIn_some {status : Int} {statuses : List Int} :
    statusIn (some status) statuses = decide (status ∈ statuses) := by
  rw [statusIn, List.contains_eq_mem]

@[simp] theorem statusIn_none {statuses : List Int} : statusIn none statuses = false := rfl

@[simp] theorem retryable_make (type : ErrorType) (providerId : ProviderId) (reason : String) :
    (make type providerId reason).retryable = type.retryable := rfl

/-- The error of a status that no branch names is permanent. -/
theorem retryable_mapGenericHttp (providerId : ProviderId) (status : Int) (reason : String) :
    (mapGenericHttp providerId status reason).retryable = false := by
  rw [mapGenericHttp]
  split_ifs <;> rfl

/-- A signal reports a passing failure, with the flags and statuses in the mapper's order. -/
def reportsPassing (mapper : ProviderId) (signal : VendorFailureSignal) : Bool :=
  signal.isTimeout || statusIn signal.httpStatus [408] || signal.isRateLimit ||
    statusIn signal.httpStatus [429] ||
    (!(signal.isAuthError || statusIn signal.httpStatus [401, 403]) &&
      (signal.isServiceUnavailable || statusIn signal.httpStatus [502, 503, 504] ||
        signal.isConnectionError ||
        (!signal.isSchemaValidation && statusIn signal.httpStatus [529] && mapper = .openai)))

/-- Errors may be retried where the signal reports a passing failure. -/
theorem retryable_mapVendorFailure {mapper : ProviderId} {signal : VendorFailureSignal}
    (hid : signal.providerId = none) :
    (mapVendorFailure mapper signal).retryable = reportsPassing mapper signal := by
  have hpid : ((none : Option ProviderId) <|> signal.providerId).getD mapper = mapper := by
    rw [hid]
    rfl
  rw [mapVendorFailure, hpid, reportsPassing]
  -- a branch that is not taken leaves its flag and its statuses false
  split_ifs with htimeout hrate hauth hunavailable hconnection hschema hoverloaded hopenai hinternal
  · rcases htimeout with h | h <;> simp [h, ErrorType.retryable]
  · rcases hrate with h | h <;> simp [h, ErrorType.retryable]
  · simp only [not_or, Bool.not_eq_true] at htimeout hrate
    rcases hauth with h | h <;> simp [h, htimeout, hrate, ErrorType.retryable]
  · simp only [not_or, Bool.not_eq_true] at htimeout hrate hauth
    rcases hunavailable with h | h <;> simp [h, htimeout, hrate, hauth, ErrorType.retryable]
  · simp only [not_or, Bool.not_eq_true] at htimeout hrate hauth hunavailable
    simp [htimeout, hrate, hauth, hunavailable, hconnection, ErrorType.retryable]
  all_goals simp only [not_or, Bool.not_eq_true] at htimeout hrate hauth hunavailable hconnection
  · simp [htimeout, hrate, hauth, hunavailable, hconnection, hschema, ErrorType.retryable]
  · simp [htimeout, hrate, hauth, hunavailable, hconnection, hschema, hoverloaded, hopenai,
      ErrorType.retryable]
  · simp [htimeout, hrate, hauth, hunavailable, hconnection, hopenai, ErrorType.retryable]
  · simp [htimeout, hrate, hauth, hunavailable, hconnection, hoverloaded, ErrorType.retryable]
  · have hother : ∀ status : Option Int, ∀ reason : String,
        (match status with
          | some status => mapGenericHttp mapper status reason
          | none => make .unknown mapper reason).retryable = false := by
      intro status reason
      cases status with
      | none => rfl
      | some status => exact retryable_mapGenericHttp mapper status reason
    rw [hother]
    simp [htimeout, hrate, hauth, hunavailable, hconnection, hoverloaded]

/-! ### Status errors -/

/-- The statuses whose errors may be retried. -/
def retryableStatuses : List Int := [408, 429, 502, 503, 504]

/-- What `openai` and `anthropic` document of the exception for a response with an error status: it
comes from the package and carries the status, its class is exported and no connection error, and
the classes with a status of their own keep to it. -/
structure SdkStatusError (package : String) (exc : VendorException) (status : Int) : Prop where
  carries : httpStatus exc = some status
  package : fromPackage package exc
  exported : exc.className ∉
    ["_ConnectionError", "_AuthError", "_PermissionDeniedError", "_BadRequestError"]
  answered : exc.className ∉ ["APITimeoutError", "APIConnectionError"] ∧
    ¬ contains exc.className.toList "Connection"
  rateLimit : exc.className = "RateLimitError" → status = 429
  authentication : exc.className = "AuthenticationError" → status = 401
  permissionDenied : exc.className = "PermissionDeniedError" → status = 403
  badRequest : exc.className = "BadRequestError" → status = 400

/-- The same of the `google` packages. -/
structure GoogleStatusError (exc : VendorException) (status : Int) : Prop where
  carries : httpStatus exc = some status
  package : fromGoogle exc
  answered : exc.isTimeoutError = false ∧ exc.isConnectionError = false ∧
    exc.className ∉ ["TimeoutException", "ReadTimeout", "TransportError", "ConnectError"]
  deadlineExceeded : exc.className = "DeadlineExceeded" → status = 504
  serviceUnavailable : exc.className = "ServiceUnavailable" ∨ exc.className = "Unavailable" →
    status = 503
  resourceExhausted : exc.className = "ResourceExhausted" → status = 429
  unauthenticated : exc.className = "Unauthenticated" → status = 401
  permissionDenied : exc.className = "PermissionDenied" → status = 403
  invalidArgument : exc.className = "InvalidArgument" → status = 400

/-- The signal of an SDK's status error reports a passing failure where the status does. -/
theorem reportsPassing_extractSdkFailure {package : String} {schema : VendorException → Bool}
    {unavailable : List Int} {exc : VendorException} {status : Int} {mapper : ProviderId}
    (h : SdkStatusError package exc status)
    (hunavailable : ∀ s, s ∈ unavailable ↔ s ∈ [502, 503, 504] ∨ (s = 529 ∧ 529 ∈ unavailable)) :
    reportsPassing mapper (extractSdkFailure package schema unavailable exc) =
      decide (status ∈ retryableStatuses ∨
        (status = 529 ∧ (529 ∈ unavailable ∨ mapper = .openai))) := by
  obtain ⟨⟨hnoTimeout, hnoConnection⟩, hnamed⟩ := by simpa using h.answered
  obtain ⟨hprivate₁, hprivate₂, hprivate₃, hprivate₄⟩ := by simpa using h.exported
  rw [extractSdkFailure]
  simp only [h.carries, h.package, hnoTimeout, hnoConnection, hnamed, hprivate₁, hprivate₂,
    hprivate₃, hprivate₄, statusIn_some, List.mem_cons, List.not_mem_nil, or_false, false_or,
    and_false, true_and, decide_eq_true_eq, if_false, Option.isSome_some, or_true, if_true,
    Bool.false_eq_true]
  split_ifs with htimeout hrate hauth hpermission hbad hschema hservice
  · subst htimeout
    simp [reportsPassing, retryableStatuses]
  · obtain rfl : status = 429 := hrate.elim h.rateLimit id
    simp [reportsPassing, retryableStatuses]
  · obtain rfl : status = 401 := hauth.elim h.authentication id
    simp [reportsPassing, retryableStatuses]
  · obtain rfl : status = 403 := hpermission.elim h.permissionDenied id
    simp [reportsPassing, retryableStatuses]
  · obtain rfl : status = 400 := hbad.elim h.badRequest id
    simp [reportsPassing, retryableStatuses]
  · obtain rfl : status = 400 := hbad.elim h.badRequest id
    simp [reportsPassing, retryableStatuses]
  · -- the statuses of a service that is unavailable
    simp only [not_or] at hrate hauth hpermission
    have hmem := (hunavailable status).mp hservice
    simp only [List.mem_cons, List.not_mem_nil, or_false] at hmem
    rcases hmem with (rfl | rfl | rfl) | ⟨rfl, hoverloaded⟩
    · simp [reportsPassing, retryableStatuses]
    · simp [reportsPassing, retryableStatuses]
    · simp [reportsPassing, retryableStatuses]
    · simp [reportsPassing, hoverloaded]
  · simp only [not_or] at hrate hauth hpermission
    have hnot := mt (hunavailable status).mpr hservice
    simp only [List.mem_cons, List.not_mem_nil, or_false, not_or] at hnot
    have hoverloaded : status = 529 → 529 ∉ unavailable := fun heq hmem => hnot.2 ⟨heq, hmem⟩
    by_cases heq : status = 529
    · subst heq
      simp [reportsPassing, retryableStatuses, hoverloaded rfl]
    · simp [reportsPassing, retryableStatuses, htimeout, hrate.2, hauth.2, hpermission.2, hnot.1,
        heq]

/-- The same of the `google` packages. -/
theorem reportsPassing_extractGeminiFailure {exc : VendorException} {status : Int}
    {mapper : ProviderId} (h : GoogleStatusError exc status) :
    reportsPassing mapper (extractGeminiFailure exc) =
      decide (status ∈ retryableStatuses ∨ (status = 529 ∧ mapper = .openai)) := by
  obtain ⟨hnoTimeout, hnoConnection, hnamed⟩ := h.answered
  simp only [List.mem_cons, List.not_mem_nil, or_false, not_or] at hnamed
  rw [extractGeminiFailure]
  simp only [h.carries, h.package, hnoTimeout, hnoConnection, hnamed, statusIn_some, List.mem_cons,
    List.not_mem_nil, or_false, decide_eq_true_eq, if_false, Option.isSome_some, or_true, if_true,
    Bool.false_eq_true, and_self]
  -- the classes with a status of their own
  by_cases hdeadline : exc.className = "DeadlineExceeded"
  · obtain rfl := h.deadlineExceeded hdeadline
    rw [if_pos hdeadline]
    simp [reportsPassing, retryableStatuses]
  rw [if_neg hdeadline]
  by_cases hservice : exc.className = "ServiceUnavailable" ∨ exc.className = "Unavailable"
  · obtain rfl := h.serviceUnavailable hservice
    rw [if_pos hservice]
    simp [reportsPassing, retryableStatuses]
  rw [if_neg hservice]
  by_cases hexhausted : exc.className = "ResourceExhausted"
  · obtain rfl := h.resourceExhausted hexhausted
    rw [if_pos hexhausted]
    simp [reportsPassing, retryableStatuses]
  rw [if_neg hexhausted]
  by_cases hunauthenticated : exc.className = "Unauthenticated"
  · obtain rfl := h.unauthenticated hunauthenticated
    rw [if_pos hunauthenticated]
    simp [reportsPassing, retryableStatuses]
  rw [if_neg hunauthenticated]
  by_cases hdenied : exc.className = "PermissionDenied"
  · obtain rfl := h.permissionDenied hdenied
    rw [if_pos hdenied]
    simp [reportsPassing, retryableStatuses]
  rw [if_neg hdenied]
  by_cases hargument : exc.className = "InvalidArgument"
  · obtain rfl := h.invalidArgument hargument
    rw [if_pos hargument]
    split <;> simp [reportsPassing, retryableStatuses]
  rw [if_neg hargument]
  -- any other class, by its status
  clear hdeadline hservice hexhausted hunauthenticated hdenied hargument hnamed
  split_ifs with htimeout hrate hauth hunavailable hinternal
  · subst htimeout
    simp [reportsPassing, retryableStatuses]
  · subst hrate
    simp [reportsPassing, retryableStatuses]
  · rcases hauth with rfl | rfl <;> simp [reportsPassing, retryableStatuses]
  · rcases hunavailable with rfl | rfl | rfl <;> simp [reportsPassing, retryableStatuses]
  · subst hinternal
    simp [reportsPassing, retryableStatuses]
  · simp only [not_or] at hauth hunavailable
    simp [reportsPassing, retryableStatuses, htimeout, hrate, hauth, hunavailable]

theorem retryable_openai {exc : VendorException} {status : Int}
    (h : SdkStatusError "openai" exc status) :
    (mapVendorFailure .openai (extractOpenaiFailure exc)).retryable =
      decide (status ∈ retryableStatuses ∨ status = 529) := by
  have hid : (extractOpenaiFailure exc).providerId = none := by
    rw [extractOpenaiFailure, providerId_extractSdkFailure]
  rw [retryable_mapVendorFailure hid, extractOpenaiFailure,
    reportsPassing_extractSdkFailure h (by simp [or_assoc])]
  simp

theorem retryable_anthropic {exc : VendorException} {status : Int}
    (h : SdkStatusError "anthropic" exc status) :
    (mapVendorFailure .anthropic (extractAnthropicFailure exc)).retryable =
      decide (status ∈ retryableStatuses) := by
  have hid : (extractAnthropicFailure exc).providerId = none := by
    rw [extractAnthropicFailure, providerId_extractSdkFailure]
  rw [retryable_mapVendorFailure hid, extractAnthropicFailure,
    reportsPassing_extractSdkFailure h (by simp)]
  simp

theorem retryable_gemini {exc : VendorException} {status : Int} (h : GoogleStatusError exc status) :
    (mapVendorFailure .gemini (extractGeminiFailure exc)).retryable =
      decide (status ∈ retryableStatuses) := by
  rw [retryable_mapVendorFailure (providerId_extractGeminiFailure exc),
    reportsPassing_extractGeminiFailure h]
  simp

/-- Overload is told apart by the vendor: a 529 of OpenAI is retried, one of the others is not. -/
theorem retryable_differs_on_overload :
    ∃ openai anthropic gemini : VendorException,
      SdkStatusError "openai" openai 529 ∧ SdkStatusError "anthropic" anthropic 529 ∧
      GoogleStatusError gemini 529 ∧
      openaiSchemaSignals openai = false ∧ anthropicSchemaSignals anthropic = false ∧
      geminiSchemaSignals gemini = false ∧
      (mapVendorFailure .openai (extractOpenaiFailure openai)).retryable = true ∧
      (mapVendorFailure .anthropic (extractAnthropicFailure anthropic)).retryable = false ∧
      (mapVendorFailure .gemini (extractGeminiFailure gemini)).retryable = false := by
  refine ⟨{ className := "InternalServerError", qualname := "InternalServerError",
            moduleName := "openai", statusCode := some 529 },
    { className := "InternalServerError", qualname := "InternalServerError",
      moduleName := "anthropic", statusCode := some 529 },
    { className := "ServerError", qualname := "ServerError",
      moduleName := "google.genai.errors", code := some 529 }, ?_, ?_, ?_, ?_⟩
  · constructor <;> decide +kernel
  · constructor <;> decide +kernel
  · constructor <;> decide +kernel
  · decide +kernel

/-- **Whether a failure is retried depends on its status**: every vendor's error of one status has
the same flag, except that an overload (529) is retried where the vendor is OpenAI. -/
theorem retryable_of_status {openai anthropic gemini : VendorException} {status : Int}
    (hopenai : SdkStatusError "openai" openai status)
    (hanthropic : SdkStatusError "anthropic" anthropic status)
    (hgemini : GoogleStatusError gemini status) :
    (mapVendorFailure .anthropic (extractAnthropicFailure anthropic)).retryable =
      (mapVendorFailure .gemini (extractGeminiFailure gemini)).retryable ∧
    (status ≠ 529 →
      (mapVendorFailure .openai (extractOpenaiFailure openai)).retryable =
        (mapVendorFailure .anthropic (extractAnthropicFailure anthropic)).retryable) ∧
    (status = 529 →
      (mapVendorFailure .openai (extractOpenaiFailure openai)).retryable = true ∧
      (mapVendorFailure .anthropic (extractAnthropicFailure anthropic)).retryable = false) := by
  rw [retryable_openai hopenai, retryable_anthropic hanthropic, retryable_gemini hgemini]
  refine ⟨rfl, ?_, ?_⟩
  · intro hne
    simp [hne]
  · rintro rfl
    decide

/-- A conflict is permanent for all three, and a bad gateway passes. -/
theorem retryable_of_status_gateway :
    (mapVendorFailure .anthropic (extractAnthropicFailure
      { className := "ConflictError", qualname := "ConflictError", moduleName := "anthropic",
        statusCode := some 409 })).retryable =
      (mapVendorFailure .gemini (extractGeminiFailure
        { className := "ClientError", qualname := "ClientError", moduleName := "google.genai.errors",
          code := some 409 })).retryable ∧
    (mapVendorFailure .openai (extractOpenaiFailure
      { className := "InternalServerError", qualname := "InternalServerError", moduleName := "openai",
        statusCode := some 502 })).retryable =
      (mapVendorFailure .anthropic (extractAnthropicFailure
        { className := "InternalServerError", qualname := "InternalServerError",
          moduleName := "anthropic", statusCode := some 502 })).retryable := by
  constructor
  · have hopenai : SdkStatusError "openai"
        { className := "ConflictError", qualname := "ConflictError", moduleName := "openai",
          statusCode := some 409 } 409 := by
      constructor <;> decide +kernel
    refine (retryable_of_status hopenai ?_ ?_).1 <;> constructor <;> decide +kernel
  · have hgemini : GoogleStatusError
        { className := "ServerError", qualname := "ServerError",
          moduleName := "google.genai.errors", code := some 502 } 502 := by
      constructor <;> decide +kernel
    refine (retryable_of_status ?_ ?_ hgemini).2.1 (by decide) <;>
      constructor <;> decide +kernel

end VendorErrorMapper

end CartoonDemo
