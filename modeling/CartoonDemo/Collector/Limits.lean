import CartoonDemo.Collector.Conservation

/-!
# CartoonDemo.Collector.Limits

**Which observations a normalisation survives.** The functions that read the fields of an observation
raise exceptions at the limits of their domains: `int` and the port of a URL, `urlparse`, `urlencode` and
what UTF-8 encodes, `fromtimestamp` and the years, `int` and infinity. A normalisation returns a draft
or a rejection exactly if the observation reaches none of these limits (`normalize_isOk_iff`).
-/

namespace CartoonDemo

namespace Collector

open PyStr

/-! ### Harmless observations

What the fields of an item must satisfy, so that nothing but a rejection comes of them.
-/

section Harmless

variable (lib : Urllib) (render : Json → String)

/-- The text of the port in a URL with a scheme. -/
def writtenPort (trimmed : List Char) : Option (List Char) :=
  (cut [':', '/', '/'] trimmed).bind fun parts =>
    (cut [':'] (parts.2.takeWhile (· ≠ '/'))).map Prod.snd

/-- A URL with a host that can be encoded, to be fetched by HTTP. -/
def FetchableUrl (parsed : ParseResult) : Prop :=
  parsed.hostname.getD "" ≠ "" ∧
    ('.' ∈ (parsed.hostname.getD "").toList ∨ isDigits (parsed.hostname.getD "").toList) ∧
    (lib.lower parsed.scheme = "http" ∨ lib.lower parsed.scheme = "https") ∧
    (lib.idna (lib.lower (parsed.hostname.getD ""))).isSome

/-- `port` reads the port, and `urlencode` encodes the parameters that are kept. -/
def HarmlessParts (parsed : ParseResult) : Prop :=
  parsed.port.isOk ∧ (lib.urlencode (keptParams lib parsed.query)).isOk

/-- No function raises an exception at the URL: `int` reads a port that is written in digits,
`urlparse` the URL, and the parts of a URL to be fetched are harmless. -/
structure HarmlessUrl (url : String) : Prop where
  written : ∀ port ∈ writtenPort (strip url).toList,
    isDigits port → (PyInt.parse port).isSome
  parsed : ∃ parsed, lib.urlparse (withScheme (strip url)) = .ok parsed ∧
    (FetchableUrl lib parsed → HarmlessParts lib parsed) ∧
    (¬ FetchableUrl lib parsed → (lib.urlparse (strip url)).isOk)

/-- The URL is not rejected: it can be fetched, or it has another scheme. -/
def TakenUrl (url : String) : Prop :=
  (∃ parsed, lib.urlparse (withScheme (strip url)) = .ok parsed ∧ FetchableUrl lib parsed) ∨
    ∃ parsed, lib.urlparse (strip url) = .ok parsed ∧
      parsed.scheme ≠ "" ∧ parsed.scheme ≠ "http" ∧ parsed.scheme ≠ "https"

/-- A number, as a time in seconds since 1970, lies within the years of a datetime. -/
def TimeInYears : Json → Prop
  | .int n => ∃ x ∈ PyFloat.ofInt n, PyDatetime.InYears x
  | .float x => PyDatetime.InYears x
  | _ => True

/-- A time that is not rejected: none, or a number. -/
def TakenTime : Json → Prop
  | .null | .int _ | .float _ => True
  | _ => False

/-- A number is neither infinite nor nan. -/
def FiniteNumber : Json → Prop
  | .float x => ∃ q, x = .finite q
  | _ => True

/-- The observation has a type, an identifier and a title. -/
def HasRequiredFields (observation : RawObservation) : Prop :=
  isStory (Json.get observation "type") = true ∧
    (Json.strOf render observation "id" "" ≠ "" ∧ Json.strOf render observation "id" "" ≠ "None") ∧
    missingTitle (Json.get observation "title") = false ∧
    String.ofList (collapseTitleWhitespace false
      (strip ((Json.get observation "title").toStr render)).toList) ≠ ""

/-- The values that are read from an observation with the required fields, up to the first that is
rejected, lie within the limits of the functions that read them. -/
def HarmlessObservation (observation : RawObservation) : Prop :=
  HasRequiredFields render observation →
    (∀ url ∈ textOrNone render (Json.get observation "url"), HarmlessUrl lib url) ∧
    ((∀ url ∈ textOrNone render (Json.get observation "url"), TakenUrl lib url) →
      TimeInYears (Json.get observation "time") ∧
      (TakenTime (Json.get observation "time") →
        FiniteNumber (Json.get observation "score") ∧
        FiniteNumber (Json.get observation "descendants")))

end Harmless

/-! ### Canonical URLs -/

section Canonicalize

variable {lib : Urllib}

theorem explicitPort_isOk_iff {trimmed : List Char} :
    (explicitPort trimmed).isOk ↔
      ∀ port ∈ writtenPort trimmed, isDigits port → (PyInt.parse port).isSome := by
  rw [explicitPort, writtenPort]
  cases cut [':', '/', '/'] trimmed with
  | none => exact iff_of_true rfl fun port hport => by cases hport
  | some parts =>
      simp only [Option.bind_some]
      cases cut [':'] (parts.2.takeWhile (· ≠ '/')) with
      | none => exact iff_of_true rfl fun port hport => by cases hport
      | some port =>
          simp only [Option.map_some, Option.mem_some_iff, forall_eq']
          by_cases hdigits : isDigits port.2
          · rw [if_pos hdigits]
            cases PyInt.parse port.2 with
            | none => exact iff_of_false Bool.false_ne_true fun h => absurd (h hdigits) (by simp)
            | some n => exact iff_of_true rfl fun _ => rfl
          · rw [if_neg hdigits]
            exact iff_of_true rfl fun h => absurd h hdigits

theorem explicitPort_error {trimmed : List Char} {e : UrlError} (h : explicitPort trimmed = .error e) :
    e = .py "ValueError" := by
  rw [explicitPort] at h
  split at h
  · cases h
  · split at h
    · cases h
    · split at h
      · split at h
        · cases h
        · exact (Except.error.inj h).symm
      · cases h

/-- What `canonicalize` does once the URL is parsed. -/
theorem canonicalize_parsed {url : String} (htrimmed : strip url ≠ "") {explicit : Option ℤ}
    (hexplicit : explicitPort (strip url).toList = .ok explicit) {parsed : ParseResult}
    (hparsed : lib.urlparse (withScheme (strip url)) = .ok parsed) :
    (¬ FetchableUrl lib parsed → ∃ message, canonicalize lib url = .error (.canonicalization message)) ∧
    (FetchableUrl lib parsed → ¬ HarmlessParts lib parsed →
      ∃ name, canonicalize lib url = .error (.py name)) ∧
    (FetchableUrl lib parsed → HarmlessParts lib parsed →
      ∃ canonical, canonicalize lib url = .ok canonical) := by
  rw [canonicalize, ensure, if_pos htrimmed, except_ok_bind, hexplicit, except_ok_bind, hparsed]
  simp only [Except.mapError]
  rw [except_ok_bind]
  by_cases hhost : parsed.hostname.getD "" ≠ ""
  case neg =>
    have hnot : ¬ FetchableUrl lib parsed := fun h => hhost h.1
    rw [ensure, if_neg hhost]
    exact ⟨fun _ => ⟨_, rfl⟩, fun h => absurd h hnot, fun h => absurd h hnot⟩
  case pos =>
  rw [ensure, if_pos hhost, except_ok_bind]
  by_cases hdotted : '.' ∈ (parsed.hostname.getD "").toList ∨ isDigits (parsed.hostname.getD "").toList
  case neg =>
    have hnot : ¬ FetchableUrl lib parsed := fun h => hdotted h.2.1
    rw [ensure, if_neg hdotted]
    exact ⟨fun _ => ⟨_, rfl⟩, fun h => absurd h hnot, fun h => absurd h hnot⟩
  case pos =>
  rw [ensure, if_pos hdotted, except_ok_bind]
  by_cases hscheme : lib.lower parsed.scheme = "http" ∨ lib.lower parsed.scheme = "https"
  case neg =>
    have hnot : ¬ FetchableUrl lib parsed := fun h => hscheme h.2.2.1
    rw [ensure, if_neg hscheme]
    exact ⟨fun _ => ⟨_, rfl⟩, fun h => absurd h hnot, fun h => absurd h hnot⟩
  case pos =>
  rw [ensure, if_pos hscheme, except_ok_bind]
  cases hidna : lib.idna (lib.lower (parsed.hostname.getD "")) with
  | none =>
      have hnot : ¬ FetchableUrl lib parsed := fun h => by
        have := h.2.2.2
        rw [hidna] at this
        cases this
      exact ⟨fun _ => ⟨_, rfl⟩, fun h => absurd h hnot, fun h => absurd h hnot⟩
  | some host =>
      have hfetchable : FetchableUrl lib parsed :=
        ⟨hhost, hdotted, hscheme, by rw [hidna]; rfl⟩
      simp only [except_ok_bind]
      refine ⟨fun h => absurd hfetchable h, fun _ hparts => ?_, fun _ hparts => ?_⟩
      · cases hport : parsed.port with
        | error name => exact ⟨name, rfl⟩
        | ok port =>
            cases hquery : lib.urlencode (keptParams lib parsed.query) with
            | error name => exact ⟨name, rfl⟩
            | ok query => exact absurd ⟨by rw [hport]; rfl, by rw [hquery]; rfl⟩ hparts
      · obtain ⟨port, hport⟩ := except_isOk_iff.mp hparts.1
        obtain ⟨query, hquery⟩ := except_isOk_iff.mp hparts.2
        rw [hport, hquery]
        exact ⟨_, rfl⟩

/-- Neither `int` nor `urlparse` nor `port` lets an exception out of `canonicalize` otherwise. -/
theorem canonicalize_unparsed {url : String} (htrimmed : strip url ≠ "")
    (h : ¬ ((explicitPort (strip url).toList).isOk ∧ (lib.urlparse (withScheme (strip url))).isOk)) :
    ∃ name, canonicalize lib url = .error (.py name) := by
  rw [canonicalize, ensure, if_pos htrimmed, except_ok_bind]
  cases hexplicit : explicitPort (strip url).toList with
  | error e =>
      obtain rfl := explicitPort_error hexplicit
      exact ⟨"ValueError", rfl⟩
  | ok explicit =>
      cases hparsed : lib.urlparse (withScheme (strip url)) with
      | error name => exact ⟨name, rfl⟩
      | ok parsed => exact absurd ⟨by rw [hexplicit]; rfl, by rw [hparsed]; rfl⟩ h

/-- What becomes of a URL: an exception, a text or a rejection. -/
theorem stageUrl_cases (lib : Urllib) {url : String} (htrimmed : strip url ≠ "") (r : Rejection) :
    (¬ HarmlessUrl lib url ∧ ∃ name, stageUrl lib r (some url) = .error (.raised name)) ∨
    (HarmlessUrl lib url ∧ TakenUrl lib url ∧ ∃ taken, stageUrl lib r (some url) = .ok taken) ∨
    (HarmlessUrl lib url ∧ ¬ TakenUrl lib url ∧ stageUrl lib r (some url) = .error (.rejected r)) := by
  rw [stageUrl]
  by_cases hread : (explicitPort (strip url).toList).isOk ∧
    (lib.urlparse (withScheme (strip url))).isOk
  case neg =>
    obtain ⟨name, hname⟩ := canonicalize_unparsed htrimmed hread
    refine .inl ⟨fun h => hread ⟨explicitPort_isOk_iff.mpr h.written, ?_⟩, name, by rw [hname]⟩
    obtain ⟨parsed, hparsed, -⟩ := h.parsed
    rw [hparsed]
    rfl
  case pos =>
  obtain ⟨explicit, hexplicit⟩ := except_isOk_iff.mp hread.1
  obtain ⟨parsed, hparsed⟩ := except_isOk_iff.mp hread.2
  have hwritten := explicitPort_isOk_iff.mp hread.1
  obtain ⟨hnot, hraised, hok⟩ := canonicalize_parsed htrimmed hexplicit hparsed
  by_cases hfetchable : FetchableUrl lib parsed
  · have htaken : TakenUrl lib url := .inl ⟨parsed, hparsed, hfetchable⟩
    by_cases hparts : HarmlessParts lib parsed
    · obtain ⟨canonical, hcanonical⟩ := hok hfetchable hparts
      exact .inr (.inl ⟨⟨hwritten, parsed, hparsed, fun _ => hparts,
        fun h => absurd hfetchable h⟩, htaken, some canonical, by rw [hcanonical]⟩)
    · obtain ⟨name, hname⟩ := hraised hfetchable hparts
      refine .inl ⟨fun h => ?_, name, by rw [hname]⟩
      obtain ⟨parsed', hparsed', hreads, -⟩ := h.parsed
      obtain rfl := Except.ok.inj (hparsed.symm.trans hparsed')
      exact hparts (hreads hfetchable)
  · obtain ⟨message, hmessage⟩ := hnot hfetchable
    rw [hmessage]
    cases hagain : lib.urlparse (strip url) with
    | error name =>
        refine .inl ⟨fun h => ?_, name, rfl⟩
        obtain ⟨parsed', hparsed', -, hreads⟩ := h.parsed
        obtain rfl := Except.ok.inj (hparsed.symm.trans hparsed')
        have hisOk := hreads hfetchable
        rw [hagain] at hisOk
        exact Bool.false_ne_true hisOk
    | ok parsed' =>
        have hharmless : HarmlessUrl lib url :=
          ⟨hwritten, parsed, hparsed, fun h => absurd h hfetchable, fun _ => by rw [hagain]; rfl⟩
        by_cases hscheme : parsed'.scheme ≠ "" ∧ parsed'.scheme ≠ "http" ∧ parsed'.scheme ≠ "https"
        · refine .inr (.inl ⟨hharmless, .inr ⟨parsed', hagain, hscheme⟩, some (strip url),
            if_pos hscheme⟩)
        · refine .inr (.inr ⟨hharmless, ?_, if_neg hscheme⟩)
          rintro (⟨other, hother, hfetch⟩ | ⟨other, hother, hother'⟩)
          · obtain rfl := Except.ok.inj (hparsed.symm.trans hother)
            exact hfetchable hfetch
          · obtain rfl := Except.ok.inj (hagain.symm.trans hother)
            exact hscheme hother'

end Canonicalize

/-! ### Normalising the fields

Which step raises what, in the order of the source.
-/

section Normalize

variable {lib : Urllib} {render : Json → String}

/-- The observation is rejected, without an exception. -/
def IsRejected (refusal : Refusal) : Prop := ∃ r, refusal = .rejected r

theorem isRejected_rejected (r : Rejection) : IsRejected (.rejected r) := ⟨r, rfl⟩

theorem not_isRejected_raised (name : String) : ¬ IsRejected (.raised name) := by
  rintro ⟨r, h⟩
  cases h

/-- A check that may reject, before what follows it. -/
theorem raises_ensure_bind_iff {α : Type} {condition : Prop} [Decidable condition] {r : Rejection}
    {next : Unit → Except Refusal α} :
    Raises IsRejected (ensure condition (.rejected r) >>= next) ↔
      (condition → Raises IsRejected (next ())) := by
  by_cases h : condition
  · rw [ensure, if_pos h, except_ok_bind]
    exact (imp_iff_right h).symm
  · rw [ensure, if_neg h, except_error_bind]
    exact iff_of_true (raises_error.mpr (isRejected_rejected r)) fun hc => absurd hc h

/-- The text of a field is stripped, and not empty. -/
theorem strip_textOrNone {value : Json} {text : String} (h : text ∈ textOrNone render value) :
    strip text ≠ "" := by
  have hne : value ≠ .null := fun hnull => by
    rw [hnull] at h
    cases h
  rw [textOrNone] at h
  · split at h
    · cases h
    · next hne =>
        obtain rfl := Option.some.inj h
        rwa [strip_strip]
  · exact hne

theorem raises_stageUrl_iff {r : Rejection} {url : Option String} (hurl : ∀ text ∈ url, strip text ≠ "") :
    Raises IsRejected (stageUrl lib r url) ↔ ∀ text ∈ url, HarmlessUrl lib text := by
  cases url with
  | none => exact iff_of_true (raises_ok ..) fun text htext => by cases htext
  | some text =>
      simp only [Option.mem_some_iff, forall_eq']
      rcases stageUrl_cases lib (hurl text rfl) r with
        ⟨hnot, name, h⟩ | ⟨hharmless, -, taken, h⟩ | ⟨hharmless, -, h⟩
      · rw [h, raises_error]
        exact iff_of_false (not_isRejected_raised name) hnot
      · rw [h]
        exact iff_of_true (raises_ok ..) hharmless
      · rw [h, raises_error]
        exact iff_of_true (isRejected_rejected r) hharmless

theorem stageUrl_isOk_iff {r : Rejection} {url : Option String} (hurl : ∀ text ∈ url, strip text ≠ "")
    (hharmless : ∀ text ∈ url, HarmlessUrl lib text) :
    (stageUrl lib r url).isOk ↔ ∀ text ∈ url, TakenUrl lib text := by
  cases url with
  | none => exact iff_of_true rfl fun text htext => by cases htext
  | some text =>
      simp only [Option.mem_some_iff, forall_eq']
      rcases stageUrl_cases lib (hurl text rfl) r with
        ⟨hnot, -⟩ | ⟨-, htaken, taken, h⟩ | ⟨-, hnot, h⟩
      · exact absurd (hharmless text rfl) hnot
      · rw [h]
        exact iff_of_true rfl htaken
      · rw [h]
        exact iff_of_false Bool.false_ne_true hnot

theorem fromFloat_eq (x : PyFloat) :
    (PyDatetime.InYears x ∧ ∃ time, stagePublishedAt.fromFloat x = .ok (some time)) ∨
    (¬ PyDatetime.InYears x ∧ ∃ name, stagePublishedAt.fromFloat x = .error (.raised name)) := by
  rw [stagePublishedAt.fromFloat]
  cases h : PyDatetime.fromTimestamp x with
  | some time => exact .inl ⟨PyDatetime.fromTimestamp_isSome_iff.mp (by rw [h]; rfl), time, rfl⟩
  | none =>
      refine .inr ⟨fun hin => ?_, _, rfl⟩
      have hsome := PyDatetime.fromTimestamp_isSome_iff.mpr hin
      rw [h] at hsome
      cases hsome

/-- What becomes of a time: an exception, a datetime or a rejection. -/
theorem stagePublishedAt_cases (r : Rejection) (time : Json) :
    (¬ TimeInYears time ∧ ∃ name, stagePublishedAt r time = .error (.raised name)) ∨
    (TimeInYears time ∧ TakenTime time ∧ ∃ published, stagePublishedAt r time = .ok published) ∨
    (TimeInYears time ∧ ¬ TakenTime time ∧ stagePublishedAt r time = .error (.rejected r)) := by
  cases time with
  | null => exact .inr (.inl ⟨trivial, trivial, none, rfl⟩)
  | int n =>
      rw [stagePublishedAt, TimeInYears]
      cases hx : PyFloat.ofInt n with
      | none =>
          refine .inl ⟨?_, _, rfl⟩
          rintro ⟨x, hx, -⟩
          cases hx
      | some x =>
          rcases fromFloat_eq x with ⟨hin, published, h⟩ | ⟨hnot, name, h⟩
          · exact .inr (.inl ⟨⟨x, rfl, hin⟩, trivial, some published, h⟩)
          · refine .inl ⟨?_, name, h⟩
            rintro ⟨x', hx', hin⟩
            obtain rfl := Option.some.inj hx'
            exact hnot hin
  | float x =>
      rcases fromFloat_eq x with ⟨hin, published, h⟩ | ⟨hnot, name, h⟩
      · exact .inr (.inl ⟨hin, trivial, some published, h⟩)
      · exact .inl ⟨hnot, name, h⟩
  | _ => exact .inr (.inr ⟨trivial, id, rfl⟩)

theorem intSignal_cases (value : Json) :
    (¬ FiniteNumber value ∧ ∃ name, intSignal value = .error (.raised name)) ∨
    (FiniteNumber value ∧ ∃ n, intSignal value = .ok n) := by
  cases value with
  | int n => exact .inr ⟨trivial, some n, rfl⟩
  | float x =>
      by_cases hfinite : ∃ q, x = .finite q
      · obtain ⟨q, rfl⟩ := hfinite
        exact .inr ⟨⟨q, rfl⟩, _, rfl⟩
      · refine .inl ⟨hfinite, ?_⟩
        cases x with
        | finite q => exact absurd ⟨q, rfl⟩ hfinite
        | nan => exact ⟨_, rfl⟩
        | inf negative => exact ⟨_, rfl⟩
  | _ => exact .inr ⟨trivial, none, rfl⟩

/-- What `int` makes of a number raises no exception exactly if the number is finite. -/
theorem raises_intSignal_iff {value : Json} :
    Raises IsRejected (intSignal value) ↔ FiniteNumber value := by
  rcases intSignal_cases value with ⟨hnot, name, h⟩ | ⟨hfinite, n, h⟩
  · rw [h, raises_error]
    exact iff_of_false (not_isRejected_raised name) hnot
  · rw [h]
    exact iff_of_true (raises_ok ..) hfinite

/-- The two numbers, after the time. -/
theorem raises_signals_iff {α : Type} {score descendants : Json} {next : Option ℤ → Option ℤ → Except Refusal α}
    (hnext : ∀ n m, Raises IsRejected (next n m)) :
    Raises IsRejected (intSignal score >>= fun n => intSignal descendants >>= next n) ↔
      FiniteNumber score ∧ FiniteNumber descendants := by
  rw [raises_bind_iff, raises_intSignal_iff]
  refine and_congr_right fun hscore => ?_
  obtain ⟨n, hn⟩ : ∃ n, intSignal score = .ok n :=
    (intSignal_cases score).resolve_left (fun h => h.1 hscore) |>.2
  simp only [hn, Except.ok.injEq, forall_eq', raises_bind_iff, raises_intSignal_iff, hnext, implies_true,
    and_true]

/-- The time, before the two numbers. -/
theorem raises_published_iff {α : Type} {r : Rejection} {time : Json} {Q : Prop}
    {next : Option PyDatetime → Except Refusal α} (hnext : ∀ p, Raises IsRejected (next p) ↔ Q) :
    Raises IsRejected (stagePublishedAt r time >>= next) ↔
      TimeInYears time ∧ (TakenTime time → Q) := by
  rw [raises_bind_iff]
  rcases stagePublishedAt_cases r time with
    ⟨hnot, name, h⟩ | ⟨hin, htaken, published, h⟩ | ⟨hin, hnot, h⟩
  · rw [h, raises_error]
    exact iff_of_false (fun hraises => not_isRejected_raised name hraises.1) fun h => hnot h.1
  · simp [h, hin, htaken, hnext]
  · simp [h, hin, hnot, isRejected_rejected]

/-- **When a normalisation raises no exception**: where the observation reaches no limit. -/
theorem raises_normalizeFields_iff (observation : RawObservation) :
    Raises IsRejected (normalizeFields lib render observation) ↔
      HarmlessObservation lib render observation := by
  have hurl : ∀ text ∈ textOrNone render (Json.get observation "url"), strip text ≠ "" :=
    fun text htext => strip_textOrNone htext
  rw [normalizeFields, raises_ensure_bind_iff, raises_ensure_bind_iff, raises_ensure_bind_iff,
    raises_ensure_bind_iff, raises_bind_iff, raises_stageUrl_iff hurl]
  rw [HarmlessObservation, HasRequiredFields, ← Bool.not_eq_true']
  refine Iff.trans (imp_congr_right fun _ => imp_congr_right fun _ => imp_congr_right fun _ =>
    imp_congr_right fun _ => and_congr_right fun hharmless => ?_)
    ⟨fun h hrequired => h hrequired.1 hrequired.2.1 hrequired.2.2.1 hrequired.2.2.2,
      fun h htype hid htitle hcollapsed => h ⟨htype, hid, htitle, hcollapsed⟩⟩
  rw [← stageUrl_isOk_iff hurl hharmless, ← forall_except_ok_iff]
  refine forall_congr' fun canonicalUrl => imp_congr_right fun _ => ?_
  exact raises_published_iff fun published => raises_signals_iff fun score commentCount =>
    raises_ensure_bind_iff.mpr fun _ => raises_ok ..

/-- A normalisation returns a draft or a rejection if it raises no exception. -/
theorem normalize_isOk_iff {K : Type} (observation : RawObservation) (collectedAt : PyDatetime) :
    (normalize (K := K) lib render observation collectedAt).isOk ↔
      HarmlessObservation lib render observation := by
  rw [← raises_normalizeFields_iff, normalize]
  cases normalizeFields lib render observation with
  | ok fields => exact iff_of_true rfl (raises_ok ..)
  | error refusal =>
      rw [raises_error]
      cases refusal with
      | rejected r => exact iff_of_true rfl (isRejected_rejected r)
      | raised name => exact iff_of_false Bool.false_ne_true (not_isRejected_raised name)

end Normalize

end Collector

end CartoonDemo
