import Mathlib.Data.Nat.Digits.Defs
import CartoonDemo.Library.Calendar
import CartoonDemo.Library.PyText

/-!
# CartoonDemo.Library.PyDatetime

Python's **datetimes**: a reading of a wall clock between the years 1 and 9999, and the offset
of that clock from UTC when there is one. `fromisoformat` reads a text byte by byte, as CPython
3.11 does, with the liberties it takes (any separator, basic and week dates, a stray character
before the offset); every text that it cannot read is a `ValueError`.

The format that `strftime` writes is read back as the same instant, for the years that it writes
with four digits (`fromisoformat_strftime`).
-/

namespace CartoonDemo

open Calendar

/-- Microseconds of a day. -/
def dayMicros : Nat := 86400000000

/-- The first microsecond after the year 9999, counted from 0001-01-01T00:00. -/
def wallLimit : Nat := maxOrdinal * dayMicros

structure PyDatetime where
  /-- Microseconds since 0001-01-01T00:00 on the clock. -/
  wall : Nat
  /-- What the clock is ahead of UTC, in microseconds; `none` is a naive datetime. -/
  offset : Option Int
  wall_lt : wall < wallLimit
  offset_lt : ∀ o ∈ offset, o.natAbs < dayMicros
  deriving DecidableEq, Repr

namespace PyDatetime

theorem wallLimit_pos : 0 < wallLimit := by decide

def date (d : PyDatetime) : Date := ofOrdinal (d.wall / dayMicros + 1)

def year (d : PyDatetime) : Nat := d.date.year

def ofUtc (wall : Nat) (h : wall < wallLimit) : PyDatetime :=
  { wall, offset := some 0, wall_lt := h, offset_lt := by simp [dayMicros] }

/-- `astimezone(timezone.utc)` of an aware datetime; `none` is an `OverflowError`. -/
def astimezoneUtc (d : PyDatetime) : Option PyDatetime :=
  let wall := (d.wall : Int) - d.offset.getD 0
  if h : 0 ≤ wall ∧ wall < wallLimit then some (ofUtc wall.toNat (by omega)) else none

/-! ### Writing -/

/-- `n` with at least `k` digits, padded with zeros. -/
def pad : Nat → Nat → List Char
  | 0, _ => []
  | k + 1, n => pad k (n / 10) ++ [Nat.digitChar (n % 10)]

/-- `strftime("%Y-%m-%dT%H:%M:%S.%fZ")`, as the C library of Linux does it: the year is not
padded. -/
def strftime (d : PyDatetime) : List Char :=
  let second := d.wall / 1000000
  Nat.toDigits 10 d.year ++ '-' :: pad 2 d.date.month ++ '-' :: pad 2 d.date.day ++
    'T' :: pad 2 (second / 3600 % 24) ++ ':' :: pad 2 (second / 60 % 60) ++
    ':' :: pad 2 (second % 60) ++ '.' :: pad 6 (d.wall % 1000000) ++ ['Z']

/-- The offset in `isoformat`: seconds and microseconds only where there are some. -/
def offsetText : Option Int → List Char
  | none => []
  | some o =>
      let second := o.natAbs / 1000000
      let micro := o.natAbs % 1000000
      (if o < 0 then '-' else '+') :: pad 2 (second / 3600) ++ ':' :: pad 2 (second / 60 % 60) ++
        (if second % 60 = 0 ∧ micro = 0 then [] else ':' :: pad 2 (second % 60)) ++
        (if micro = 0 then [] else '.' :: pad 6 micro)

/-- `isoformat()`. -/
def isoformat (d : PyDatetime) : List Char :=
  let second := d.wall / 1000000
  let micro := d.wall % 1000000
  pad 4 d.year ++ '-' :: pad 2 d.date.month ++ '-' :: pad 2 d.date.day ++
    'T' :: pad 2 (second / 3600 % 24) ++ ':' :: pad 2 (second / 60 % 60) ++
    ':' :: pad 2 (second % 60) ++ (if micro = 0 then [] else '.' :: pad 6 micro) ++
    offsetText d.offset

/-! ### Reading

`fromisoformat`, of the C implementation.
-/

/-- The next `n` characters, which have to be decimal digits (`parse_digits`). -/
def digits (n : Nat) (s : List Char) : Option (Nat × List Char) :=
  if (s.take n).length = n && (s.take n).all Char.isDigit then
    some (Nat.ofDigitChars 10 (s.take n) 0, s.drop n)
  else none

/-- Where the date ends (`_find_isoformat_datetime_separator`), of a text of seven bytes or
more. -/
def separatorLocation (s : List Char) : Option Nat :=
  let isDigit := fun i => (s.getD i ' ').isDigit
  if s.length = 7 then some 7
  else if s.getD 4 ' ' = '-' then
    if s.getD 5 ' ' = 'W' then
      if s.getD 8 ' ' = '-' then
        -- `YYYY-Www-D`, or `YYYY-Www` with the separator `-`
        if s.length = 9 then none else some (if isDigit 10 then 8 else 10)
      else some 8
    else some 10
  else if s.getD 4 ' ' = 'W' then
    -- `YYYYWww` or `YYYYWwwD`: the parity of the run of digits decides
    let pos := 7 + ((s.drop 7).takeWhile Char.isDigit).length
    some (if pos < 9 then pos else if pos % 2 = 0 then 7 else 8)
  else some 8

/-- The ordinal of the first Monday of an ISO year (`iso_week1_monday`). -/
def isoWeek1Monday (year : Nat) : Int :=
  let firstDay : Int := toOrdinal { year, month := 1, day := 1 }
  let firstWeekday := (firstDay + 6) % 7
  firstDay - firstWeekday + if 3 < firstWeekday then 7 else 0

/-- The ordinal of a day of an ISO week (`iso_to_ymd`). -/
def isoOrdinal (year week day : Nat) : Option Nat :=
  let firstWeekday := (toOrdinal { year, month := 1, day := 1 } + 6) % 7
  if year < 1 || day < 1 || 7 < day || week < 1 || 53 < week then none
  else if week = 53 && !(firstWeekday = 3 || (firstWeekday = 2 && isLeap year)) then none
  else some (isoWeek1Monday year + ((week - 1) * 7 + day - 1 : Nat)).toNat

/-- The separator inside a date, if this date has one. -/
def dash (separated : Bool) (s : List Char) : Option (List Char) :=
  match separated, s with
  | false, s => some s
  | true, '-' :: s => some s
  | true, _ => none

/-- The ordinal of a date (`parse_isoformat_date`). -/
def parseDate (s : List Char) : Option Nat := do
  let (year, s) ← digits 4 s
  let separated := s.head? = some '-'
  let s ← dash separated s
  match s with
  | 'W' :: s =>
      let (week, s) ← digits 2 s
      if s.isEmpty then isoOrdinal year week 1
      else
        let (day, _) ← digits 1 (← dash separated s)
        isoOrdinal year week day
  | s =>
      let (month, s) ← digits 2 s
      let (day, s) ← digits 2 (← dash separated s)
      let date := { year, month, day : Date }
      if s.isEmpty && decide date.Valid then some (toOrdinal date) else none

/-- Something is left to read: the character here is not the end of the text. -/
def more (last : Bool) : List Char → Bool
  | [] => !last
  | c :: _ => c ≠ '\x00'

/-- The two-digit fields of a time (the loop of `parse_hh_mm_ss_ff`): their values, and where the
fraction starts or whether something is left to read. -/
def clockFields (last : Bool) : (left : Nat) → (separated : Bool) → List Char →
    Option (List Nat × (Bool ⊕ List Char))
  | 0, _, s => some ([], .inr s)
  | left + 1, separated, s => do
      let (value, s) ← digits 2 s
      match s with
      | [] | [_] => some ([value], .inl (more last s))
      | c :: s =>
          let separated := if left = 2 then c = ':' else separated
          if separated && c = ':' then
            let (values, tail) ← clockFields last left separated s
            some (value :: values, tail)
          else if c = '.' || c = ',' then some ([value], .inr s)
          else if separated then none
          else
            let (values, tail) ← clockFields last left separated (c :: s)
            some (value :: values, tail)

structure ClockTime where
  hour : Nat
  minute : Nat
  second : Nat
  micro : Nat
  deriving DecidableEq, Repr

/-- `parse_hh_mm_ss_ff`: the time, and whether something is left to read. `last` says that nothing
follows `s`. -/
def parseClock (last : Bool) (s : List Char) : Option (ClockTime × Bool) := do
  let (values, tail) ← clockFields last 3 true s
  let time : ClockTime := ⟨values.getD 0 0, values.getD 1 0, values.getD 2 0, 0⟩
  match tail with
  | .inl left => some (time, left)
  | .inr s =>
      let n := min 6 s.length
      let (fraction, s) ← digits n s
      some ({ time with micro := fraction * 10 ^ (6 - n) }, more last (s.dropWhile Char.isDigit))

/-- The offset of a time zone, whose sign has been read. -/
def parseOffset (negative : Bool) (s : List Char) : Option Int := do
  let (time, left) ← parseClock true s
  let seconds := time.hour * 3600 + time.minute * 60 + time.second
  let micros : Int := if seconds = 0 then 0 else seconds * 1000000 + time.micro
  if left || dayMicros ≤ micros.natAbs then none else some (if negative then -micros else micros)

/-- `parse_isoformat_time`: the time and the offset. -/
def parseTime (s : List Char) : Option (ClockTime × Option Int) := do
  let isZone := fun c => c = '+' || c = '-' || c = 'Z'
  let zone := s.dropWhile fun c => !isZone c
  let (time, left) ← parseClock zone.isEmpty (s.takeWhile fun c => !isZone c)
  match zone with
  | [] => if left then none else some (time, none)
  | 'Z' :: s => if more true s then none else some (time, some 0)
  | sign :: s => some (time, some (← parseOffset (sign = '-') s))

/-- `datetime(…)`, of a date that exists. -/
def build (ordinal : Nat) (time : ClockTime) (offset : Option Int) : Option PyDatetime :=
  let wall := (ordinal - 1) * dayMicros +
    ((time.hour * 60 + time.minute) * 60 + time.second) * 1000000 + time.micro
  if h : wall < wallLimit ∧ ∀ o ∈ offset, o.natAbs < dayMicros then
    if 1 ≤ ordinal ∧ time.hour < 24 ∧ time.minute < 60 ∧ time.second < 60 then
      some { wall, offset, wall_lt := h.1, offset_lt := h.2 }
    else none
  else none

/-- The text as the UTF-8 bytes that the parser walks over. -/
def utf8 (s : List Char) : List Char :=
  (s.flatMap String.utf8EncodeChar).map fun b => Char.ofNat b.toNat

/-- The length of the separator, by its first byte. -/
def separatorLength (c : Char) : Nat :=
  let b := c.toNat
  if b < 0x80 then 1 else if b / 16 = 0xe then 3 else if b / 16 = 0xf then 4 else 2

/-- `datetime.fromisoformat`; `none` is a `ValueError`. -/
def fromisoformat (s : List Char) : Option PyDatetime := do
  if s.length < 7 then none
  else
    let s := utf8 s
    let location ← separatorLocation s
    let ordinal ← parseDate (s.take location)
    match s.drop location with
    | [] => build ordinal { hour := 0, minute := 0, second := 0, micro := 0 } none
    | c :: s =>
        let (time, offset) ← parseTime (s.drop (separatorLength c - 1))
        build ordinal time offset

/-! ### Padded numbers

What was written with leading zeros is read back as the same number.
-/

theorem length_pad (k n : Nat) : (pad k n).length = k := by
  induction k generalizing n with
  | zero => rfl
  | succ k ih => rw [pad, List.length_append, ih, List.length_singleton]

theorem isDigit_digitChar_mod (n : Nat) : (Nat.digitChar (n % 10)).isDigit := by
  rw [Nat.isDigit_digitChar]
  simpa using Nat.mod_lt n (by decide)

theorem isDigit_of_mem_pad {k n : Nat} {c : Char} (h : c ∈ pad k n) : c.isDigit := by
  induction k generalizing n with
  | zero => exact absurd h (by simp [pad])
  | succ k ih =>
      rcases List.mem_append.mp h with h | h
      · exact ih h
      · rw [List.mem_singleton.mp h]
        exact isDigit_digitChar_mod n

theorem ofDigitChars_pad {k n : Nat} (hn : n < 10 ^ k) : Nat.ofDigitChars 10 (pad k n) 0 = n := by
  induction k generalizing n with
  | zero => rw [Nat.lt_one_iff.mp hn, pad, Nat.ofDigitChars_nil]
  | succ k ih =>
      have hq : n / 10 < 10 ^ k := by rw [Nat.pow_succ] at hn; omega
      rw [pad, Nat.ofDigitChars_append, ih hq,
        Nat.ofDigitChars_cons_digitChar_of_lt_ten (Nat.mod_lt n (by decide)), Nat.ofDigitChars_nil]
      omega

/-- A number of `k` digits is written without padding. -/
theorem toDigits_eq_pad {k n : Nat} (hlow : 10 ^ k ≤ n) (hhigh : n < 10 ^ (k + 1)) :
    Nat.toDigits 10 n = pad (k + 1) n := by
  induction k generalizing n with
  | zero =>
      have hn : n < 10 := by simpa using hhigh
      rw [Nat.toDigits_of_lt_base hn, pad, pad, Nat.mod_eq_of_lt hn, List.nil_append]
  | succ k ih =>
      have h10 : 10 ≤ n := by
        have := Nat.one_le_pow k 10 (by decide)
        rw [Nat.pow_succ] at hlow
        omega
      rw [Nat.toDigits_of_base_le (by decide) h10, pad, ih]
      · rw [Nat.pow_succ] at hlow; omega
      · rw [Nat.pow_succ] at hhigh; omega

/-- A padded number is read back. -/
theorem digits_pad {k n : Nat} (hn : n < 10 ^ k) (s : List Char) :
    digits k (pad k n ++ s) = some (n, s) := by
  have htake : (pad k n ++ s).take k = pad k n := List.take_left' (length_pad k n)
  have hdrop : (pad k n ++ s).drop k = s := List.drop_left' (length_pad k n)
  have hall : (pad k n).all Char.isDigit := List.all_eq_true.mpr fun _ => isDigit_of_mem_pad
  rw [digits, htake, hdrop, length_pad, hall, ofDigitChars_pad hn]
  simp

theorem digits_pad_nil {k n : Nat} (hn : n < 10 ^ k) : digits k (pad k n) = some (n, []) := by
  rw [← List.append_nil (pad k n), digits_pad hn]

theorem toNat_lt_of_isDigit {c : Char} (h : c.isDigit) : c.toNat < 128 := by
  simp only [Char.isDigit, Bool.and_eq_true, decide_eq_true_eq] at h
  have := UInt32.le_iff_toNat_le.mp h.2
  show c.val.toNat < 128
  exact Nat.lt_of_le_of_lt this (by decide)

/-! ### The parts of the written text

The reader cuts a text that was written where the writer has put its separators.
-/

/-- ASCII text is its own UTF-8. -/
theorem utf8_of_ascii {s : List Char} (h : ∀ c ∈ s, c.toNat < 128) : utf8 s = s := by
  induction s with
  | nil => rfl
  | cons c s ih =>
      have hc : c.toNat < 128 := h c (List.mem_cons_self ..)
      have hencode : String.utf8EncodeChar c = [UInt8.ofNat c.toNat] := by
        have hval : c.val.toNat ≤ 0x7f := Nat.le_of_lt_succ hc
        simp only [String.utf8EncodeChar, hval, if_true]
        rfl
      have hback : Char.ofNat (UInt8.ofNat c.toNat).toNat = c := by
        rw [UInt8.toNat_ofNat_of_lt' (Nat.lt_trans hc (by decide)), Char.ofNat_toNat]
      have hrest := ih fun c' hc' => h c' (List.mem_cons_of_mem _ hc')
      rw [utf8, List.flatMap_cons, hencode, List.map_append]
      show Char.ofNat _ :: utf8 s = _
      rw [hback, hrest]

theorem pad_two (n : Nat) :
    pad 2 n = [Nat.digitChar (n / 10 % 10), Nat.digitChar (n % 10)] := rfl

theorem pad_four (n : Nat) : pad 4 n = [Nat.digitChar (n / 10 / 10 / 10 % 10),
    Nat.digitChar (n / 10 / 10 % 10), Nat.digitChar (n / 10 % 10), Nat.digitChar (n % 10)] := rfl

/-- `YYYY-MM-DD`. -/
def dateText (d : Date) : List Char :=
  pad 4 d.year ++ '-' :: (pad 2 d.month ++ '-' :: pad 2 d.day)

theorem length_dateText (d : Date) : (dateText d).length = 10 := by
  simp only [dateText, List.length_append, List.length_cons, length_pad]

theorem separatorLocation_dateText (d : Date) (s : List Char) :
    separatorLocation (dateText d ++ s) = some 10 := by
  have hlen : (dateText d ++ s).length ≠ 7 := by
    rw [List.length_append, length_dateText]
    omega
  have hdigit : ∀ n, Nat.digitChar (n % 10) ≠ 'W' := by
    intro n h
    exact absurd (h ▸ isDigit_digitChar_mod n) (by decide)
  have h4 : (dateText d ++ s).getD 4 ' ' = '-' := by
    simp only [dateText, pad_four, List.cons_append, List.nil_append]
    rfl
  have h5 : (dateText d ++ s).getD 5 ' ' ≠ 'W' := by
    simp only [dateText, pad_four, pad_two, List.cons_append, List.nil_append]
    exact hdigit _
  rw [separatorLocation]
  simp only [hlen, h4, h5, if_true, if_false]

theorem daysInMonth_lt (leap : Bool) (month : Nat) : daysInMonth leap month < 100 := by
  unfold daysInMonth
  by_cases hm : month - 1 < 12
  · have hall : ∀ leap : Bool, ∀ m < 12, (monthLengths leap).getD m 0 < 100 := by decide
    exact hall leap _ hm
  · have hnone : (monthLengths leap)[month - 1]? = none :=
      List.getElem?_eq_none (by simpa [monthLengths] using hm)
    rw [List.getD_eq_getElem?_getD, hnone]
    decide

theorem parseDate_dateText {d : Date} (hd : d.Valid) (hy : d.year < 10000) :
    parseDate (dateText d) = some (toOrdinal d) := by
  obtain ⟨-, -, hm, -, hday⟩ := id hd
  have hday : d.day < 10 ^ 2 := Nat.lt_of_le_of_lt hday (daysInMonth_lt ..)
  have hm : d.month < 10 ^ 2 := by omega
  rw [parseDate, dateText, digits_pad hy]
  simp only [Option.bind_eq_bind, Option.bind_some, List.head?_cons, decide_true, dash]
  split
  · next s hs =>
    rw [pad_two, List.cons_append] at hs
    exact absurd ((List.cons.inj hs).1 ▸ isDigit_digitChar_mod (d.month / 10)) (by decide)
  · rw [digits_pad hm]
    simp only [Option.bind_some, digits_pad_nil hday, List.isEmpty_nil, Bool.true_and]
    rw [if_pos (by simpa using hd)]

/-- `HH:MM:SS.ffffff`. -/
def clockText (t : ClockTime) : List Char :=
  pad 2 t.hour ++ ':' :: (pad 2 t.minute ++ ':' :: (pad 2 t.second ++ '.' :: pad 6 t.micro))

/-- A field of two digits that a colon ends. -/
theorem clockFields_colon {last separated : Bool} {left value : Nat} {c : Char} {s : List Char}
    (hv : value < 100) (hsep : left = 2 ∨ separated = true) :
    clockFields last (left + 1) separated (pad 2 value ++ ':' :: c :: s) =
      (clockFields last left true (c :: s)).map fun r => (value :: r.1, r.2) := by
  rw [clockFields, digits_pad hv]
  simp only [Option.bind_eq_bind, Option.bind_some]
  rcases hsep with rfl | rfl
  · simp only [if_true, decide_true, Bool.and_self]
    cases clockFields last 2 true (c :: s) <;> rfl
  · simp only [decide_true, ite_self, Bool.and_self, if_true]
    cases clockFields last left true (c :: s) <;> rfl

/-- The seconds, before the fraction. -/
theorem clockFields_point {last : Bool} {value : Nat} {c : Char} {s : List Char} (hv : value < 100) :
    clockFields last 1 true (pad 2 value ++ '.' :: c :: s) = some ([value], .inr (c :: s)) := by
  rw [clockFields, digits_pad hv]
  simp only [Option.bind_eq_bind, Option.bind_some]
  rfl

theorem pad_cons (k n : Nat) : ∃ c s, pad (k + 1) n = c :: s := by
  cases h : pad (k + 1) n with
  | nil => exact absurd (congrArg List.length h) (by simp [length_pad])
  | cons c s => exact ⟨c, s, rfl⟩

theorem parseClock_clockText {last : Bool} {t : ClockTime} (hh : t.hour < 24) (hm : t.minute < 60)
    (hs : t.second < 60) (hf : t.micro < 1000000) :
    parseClock last (clockText t) = some (t, !last) := by
  obtain ⟨c₁, s₁, h₁⟩ := pad_cons 1 t.minute
  obtain ⟨c₂, s₂, h₂⟩ := pad_cons 1 t.second
  obtain ⟨c₃, s₃, h₃⟩ := pad_cons 5 t.micro
  have hfields : clockFields last 3 true (clockText t) =
      some ([t.hour, t.minute, t.second], .inr (pad 6 t.micro)) := by
    rw [clockText, h₁, List.cons_append, clockFields_colon (by omega) (Or.inl rfl),
      ← List.cons_append, ← h₁, h₂, List.cons_append, clockFields_colon (by omega) (Or.inr rfl),
      ← List.cons_append, ← h₂, h₃, clockFields_point (by omega)]
    rfl
  rw [parseClock, hfields]
  simp only [Option.bind_eq_bind, Option.bind_some, length_pad, Nat.min_self,
    digits_pad_nil (k := 6) hf]
  simp [more]

/-- The end of the text after `replace("Z", "+00:00")`. -/
def utcZone : List Char := ['+', '0', '0', ':', '0', '0']

theorem mem_clockText {t : ClockTime} {c : Char} (h : c ∈ clockText t) :
    c.isDigit ∨ c = ':' ∨ c = '.' := by
  simp only [clockText, List.mem_append, List.mem_cons] at h
  rcases h with h | h | h | h | h | h | h
  · exact Or.inl (isDigit_of_mem_pad h)
  · exact Or.inr (Or.inl h)
  · exact Or.inl (isDigit_of_mem_pad h)
  · exact Or.inr (Or.inl h)
  · exact Or.inl (isDigit_of_mem_pad h)
  · exact Or.inr (Or.inr h)
  · exact Or.inl (isDigit_of_mem_pad h)

/-- No time zone starts in the text of a time. -/
theorem noZone_of_mem {c : Char} (h : c.isDigit ∨ c = ':' ∨ c = '.') :
    (!(decide (c = '+') || decide (c = '-') || decide (c = 'Z'))) = true := by
  rcases h with h | rfl | rfl
  · have h1 : c ≠ '+' := by rintro rfl; exact absurd h (by decide)
    have h2 : c ≠ '-' := by rintro rfl; exact absurd h (by decide)
    have h3 : c ≠ 'Z' := by rintro rfl; exact absurd h (by decide)
    simp [h1, h2, h3]
  · decide
  · decide

theorem parseTime_utc {t : ClockTime} (hh : t.hour < 24) (hm : t.minute < 60) (hs : t.second < 60)
    (hf : t.micro < 1000000) : parseTime (clockText t ++ utcZone) = some (t, some 0) := by
  have hnoZone := fun c hc => noZone_of_mem (@mem_clockText t c hc)
  have hzone : parseOffset false ['0', '0', ':', '0', '0'] = some 0 := by decide
  rw [parseTime, List.dropWhile_append_of_pos hnoZone, List.takeWhile_append_of_pos hnoZone]
  simp only [utcZone, List.dropWhile_cons, List.takeWhile_cons, decide_true, Bool.true_or,
    Bool.not_true, Bool.false_eq_true, if_false, List.append_nil, List.isEmpty_cons,
    parseClock_clockText hh hm hs hf, Option.bind_eq_bind, Option.bind_some]
  show (parseOffset false ['0', '0', ':', '0', '0']).bind _ = _
  rw [hzone]
  rfl

/-- The fields of a clock reading. -/
def clock (wall : Nat) : ClockTime where
  hour := wall / 1000000 / 3600 % 24
  minute := wall / 1000000 / 60 % 60
  second := wall / 1000000 % 60
  micro := wall % 1000000

theorem build_clock (d : PyDatetime) :
    build (d.wall / dayMicros + 1) (clock d.wall) d.offset = some d := by
  have hwall : (d.wall / dayMicros + 1 - 1) * dayMicros + (((clock d.wall).hour * 60 +
      (clock d.wall).minute) * 60 + (clock d.wall).second) * 1000000 + (clock d.wall).micro =
      d.wall := by
    simp only [clock, dayMicros]
    omega
  have hclock : (clock d.wall).hour < 24 ∧ (clock d.wall).minute < 60 ∧
      (clock d.wall).second < 60 := by
    simp only [clock]
    omega
  rw [build]
  simp only [hwall]
  rw [dif_pos ⟨d.wall_lt, d.offset_lt⟩, if_pos ⟨Nat.le_add_left .., hclock⟩]

/-- The text of `strftime` after `replace("Z", "+00:00")`. -/
def isoText (wall : Nat) : List Char :=
  dateText (ofOrdinal (wall / dayMicros + 1)) ++ 'T' :: (clockText (clock wall) ++ utcZone)

theorem ascii_dateText (d : Date) : ∀ c ∈ dateText d, c.toNat < 128 := by
  intro c hc
  simp only [dateText, List.mem_append, List.mem_cons] at hc
  rcases hc with hc | rfl | hc | rfl | hc
  · exact toNat_lt_of_isDigit (isDigit_of_mem_pad hc)
  · decide
  · exact toNat_lt_of_isDigit (isDigit_of_mem_pad hc)
  · decide
  · exact toNat_lt_of_isDigit (isDigit_of_mem_pad hc)

theorem ascii_clockText (t : ClockTime) : ∀ c ∈ clockText t ++ utcZone, c.toNat < 128 := by
  intro c hc
  rcases List.mem_append.mp hc with hc | hc
  · rcases mem_clockText hc with hc | rfl | rfl
    · exact toNat_lt_of_isDigit hc
    · decide
    · decide
  · have hall : utcZone.all (fun c => c.toNat < 128) := by decide
    exact of_decide_eq_true (List.all_eq_true.mp hall c hc)

theorem day_le {wall : Nat} (h : wall < wallLimit) : wall / dayMicros + 1 ≤ maxOrdinal :=
  Nat.succ_le_of_lt (Nat.div_lt_of_lt_mul (by rw [Nat.mul_comm]; exact h))

theorem parseDate_ofOrdinal {n : Nat} (hpos : 1 ≤ n) (hn : n ≤ maxOrdinal) :
    parseDate (dateText (ofOrdinal n)) = some n := by
  have hyear := year_ofOrdinal_le hn
  rw [parseDate_dateText (ofOrdinal_valid hpos) (by omega), toOrdinal_ofOrdinal hpos]

theorem parseTime_clock (wall : Nat) :
    parseTime (clockText (clock wall) ++ utcZone) = some (clock wall, some 0) := by
  refine parseTime_utc ?_ ?_ ?_ ?_ <;> simp only [clock] <;> omega

theorem separatorLength_T : separatorLength 'T' = 1 := by decide

/-- A date in front of a time that is read. -/
theorem fromisoformat_dateText {n : Nat} (hpos : 1 ≤ n) (hn : n ≤ maxOrdinal) {s : List Char}
    (hascii : ∀ c ∈ s, c.toNat < 128) {time : ClockTime} {offset : Option Int}
    (htime : parseTime s = some (time, offset)) :
    fromisoformat (dateText (ofOrdinal n) ++ 'T' :: s) = build n time offset := by
  have hlength : ¬ (dateText (ofOrdinal n) ++ 'T' :: s).length < 7 := by
    rw [List.length_append, length_dateText]
    omega
  have htext : ∀ c ∈ dateText (ofOrdinal n) ++ 'T' :: s, c.toNat < 128 := by
    intro c hc
    rcases List.mem_append.mp hc with hc | hc
    · exact ascii_dateText _ c hc
    · rcases List.mem_cons.mp hc with rfl | hc
      · decide
      · exact hascii c hc
  rw [fromisoformat, if_neg hlength, utf8_of_ascii htext]
  show (separatorLocation _).bind _ = _
  rw [separatorLocation_dateText, Option.bind_some]
  show (parseDate _).bind _ = _
  rw [List.take_left' (length_dateText _), parseDate_ofOrdinal hpos hn, Option.bind_some,
    List.drop_left' (length_dateText _)]
  show (parseTime _).bind _ = _
  rw [separatorLength_T, List.drop_zero, htime, Option.bind_some]

/-- **The written text is read back** as the same instant. -/
theorem fromisoformat_isoText {wall : Nat} (h : wall < wallLimit) :
    fromisoformat (isoText wall) = some (ofUtc wall h) := by
  rw [isoText, fromisoformat_dateText (Nat.le_add_left ..) (day_le h) (ascii_clockText _)
    (parseTime_clock wall)]
  exact build_clock (ofUtc wall h)

/-! ### What `strftime` writes -/

theorem year_lt (d : PyDatetime) : d.year < 10000 := by
  have := year_ofOrdinal_le (day_le d.wall_lt)
  show (ofOrdinal _).year < 10000
  omega

theorem strftime_eq {d : PyDatetime} (hy : 1000 ≤ d.year) :
    strftime d = (dateText d.date ++ 'T' :: clockText (clock d.wall)) ++ ['Z'] := by
  rw [strftime, toDigits_eq_pad (k := 3) hy d.year_lt]
  simp only [dateText, clockText, clock, year, List.append_assoc, List.cons_append]

/-- The characters of a written date and time. -/
theorem mem_dateAndTime {date : Date} {t : ClockTime} {c : Char}
    (h : c ∈ dateText date ++ 'T' :: clockText t) : c.isDigit ∨ c ∈ ['-', 'T', ':', '.'] := by
  simp only [dateText, List.mem_append, List.mem_cons] at h
  rcases h with (h | rfl | h | rfl | h) | rfl | h
  · exact Or.inl (isDigit_of_mem_pad h)
  · exact Or.inr (by decide)
  · exact Or.inl (isDigit_of_mem_pad h)
  · exact Or.inr (by decide)
  · exact Or.inl (isDigit_of_mem_pad h)
  · exact Or.inr (by decide)
  · rcases mem_clockText h with h | rfl | rfl
    · exact Or.inl h
    · exact Or.inr (by decide)
    · exact Or.inr (by decide)

/-- `replace("Z", "+00:00")` touches only the end of the text. -/
theorem replaceChar_strftime {d : PyDatetime} (hy : 1000 ≤ d.year) :
    PyStr.replaceChar 'Z' utcZone (strftime d) = isoText d.wall := by
  have hnot : 'Z' ∉ dateText d.date ++ 'T' :: clockText (clock d.wall) := fun h =>
    absurd (mem_dateAndTime h) (by decide)
  rw [strftime_eq hy, PyStr.replaceChar_append, PyStr.replaceChar_of_not_mem hnot, isoText,
    List.append_assoc, List.cons_append]
  rfl

theorem isSpace_strftime {d : PyDatetime} (hy : 1000 ≤ d.year) :
    ∀ c ∈ strftime d, PyStr.isSpace c = false := by
  intro c hc
  rw [strftime_eq hy] at hc
  rcases List.mem_append.mp hc with hc | hc
  · rcases mem_dateAndTime hc with h | h
    · exact PyStr.isSpace_of_isDigit h
    · have hall : ['-', 'T', ':', '.'].all (fun c => !PyStr.isSpace c) := by decide
      simpa using List.all_eq_true.mp hall c h
  · rw [List.mem_singleton.mp hc]
    decide

/-- **What `strftime` writes is read back**, when the year has four digits. -/
theorem fromisoformat_strftime {d : PyDatetime} (hy : 1000 ≤ d.year) :
    fromisoformat (PyStr.replaceChar 'Z' utcZone (strftime d)) = some (ofUtc d.wall d.wall_lt) := by
  rw [replaceChar_strftime hy, fromisoformat_isoText d.wall_lt]

/-! ### Datetimes in UTC -/

/-- A reading and an offset make a datetime. -/
theorem eq_of_fields {d e : PyDatetime} (hwall : d.wall = e.wall) (hoffset : d.offset = e.offset) :
    d = e := by
  cases d
  cases e
  simp only at hwall hoffset
  subst hwall hoffset
  rfl

/-- A datetime in UTC is what `ofUtc` builds. -/
theorem ofUtc_wall {d : PyDatetime} (h : d.offset = some 0) : ofUtc d.wall d.wall_lt = d :=
  eq_of_fields rfl h.symm

/-- The instant that a datetime stands for, when it has an offset. -/
def instant (d : PyDatetime) : Int := d.wall - d.offset.getD 0

theorem astimezoneUtc_eq_some {d utc : PyDatetime} :
    d.astimezoneUtc = some utc ↔ (utc.wall : Int) = d.instant ∧ utc.offset = some 0 := by
  rw [astimezoneUtc, instant]
  constructor
  · intro h
    split at h
    · next hwall =>
      rw [← Option.some.inj h]
      exact ⟨Int.toNat_of_nonneg hwall.1, rfl⟩
    · exact absurd h (by simp)
  · rintro ⟨hwall, hoffset⟩
    have hlt := utc.wall_lt
    rw [dif_pos (by omega)]
    exact congrArg some (eq_of_fields (by simp only [ofUtc]; omega) hoffset.symm)

theorem astimezoneUtc_of_utc {d : PyDatetime} (h : d.offset = some 0) :
    d.astimezoneUtc = some d := by
  rw [astimezoneUtc_eq_some, instant, h]
  exact ⟨(Int.sub_zero _).symm, rfl⟩

end PyDatetime

end CartoonDemo
