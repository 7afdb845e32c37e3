import CartoonDemo.Library.PyDatetime

/-!
# CartoonDemo.Library.PyIsoformat

What `isoformat` writes is read back by `fromisoformat` as the same datetime, naive or aware, but
for one kind of offset: `fromisoformat` takes an offset of less than a second for none at all, so
`+00:00:00.000001` is read as UTC (`fromisoformat_isoformat_iff`).
-/

namespace CartoonDemo

open Calendar

namespace PyDatetime

/-- `HH:MM:SS`, and the fraction where there is one. -/
def timeText (t : ClockTime) : List Char :=
  pad 2 t.hour ++ ':' :: (pad 2 t.minute ++ ':' :: (pad 2 t.second ++
    if t.micro = 0 then [] else '.' :: pad 6 t.micro))

theorem isoformat_eq (d : PyDatetime) :
    isoformat d = dateText d.date ++ 'T' :: (timeText (clock d.wall) ++ offsetText d.offset) := by
  simp only [isoformat, dateText, timeText, clock, year, List.append_assoc, List.cons_append]
  rfl

/-! ### The time -/

/-- The last field of two digits. -/
theorem clockFields_end {last separated : Bool} {left value : Nat} (hv : value < 100) :
    clockFields last (left + 1) separated (pad 2 value) = some ([value], .inl !last) := by
  rw [clockFields, digits_pad_nil hv]
  rfl

theorem parseClock_timeText {last : Bool} {t : ClockTime} (hh : t.hour < 24) (hm : t.minute < 60)
    (hs : t.second < 60) (hf : t.micro < 1000000) :
    parseClock last (timeText t) = some (t, !last) := by
  by_cases hmicro : t.micro = 0
  · obtain ⟨c₁, s₁, h₁⟩ := pad_cons 1 t.minute
    obtain ⟨c₂, s₂, h₂⟩ := pad_cons 1 t.second
    have hfields : clockFields last 3 true (timeText t) =
        some ([t.hour, t.minute, t.second], .inl !last) := by
      rw [timeText, if_pos hmicro, List.append_nil, h₁, List.cons_append,
        clockFields_colon (by omega) (Or.inl rfl), ← List.cons_append, ← h₁, h₂,
        clockFields_colon (by omega) (Or.inr rfl), ← h₂, clockFields_end (by omega)]
      rfl
    rw [parseClock, hfields]
    show some (({ hour := t.hour, minute := t.minute, second := t.second, micro := 0 } : ClockTime),
      !last) = some (t, !last)
    rw [← hmicro]
  · have htext : timeText t = clockText t := by rw [timeText, if_neg hmicro, clockText]
    rw [htext, parseClock_clockText hh hm hs hf]

/-- Hours and minutes. -/
theorem parseClock_hourMinute {last : Bool} {hour minute : Nat} (hh : hour < 24)
    (hm : minute < 60) :
    parseClock last (pad 2 hour ++ ':' :: pad 2 minute) = some (⟨hour, minute, 0, 0⟩, !last) := by
  obtain ⟨c, s, hminute⟩ := pad_cons 1 minute
  have hfields : clockFields last 3 true (pad 2 hour ++ ':' :: pad 2 minute) =
      some ([hour, minute], .inl !last) := by
    rw [hminute, clockFields_colon (by omega) (Or.inl rfl), ← hminute, clockFields_end (by omega)]
    rfl
  rw [parseClock, hfields]
  rfl

/-! ### The offset

An offset is read as a clock time; the reader takes whole seconds of zero for UTC.
-/

/-- The size of an offset, as a clock would show it. -/
def offsetClock (o : Int) : ClockTime where
  hour := o.natAbs / 1000000 / 3600
  minute := o.natAbs / 1000000 / 60 % 60
  second := o.natAbs / 1000000 % 60
  micro := o.natAbs % 1000000

/-- What `fromisoformat` makes of an offset: nothing of one below a second. -/
def readOffset (o : Int) : Int := if o.natAbs < 1000000 then 0 else o

/-- The digits of an offset. -/
def offsetDigits (o : Int) : List Char :=
  if o.natAbs / 1000000 % 60 = 0 ∧ o.natAbs % 1000000 = 0 then
    pad 2 (offsetClock o).hour ++ ':' :: pad 2 (offsetClock o).minute
  else timeText (offsetClock o)

theorem offsetText_some (o : Int) :
    offsetText (some o) = (if o < 0 then '-' else '+') :: offsetDigits o := by
  rw [offsetText, offsetDigits]
  by_cases hzero : o.natAbs / 1000000 % 60 = 0 ∧ o.natAbs % 1000000 = 0
  · simp only [hzero, and_self, if_true, List.append_nil]
    rfl
  · simp only [hzero, if_false, timeText, offsetClock, List.append_assoc, List.cons_append]
    rfl

theorem parseClock_offsetDigits {o : Int} (ho : o.natAbs < dayMicros) :
    parseClock true (offsetDigits o) = some (offsetClock o, false) := by
  have hhour : (offsetClock o).hour < 24 := by
    simp only [offsetClock, dayMicros] at ho ⊢
    omega
  have hminute : (offsetClock o).minute < 60 := Nat.mod_lt _ (by decide)
  rw [offsetDigits]
  split
  · next hzero =>
    rw [parseClock_hourMinute hhour hminute]
    simp only [offsetClock, hzero, Bool.not_true]
  · exact parseClock_timeText hhour hminute (Nat.mod_lt _ (by decide)) (Nat.mod_lt _ (by decide))

/-- **An offset is read back**, where it is not below a second. -/
theorem parseOffset_offsetDigits {o : Int} (ho : o.natAbs < dayMicros) :
    parseOffset (decide (o < 0)) (offsetDigits o) = some (readOffset o) := by
  have hseconds : (offsetClock o).hour * 3600 + (offsetClock o).minute * 60 +
      (offsetClock o).second = o.natAbs / 1000000 := by
    simp only [offsetClock]
    omega
  rw [parseOffset, parseClock_offsetDigits ho]
  simp only [Option.bind_eq_bind, Option.bind_some, hseconds, Bool.false_or, readOffset]
  by_cases hsmall : o.natAbs < 1000000
  · have hzero : o.natAbs / 1000000 = 0 := Nat.div_eq_of_lt hsmall
    simp [hzero, hsmall, dayMicros]
  · have hpos : o.natAbs / 1000000 ≠ 0 := by omega
    have hmicros : ((o.natAbs / 1000000 : Nat) : Int) * 1000000 + (offsetClock o).micro =
        o.natAbs := by
      simp only [offsetClock]
      omega
    rw [if_neg hpos, hmicros, if_neg hsmall, Int.natAbs_natCast,
      if_neg (by simpa using ho)]
    by_cases hnegative : o < 0
    · simp only [hnegative, decide_true, if_true, Option.some.injEq]
      omega
    · simp only [hnegative, decide_false, Bool.false_eq_true, if_false, Option.some.injEq]
      omega

/-! ### The whole text -/

theorem mem_timeText {t : ClockTime} {c : Char} (h : c ∈ timeText t) :
    c.isDigit ∨ c = ':' ∨ c = '.' := by
  by_cases hmicro : t.micro = 0
  · simp only [timeText, hmicro, if_true, List.append_nil, List.mem_append, List.mem_cons] at h
    rcases h with h | h | h | h | h
    · exact Or.inl (isDigit_of_mem_pad h)
    · exact Or.inr (Or.inl h)
    · exact Or.inl (isDigit_of_mem_pad h)
    · exact Or.inr (Or.inl h)
    · exact Or.inl (isDigit_of_mem_pad h)
  · rw [timeText, if_neg hmicro] at h
    exact mem_clockText h

theorem mem_offsetText {o : Option Int} {c : Char} (h : c ∈ offsetText o) :
    c.isDigit ∨ c ∈ [':', '.', '+', '-'] := by
  cases o with
  | none => cases h
  | some o =>
      rw [offsetText_some, List.mem_cons] at h
      rcases h with rfl | h
      · right
        split <;> decide
      · rw [offsetDigits] at h
        split at h
        · simp only [List.mem_append, List.mem_cons] at h
          rcases h with h | rfl | h
          · exact Or.inl (isDigit_of_mem_pad h)
          · exact Or.inr (by decide)
          · exact Or.inl (isDigit_of_mem_pad h)
        · rcases mem_timeText h with h | rfl | rfl
          · exact Or.inl h
          · exact Or.inr (by decide)
          · exact Or.inr (by decide)

/-- The characters of a written datetime. -/
theorem mem_isoformat {d : PyDatetime} {c : Char} (h : c ∈ isoformat d) :
    c.isDigit ∨ c ∈ [':', '.', '+', '-', 'T'] := by
  simp only [isoformat_eq, dateText, List.mem_append, List.mem_cons] at h
  rcases h with (h | rfl | h | rfl | h) | rfl | h | h
  · exact Or.inl (isDigit_of_mem_pad h)
  · exact Or.inr (by decide)
  · exact Or.inl (isDigit_of_mem_pad h)
  · exact Or.inr (by decide)
  · exact Or.inl (isDigit_of_mem_pad h)
  · exact Or.inr (by decide)
  · rcases mem_timeText h with h | rfl | rfl
    · exact Or.inl h
    · exact Or.inr (by decide)
    · exact Or.inr (by decide)
  · refine (mem_offsetText h).imp_right fun h => ?_
    simp only [List.mem_cons, List.not_mem_nil, or_false] at h ⊢
    tauto

theorem ascii_isoformat (d : PyDatetime) : ∀ c ∈ isoformat d, c.toNat < 128 := by
  intro c hc
  rcases mem_isoformat hc with h | h
  · exact toNat_lt_of_isDigit h
  · have hall : [':', '.', '+', '-', 'T'].all (fun c => c.toNat < 128) := by decide
    exact of_decide_eq_true (List.all_eq_true.mp hall c h)

/-- There is no `Z` to replace. -/
theorem replaceChar_isoformat (d : PyDatetime) :
    PyStr.replaceChar 'Z' utcZone (isoformat d) = isoformat d :=
  PyStr.replaceChar_of_not_mem fun h => absurd (mem_isoformat h) (by decide)

theorem parseTime_isoformat {t : ClockTime} (hh : t.hour < 24) (hm : t.minute < 60)
    (hs : t.second < 60) (hf : t.micro < 1000000) {offset : Option Int}
    (ho : ∀ o ∈ offset, o.natAbs < dayMicros) :
    parseTime (timeText t ++ offsetText offset) = some (t, offset.map readOffset) := by
  have hnoZone := fun c hc => noZone_of_mem (@mem_timeText t c hc)
  rw [parseTime, List.dropWhile_append_of_pos hnoZone, List.takeWhile_append_of_pos hnoZone]
  cases offset with
  | none =>
      simp only [offsetText, List.dropWhile_nil, List.takeWhile_nil, List.append_nil,
        List.isEmpty_nil, parseClock_timeText hh hm hs hf, Option.bind_eq_bind, Option.bind_some]
      rfl
  | some o =>
      have hoffset := parseOffset_offsetDigits (ho o rfl)
      rw [offsetText_some]
      by_cases hnegative : o < 0
      · simp only [hnegative, decide_true] at hoffset
        simp only [hnegative, if_true, List.dropWhile_cons, List.takeWhile_cons, decide_true,
          Bool.or_true, Bool.true_or, Bool.not_true, Bool.false_eq_true, if_false, List.append_nil,
          List.isEmpty_cons, parseClock_timeText hh hm hs hf, Option.bind_eq_bind, Option.bind_some]
        show (parseOffset true (offsetDigits o)).bind _ = _
        rw [hoffset]
        rfl
      · simp only [hnegative, decide_false] at hoffset
        simp only [hnegative, if_false, List.dropWhile_cons, List.takeWhile_cons, decide_true,
          Bool.true_or, Bool.not_true, Bool.false_eq_true, List.append_nil, List.isEmpty_cons,
          parseClock_timeText hh hm hs hf, Option.bind_eq_bind, Option.bind_some]
        show (parseOffset false (offsetDigits o)).bind _ = _
        rw [hoffset]
        rfl

theorem offset_of_build {ordinal : Nat} {time : ClockTime} {offset : Option Int} {d : PyDatetime}
    (h : build ordinal time offset = some d) : offset = d.offset := by
  simp only [build] at h
  split at h
  · split at h
    · rw [← Option.some.inj h]
    · cases h
  · cases h

/-- **A datetime is read back**, with the offset that is left of its own. -/
theorem fromisoformat_isoformat (d : PyDatetime) :
    fromisoformat (isoformat d) =
      build (d.wall / dayMicros + 1) (clock d.wall) (d.offset.map readOffset) := by
  have htime : parseTime (timeText (clock d.wall) ++ offsetText d.offset) =
      some (clock d.wall, d.offset.map readOffset) := by
    refine parseTime_isoformat ?_ ?_ ?_ ?_ d.offset_lt <;> simp only [clock] <;> omega
  have hascii : ∀ c ∈ timeText (clock d.wall) ++ offsetText d.offset, c.toNat < 128 := by
    intro c hc
    refine ascii_isoformat d c ?_
    rw [isoformat_eq]
    exact List.mem_append_right _ (List.mem_cons_of_mem _ hc)
  rw [isoformat_eq]
  exact fromisoformat_dateText (Nat.le_add_left ..) (day_le d.wall_lt) hascii htime

/-- It is the same datetime exactly when its offset is not a part of a second. -/
theorem fromisoformat_isoformat_iff (d : PyDatetime) :
    fromisoformat (isoformat d) = some d ↔ ∀ o ∈ d.offset, o = 0 ∨ 1000000 ≤ o.natAbs := by
  rw [fromisoformat_isoformat]
  constructor
  · intro h o ho
    have hoffset : d.offset.map readOffset = d.offset := offset_of_build h
    rw [Option.mem_def.mp ho, Option.map_some, Option.some.injEq, readOffset] at hoffset
    split at hoffset
    · exact Or.inl hoffset.symm
    · next hlarge => exact Or.inr (Nat.not_lt.mp hlarge)
  · intro h
    have hoffset : d.offset.map readOffset = d.offset := by
      cases ho : d.offset with
      | none => rfl
      | some o =>
          rw [Option.map_some, readOffset]
          rcases h o ho with rfl | hlarge
          · rfl
          · rw [if_neg (Nat.not_lt.mpr hlarge)]
    rw [hoffset]
    exact build_clock d

end PyDatetime

end CartoonDemo
