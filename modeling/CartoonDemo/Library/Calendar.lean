import Mathlib.Data.Nat.Basic
import Mathlib.Tactic.IntervalCases

/-!
# CartoonDemo.Library.Calendar

The **proleptic Gregorian calendar**: days are numbered from 0001-01-01, which is day 1
(`toOrdinal`), and a day number is turned back into year, month and day by splitting it into
cycles of 400, 100, 4 and 1 years (`ofOrdinal`).

The conversion back is the inverse of the numbering, and yields a date that exists
(`ofOrdinal_valid`, `toOrdinal_ofOrdinal`).
-/

namespace CartoonDemo

namespace Calendar

def isLeap (year : Nat) : Bool := year % 4 = 0 && (year % 100 ≠ 0 || year % 400 = 0)

/-- Days of the years before `year`. -/
def daysBeforeYear (year : Nat) : Nat :=
  (year - 1) * 365 + (year - 1) / 4 - (year - 1) / 100 + (year - 1) / 400

/-- The lengths of the months. -/
def monthLengths (leap : Bool) : List Nat :=
  [31, if leap then 29 else 28, 31, 30, 31, 30, 31, 31, 30, 31, 30, 31]

def daysInMonth (leap : Bool) (month : Nat) : Nat := (monthLengths leap).getD (month - 1) 0

/-- Days of the months before `month`. -/
def daysBeforeMonth (leap : Bool) (month : Nat) : Nat := ((monthLengths leap).take (month - 1)).sum

structure Date where
  year : Nat
  month : Nat
  day : Nat
  deriving DecidableEq, Repr

/-- The date exists. -/
def Date.Valid (d : Date) : Prop :=
  1 ≤ d.year ∧ 1 ≤ d.month ∧ d.month ≤ 12 ∧ 1 ≤ d.day ∧ d.day ≤ daysInMonth (isLeap d.year) d.month

instance (d : Date) : Decidable d.Valid := inferInstanceAs (Decidable (_ ∧ _))

/-- The number of a date. -/
def toOrdinal (d : Date) : Nat :=
  daysBeforeYear d.year + daysBeforeMonth (isLeap d.year) d.month + d.day

/-- Month and day of the day `n` of a year, counted from zero: the month is estimated from above
and put right. -/
def monthAndDay (leap : Bool) (n : Nat) : Nat × Nat :=
  let month := (n + 50) / 32
  let month := if n < daysBeforeMonth leap month then month - 1 else month
  (month, n - daysBeforeMonth leap month + 1)

/-- The date of a day number. -/
def ofOrdinal (n : Nat) : Date :=
  let n := n - 1
  let n400 := n / 146097
  let n := n % 146097
  let n100 := n / 36524
  let n := n % 36524
  let n4 := n / 1461
  let n := n % 1461
  let n1 := n / 365
  let n := n % 365
  let year := n400 * 400 + 1 + n100 * 100 + n4 * 4 + n1
  if n1 = 4 || n100 = 4 then { year := year - 1, month := 12, day := 31 }
  else
    let leap := n1 = 3 && (n4 ≠ 24 || n100 = 3)
    let (month, day) := monthAndDay leap n
    { year, month, day }

/-! ### Months -/

theorem monthAndDay_spec (leap : Bool) {n : Nat} (hn : n < 365 + leap.toNat) :
    1 ≤ (monthAndDay leap n).1 ∧ (monthAndDay leap n).1 ≤ 12 ∧ 1 ≤ (monthAndDay leap n).2 ∧
      (monthAndDay leap n).2 ≤ daysInMonth leap (monthAndDay leap n).1 ∧
      daysBeforeMonth leap (monthAndDay leap n).1 + (monthAndDay leap n).2 = n + 1 := by
  have hall : ∀ leap : Bool, ∀ n < 365 + leap.toNat,
      1 ≤ (monthAndDay leap n).1 ∧ (monthAndDay leap n).1 ≤ 12 ∧ 1 ≤ (monthAndDay leap n).2 ∧
      (monthAndDay leap n).2 ≤ daysInMonth leap (monthAndDay leap n).1 ∧
      daysBeforeMonth leap (monthAndDay leap n).1 + (monthAndDay leap n).2 = n + 1 := by
    decide +kernel
  exact hall leap n hn

/-! ### Years

A day number is taken apart into cycles of 400, 100, 4 and single years.
-/

/-- The days before a year that is written in cycles. -/
theorem daysBeforeYear_cycles (n400 : Nat) {n100 n4 n1 : Nat} (h100 : n100 ≤ 3) (h4 : n4 ≤ 24)
    (h1 : n1 ≤ 3) : daysBeforeYear (n400 * 400 + 1 + n100 * 100 + n4 * 4 + n1) =
      146097 * n400 + 36524 * n100 + 1461 * n4 + 365 * n1 := by
  unfold daysBeforeYear
  omega

theorem isLeap_cycles {n400 n100 n4 n1 : Nat} (h100 : n100 ≤ 3) (h4 : n4 ≤ 24) (h1 : n1 ≤ 3) :
    isLeap (n400 * 400 + 1 + n100 * 100 + n4 * 4 + n1) = (n1 = 3 && (n4 ≠ 24 || n100 = 3)) := by
  rw [isLeap, Bool.eq_iff_iff]
  simp only [Bool.and_eq_true, Bool.or_eq_true, decide_eq_true_eq]
  omega

/-- The last day of a leap year, which the split into cycles leaves over. -/
theorem lastDay {year : Nat} (n400 n100 n4 : Nat) (h100 : n100 ≤ 3) (h4 : n4 ≤ 24)
    (hleap : n4 ≠ 24 ∨ n100 = 3) (hy : year = n400 * 400 + 1 + n100 * 100 + n4 * 4 + 3) :
    (Date.mk year 12 31).Valid ∧
      toOrdinal (Date.mk year 12 31) = 146097 * n400 + 36524 * n100 + 1461 * n4 + 1461 := by
  have hl : isLeap year = true := by
    rw [hy, isLeap_cycles h100 h4 (Nat.le_refl 3)]
    simpa using hleap
  have hlength : daysInMonth true 12 = 31 := by decide
  have hbefore : daysBeforeMonth true 12 = 335 := by decide
  have hdays := daysBeforeYear_cycles n400 h100 h4 (Nat.le_refl 3)
  simp only [Date.Valid, toOrdinal, hl, hlength, hbefore]
  rw [← hy] at hdays
  omega

/-- The days of a year that the split into cycles reaches. -/
theorem innerDay {year : Nat} (n400 n100 n4 n1 n : Nat) (h100 : n100 ≤ 3) (h4 : n4 ≤ 24) (h1 : n1 ≤ 3)
    (hn : n < 365) (hy : year = n400 * 400 + 1 + n100 * 100 + n4 * 4 + n1) {leap : Bool}
    (hleap : leap = (n1 = 3 && (n4 ≠ 24 || n100 = 3))) :
    (Date.mk year (monthAndDay leap n).1 (monthAndDay leap n).2).Valid ∧
      toOrdinal (Date.mk year (monthAndDay leap n).1 (monthAndDay leap n).2) =
        146097 * n400 + 36524 * n100 + 1461 * n4 + 365 * n1 + n + 1 := by
  have hl : isLeap year = leap := by rw [hy, hleap, isLeap_cycles h100 h4 h1]
  obtain ⟨hm, hm', hd, hd', hsum⟩ := monthAndDay_spec leap (n := n) (by omega)
  have hdays := daysBeforeYear_cycles n400 h100 h4 h1
  rw [← hy] at hdays
  refine ⟨⟨show 1 ≤ year by omega, hm, hm', hd, by rw [hl]; exact hd'⟩, ?_⟩
  simp only [toOrdinal, hl]
  omega

/-- The date of a day number exists and has that number. -/
theorem ofOrdinal_spec {n : Nat} (hn : 1 ≤ n) : (ofOrdinal n).Valid ∧ toOrdinal (ofOrdinal n) = n := by
  unfold ofOrdinal
  dsimp only
  split
  · next hlast =>
    simp only [Bool.or_eq_true, decide_eq_true_eq] at hlast
    -- either a cycle of 400 years ends here, or one of four
    by_cases h100 : (n - 1) % 146097 / 36524 = 4
    · obtain ⟨hvalid, hord⟩ := lastDay ((n - 1) / 146097) 3 24 (by omega)
        (by omega) (Or.inr rfl) rfl
      have hyear : (n - 1) / 146097 * 400 + 1 + (n - 1) % 146097 / 36524 * 100 +
          (n - 1) % 146097 % 36524 / 1461 * 4 + (n - 1) % 146097 % 36524 % 1461 / 365 - 1 =
          (n - 1) / 146097 * 400 + 1 + 3 * 100 + 24 * 4 + 3 := by omega
      rw [hyear]
      exact ⟨hvalid, hord.trans (by omega)⟩
    · have h1 := hlast.resolve_right h100
      obtain ⟨hvalid, hord⟩ := lastDay ((n - 1) / 146097)
        ((n - 1) % 146097 / 36524) ((n - 1) % 146097 % 36524 / 1461) (by omega)
        (by omega) (by omega) rfl
      have hyear : (n - 1) / 146097 * 400 + 1 + (n - 1) % 146097 / 36524 * 100 +
          (n - 1) % 146097 % 36524 / 1461 * 4 + (n - 1) % 146097 % 36524 % 1461 / 365 - 1 =
          (n - 1) / 146097 * 400 + 1 + (n - 1) % 146097 / 36524 * 100 +
            (n - 1) % 146097 % 36524 / 1461 * 4 + 3 := by omega
      rw [hyear]
      exact ⟨hvalid, hord.trans (by omega)⟩
  · next hinner =>
    simp only [Bool.or_eq_true, decide_eq_true_eq, not_or] at hinner
    obtain ⟨hvalid, hord⟩ := innerDay ((n - 1) / 146097)
      ((n - 1) % 146097 / 36524) ((n - 1) % 146097 % 36524 / 1461)
      ((n - 1) % 146097 % 36524 % 1461 / 365) ((n - 1) % 146097 % 36524 % 1461 % 365) (by omega) (by omega) (by omega) (by omega) rfl
      rfl
    exact ⟨hvalid, hord.trans (by omega)⟩

theorem ofOrdinal_valid {n : Nat} (hn : 1 ≤ n) : (ofOrdinal n).Valid := (ofOrdinal_spec hn).1

theorem toOrdinal_ofOrdinal {n : Nat} (hn : 1 ≤ n) : toOrdinal (ofOrdinal n) = n :=
  (ofOrdinal_spec hn).2

/-- The last day of the year 9999. -/
def maxOrdinal : Nat := 3652059

theorem year_ofOrdinal_le {n : Nat} (hn : n ≤ maxOrdinal) : (ofOrdinal n).year ≤ 9999 := by
  unfold maxOrdinal at hn
  unfold ofOrdinal
  dsimp only
  split
  · show _ - 1 ≤ 9999
    omega
  · show _ + _ ≤ 9999
    omega

end Calendar

end CartoonDemo
