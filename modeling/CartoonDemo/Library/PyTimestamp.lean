import Mathlib.Data.Rat.Floor
import CartoonDemo.Library.PyDatetime
import CartoonDemo.Library.PyNumber

/-!
# CartoonDemo.Library.PyTimestamp

`datetime.fromtimestamp` in UTC: seconds since 1970, rounded to microseconds, as long as the year is
one of 1 to 9999 (`fromTimestamp_isSome_iff`).
-/

namespace CartoonDemo

namespace PyDatetime

/-- 1970-01-01, in microseconds. -/
def epochWall : ℤ := 62135596800000000

/-- Rounding to nearest, ties to even. -/
def roundHalfEven (q : ℚ) : ℤ :=
  let low := ⌊q⌋
  let rest := q - low
  if rest < 1 / 2 ∨ (rest = 1 / 2 ∧ low % 2 = 0) then low else low + 1

/-- The reading of the clock in UTC at a time in seconds since 1970. -/
def timestampWall (q : ℚ) : ℤ := epochWall + roundHalfEven (q * 1000000)

/-- A time in seconds since 1970 lies within the years of a datetime. -/
def InYears : PyFloat → Prop
  | .finite q => 0 ≤ timestampWall q ∧ timestampWall q < wallLimit
  | _ => False

instance (x : PyFloat) : Decidable (InYears x) :=
  match x with
  | .finite _ => inferInstanceAs (Decidable (_ ∧ _))
  | .nan => inferInstanceAs (Decidable False)
  | .inf _ => inferInstanceAs (Decidable False)

/-- `datetime.fromtimestamp(x, tz=UTC)`; `none` is an `OverflowError`, an `OSError` or a
`ValueError`. -/
def fromTimestamp : PyFloat → Option PyDatetime
  | .finite q =>
      if h : 0 ≤ timestampWall q ∧ timestampWall q < wallLimit then
        some (ofUtc (timestampWall q).toNat (by omega))
      else none
  | _ => none

theorem fromTimestamp_isSome_iff {x : PyFloat} : (fromTimestamp x).isSome ↔ InYears x := by
  cases x with
  | nan => exact ⟨fun h => absurd h (by decide), False.elim⟩
  | inf negative => exact ⟨fun h => absurd h (by simp [fromTimestamp]), False.elim⟩
  | finite q =>
      rw [fromTimestamp, InYears]
      split
      · next h => simp [h]
      · next h => simp [h]

end PyDatetime

end CartoonDemo
