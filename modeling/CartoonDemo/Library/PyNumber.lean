import Mathlib.Data.Nat.Log
import Mathlib.Data.Rat.Cast.Order
import Mathlib.Tactic.Linarith
import Mathlib.Tactic.Positivity

/-!
# CartoonDemo.Library.PyNumber

Python's **numbers**, as far as programs compare, convert and print them: a `float` is a
rational number, an infinity or nan, and every comparison with nan is false; `float(n)` of an
integer rounds to a double, or overflows; an integer of too many digits has no decimal
rendering.

A check that is written as `value <= 0` lets nan and the positive infinity pass;
`gt_zero_iff` says what it does establish.
-/

namespace CartoonDemo

/-- A `float`. Zero has no sign. -/
inductive PyFloat
  | nan
  | inf (negative : Bool)
  | finite (q : ℚ)
  deriving DecidableEq, Repr

namespace PyFloat

/-- `x <= y`. -/
def le : PyFloat → PyFloat → Bool
  | nan, _ => false
  | _, nan => false
  | inf true, _ => true
  | _, inf false => true
  | finite p, finite q => p ≤ q
  | _, _ => false

/-- `x < y`. -/
def lt (x y : PyFloat) : Bool := x.le y && !y.le x

def zero : PyFloat := finite 0

def isFinite : PyFloat → Bool
  | finite _ => true
  | _ => false

/-- A finite number is positive when it is not `<= 0`. -/
theorem gt_zero_iff {x : PyFloat} (hx : x.isFinite) : zero.lt x ↔ x.le zero = false := by
  cases x with
  | nan => exact absurd hx (by decide)
  | inf negative => exact absurd hx (by simp [isFinite])
  | finite q =>
      simp only [lt, le, zero, Bool.and_eq_true, decide_eq_true_eq, Bool.not_eq_true',
        decide_eq_false_iff_not, not_le]
      exact ⟨fun h => h.2, fun h => ⟨le_of_lt h, h⟩⟩

/-! ### Integers as floats

An integer is rounded to 53 bits, and has no float if that is too large.
-/

/-- A natural number as a double: 53 significant bits, to nearest, ties to even. -/
def roundToDouble (n : ℕ) : ℕ :=
  if n < 2 ^ 53 then n
  else
    let unit := 2 ^ (Nat.log2 n - 52)
    let q := n / unit
    let r := n % unit
    if unit < 2 * r ∨ (unit = 2 * r ∧ q % 2 = 1) then (q + 1) * unit else q * unit

/-- `float(n)` does not overflow. -/
def Fits (n : ℤ) : Prop := roundToDouble n.natAbs < 2 ^ 1024

instance (n : ℤ) : Decidable (Fits n) := inferInstanceAs (Decidable (_ < _))

/-- `float(n)`; `none` is an `OverflowError`. -/
def ofInt (n : ℤ) : Option PyFloat :=
  if Fits n then
    some (finite (if 0 ≤ n then roundToDouble n.natAbs else -(roundToDouble n.natAbs : ℚ)))
  else none

theorem ofInt_isSome_iff {n : ℤ} : (ofInt n).isSome ↔ Fits n := by
  unfold ofInt
  split
  · next h => simp [h]
  · next h => simp [h]

theorem ofInt_eq_none_iff {n : ℤ} : ofInt n = none ↔ ¬ Fits n := by
  rw [← ofInt_isSome_iff, Option.not_isSome_iff_eq_none]

/-- An integer becomes a finite number. -/
theorem isFinite_of_ofInt {n : ℤ} {x : PyFloat} (h : ofInt n = some x) : x.isFinite := by
  unfold ofInt at h
  split at h
  · obtain rfl := Option.some.inj h
    rfl
  · exact absurd h (by simp)

/-- An integer of at most 53 bits is a float as it is. -/
theorem ofInt_of_lt {n : ℤ} (h : n.natAbs < 2 ^ 53) : ofInt n = some (finite n) := by
  have hround : roundToDouble n.natAbs = n.natAbs := if_pos h
  have hfits : Fits n := by
    rw [Fits, hround]
    exact lt_trans h (pow_lt_pow_right₀ Nat.one_lt_two (by decide))
  rw [ofInt, if_pos hfits, hround]
  cases n with
  | ofNat k =>
      rw [if_pos (show 0 ≤ Int.ofNat k from Int.natCast_nonneg k)]
      rfl
  | negSucc k =>
      rw [if_neg (by omega), Int.cast_negSucc]
      rfl

end PyFloat

/-! ### Integers as text

`str` refuses an integer of too many digits.
-/

namespace PyInt

/-- `sys.int_info.default_max_str_digits`. -/
def maxStrDigits : ℕ := 4300

/-- `str(n)` does not raise a `ValueError`. -/
def Printable (n : ℤ) : Prop := n.natAbs < 10 ^ maxStrDigits

instance (n : ℤ) : Decidable (Printable n) := inferInstanceAs (Decidable (_ < _))

theorem printable_iff {n : ℤ} : Printable n ↔ n.natAbs < 10 ^ maxStrDigits := Iff.rfl

/-- `str(n)`. -/
def str (n : ℤ) : Option String := if Printable n then some (toString n) else none

theorem str_isSome_iff {n : ℤ} : (str n).isSome ↔ Printable n := by
  unfold str
  split
  · next h => simp [h]
  · next h => simp [h]

theorem str_of_printable {n : ℤ} (h : Printable n) : str n = some (toString n) := if_pos h

theorem str_of_not_printable {n : ℤ} (h : ¬ Printable n) : str n = none := if_neg h

end PyInt

-- the bounds are numerals that no unification should compute with
attribute [irreducible] PyFloat.Fits PyFloat.ofInt PyInt.Printable PyInt.str

end CartoonDemo
