import CartoonDemo.Library.PyNumber

/-!
# CartoonDemo.Library.PyDouble

**Arithmetic of floats**: the exact result of an operation on finite numbers is rounded to a double,
to nearest, ties to even, and what is too large becomes an infinity. Opposite infinities have no
sum, and an infinity has no product with zero; both are nan, and nan is the result of every operation
on it.

Comparisons of finite numbers and infinities are a linear order (`rankOf_le_iff`).
-/

namespace CartoonDemo

namespace PyFloat

/-- The nearest integer, ties to even. -/
def roundHalfEven (q : ℚ) : ℤ :=
  let n := q.floor
  let rest := q - n
  if rest < 1 / 2 then n
  else if 1 / 2 < rest then n + 1
  else if n % 2 = 0 then n
  else n + 1

/-- The position of the first bit of a number that is not zero. -/
def exponent (q : ℚ) : ℤ :=
  let e : ℤ := q.num.natAbs.log2 - q.den.log2
  if |q| < 2 ^ e then e - 1 else e

/-- A rational number as a double. -/
def ofRat (q : ℚ) : PyFloat :=
  let unit : ℚ := 2 ^ max (-1074) (exponent q - 52)
  let rounded : ℚ := roundHalfEven (q / unit) * unit
  if |rounded| < 2 ^ 1024 then finite rounded else inf (q < 0)

/-- `-x`. -/
def neg : PyFloat → PyFloat
  | nan => nan
  | inf negative => inf !negative
  | finite q => finite (-q)

/-- `x + y`. -/
def add : PyFloat → PyFloat → PyFloat
  | nan, _ => nan
  | _, nan => nan
  | inf a, inf b => if a = b then inf a else nan
  | inf a, finite _ => inf a
  | finite _, inf b => inf b
  | finite p, finite q => ofRat (p + q)

/-- The product of an infinity and a finite number. -/
def infTimes (negative : Bool) (q : ℚ) : PyFloat := if q = 0 then nan else inf (negative != decide (q < 0))

/-- `x * y`. -/
def mul : PyFloat → PyFloat → PyFloat
  | nan, _ => nan
  | _, nan => nan
  | inf a, inf b => inf (a != b)
  | inf a, finite q => infTimes a q
  | finite p, inf b => infTimes b p
  | finite p, finite q => ofRat (p * q)

/-- `x / y`, of a `y` that is not zero. -/
def div : PyFloat → PyFloat → PyFloat
  | nan, _ => nan
  | _, nan => nan
  | inf _, inf _ => nan
  | inf a, finite q => inf (a != decide (q < 0))
  | finite _, inf _ => zero
  | finite p, finite q => ofRat (p / q)

@[simp] theorem neg_nan : neg nan = nan := rfl

@[simp] theorem neg_eq_nan_iff {x : PyFloat} : neg x = nan ↔ x = nan := by
  cases x <;> simp [neg]

/-- One infinity and the other. -/
def Opposite (x y : PyFloat) : Prop := ∃ negative, x = inf negative ∧ y = inf !negative

theorem ofRat_ne_nan (q : ℚ) : ofRat q ≠ nan := by
  rw [ofRat]
  split <;> simp

/-- **Where a sum is nan.** -/
theorem add_eq_nan_iff {x y : PyFloat} : x.add y = nan ↔ x = nan ∨ y = nan ∨ Opposite x y := by
  cases x with
  | nan => simp [add]
  | inf a =>
      cases y with
      | nan => simp [add]
      | inf b => cases a <;> cases b <;> simp [add, Opposite]
      | finite q => simp [add, Opposite]
  | finite p =>
      cases y with
      | nan => simp [add]
      | inf b => simp [add, Opposite]
      | finite q => simp [add, Opposite, ofRat_ne_nan]

/-! ### The order -/

/-- The place of a number that is not nan among the rational numbers and the infinities. -/
def rankOf : PyFloat → WithBot (WithTop ℚ)
  | nan => ⊥
  | inf true => ⊥
  | inf false => ((⊤ : WithTop ℚ) : WithBot (WithTop ℚ))
  | finite q => ((q : WithTop ℚ) : WithBot (WithTop ℚ))

theorem rankOf_le_iff {x y : PyFloat} (hx : x ≠ nan) (hy : y ≠ nan) :
    rankOf x ≤ rankOf y ↔ x.le y = true := by
  cases x with
  | nan => exact absurd rfl hx
  | inf a =>
      cases y with
      | nan => exact absurd rfl hy
      | inf b => cases a <;> cases b <;> simp [rankOf, le]
      | finite q => cases a <;> simp [rankOf, le]
  | finite p =>
      cases y with
      | nan => exact absurd rfl hy
      | inf b => cases b <;> simp [rankOf, le]
      | finite q => simp [rankOf, le]

theorem nan_le (x : PyFloat) : nan.le x = false := rfl

theorem le_nan (x : PyFloat) : x.le nan = false := by
  cases x with
  | nan => rfl
  | inf a => cases a <;> rfl
  | finite p => rfl

end PyFloat

end CartoonDemo
