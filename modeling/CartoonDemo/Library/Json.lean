import Mathlib.Data.Rat.Floor
import CartoonDemo.Library.PyText

/-!
# CartoonDemo.Library.Json

The **values that `json.loads` returns**: what JSON has, with Python's integers of any size and
its floats, which include nan and the infinities. An object is a dict, so its keys are taken to
be distinct.

Two things about a value matter to the programs that check one: whether Python counts it as true
(`truthy`), and how deep it is nested (`nesting`).
-/

namespace CartoonDemo

inductive Json
  | null
  | bool (b : Bool)
  | int (n : ℤ)
  | float (x : PyFloat)
  | str (s : String)
  | arr (items : List Json)
  | obj (fields : List (String × Json))
  deriving Repr

namespace Json

/-- `bool(value)`. -/
def truthy : Json → Bool
  | null => false
  | bool b => b
  | int n => n ≠ 0
  | float x => x ≠ PyFloat.zero
  | str s => s ≠ ""
  | arr items => !items.isEmpty
  | obj fields => !fields.isEmpty

/-- `value or other`. -/
def orElse (value other : Json) : Json := if value.truthy then value else other

/-- `fields.get(key)`, where `None` stands for a missing key as well. -/
def get (fields : List (String × Json)) (key : String) : Json := (fields.lookup key).getD null

theorem truthy_str {s : String} : (str s).truthy ↔ s ≠ "" := by simp [truthy]

theorem orElse_of_truthy {value other : Json} (h : value.truthy) : value.orElse other = value :=
  if_pos h

mutual

/-- The levels that lie below a value; a scalar and an empty container have none. -/
def nesting : Json → Nat
  | arr items => nestingItems items
  | obj fields => nestingFields fields
  | _ => 0

/-- The levels of a list, counted from the list. -/
def nestingItems : List Json → Nat
  | [] => 0
  | item :: items => max (item.nesting + 1) (nestingItems items)

/-- The levels of a dict, counted from the dict. -/
def nestingFields : List (String × Json) → Nat
  | [] => 0
  | (_, value) :: fields => max (value.nesting + 1) (nestingFields fields)

end

/-! ### Reading the fields of a dict -/

section Reading

-- stands for Python's `str` of a value that is not a string
variable (render : Json → String)

/-- `str(value)`. -/
def toStr : Json → String
  | .str s => s
  | value => render value

/-- `str(fields.get(key, default))`. -/
def strOf (fields : List (String × Json)) (key default : String) : String :=
  ((fields.lookup key).getD (.str default)).toStr render

/-- `str(fields.get(key, "")) if fields.get(key) else ""`. -/
def strIfTruthy (fields : List (String × Json)) (key : String) : String :=
  if (get fields key).truthy then strOf render fields key "" else ""

/-- The items of a list, and nothing of another value. -/
def items : Json → List Json
  | .arr items => items
  | _ => []

/-- A text is read back, the empty one as the missing one. -/
theorem strIfTruthy_str {fields : List (String × Json)} {key text : String}
    (h : fields.lookup key = some (.str text)) : strIfTruthy render fields key = text := by
  rw [strIfTruthy, get, h, Option.getD_some]
  by_cases hempty : text = ""
  · rw [if_neg (by rw [truthy_str]; exact fun hne => hne hempty), hempty]
  · rw [if_pos (truthy_str.mpr hempty), strOf, h, Option.getD_some]
    rfl

/-- `value or ""` of a text is the text. -/
theorem orElse_empty (text : String) : (str text).orElse (.str "") = .str text := by
  by_cases h : text = ""
  · rw [h]
    rfl
  · exact orElse_of_truthy (truthy_str.mpr h)

/-! ### Conversions of a value -/

/-- `int(value)`; `none` is a `TypeError`, a `ValueError` or an `OverflowError`. -/
def toInt : Json → Option ℤ
  | bool b => some b.toInt
  | int n => some n
  | float (.finite q) => some (if 0 ≤ q then ⌊q⌋ else ⌈q⌉)
  | str s => PyInt.parse (PyStr.strip s).toList
  | _ => none

/-- `float(value)`, where `parse` is what `float` makes of a text; `none` is an exception. -/
def toFloat (parse : String → Option PyFloat) : Json → Option PyFloat
  | bool b => PyFloat.ofInt b.toInt
  | int n => PyFloat.ofInt n
  | float x => some x
  | str s => parse s
  | _ => none

end Reading

end Json

end CartoonDemo
