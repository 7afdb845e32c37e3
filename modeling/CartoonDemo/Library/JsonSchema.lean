import CartoonDemo.Library.Json

/-!
# CartoonDemo.Library.JsonSchema

**JSON schemas**: the keywords of draft 2020-12 that compare a value with fixed data or look into
it, as `jsonschema` implements them. A keyword says nothing about values of another type, and a
bound rejects a number that is below or above it; so `nan` passes every bound.

`field_of_accepts` is how a required field is read off an accepted object.
-/

namespace CartoonDemo

inductive JsonType
  | object | array | string | number | null
  deriving DecidableEq, Repr

/-- `validator.is_type`; a truth value is no number. -/
def JsonType.is : JsonType → Json → Bool
  | object, .obj _ => true
  | array, .arr _ => true
  | string, .str _ => true
  | number, .int _ => true
  | number, .float _ => true
  | null, .null => true
  | _, _ => false

inductive Schema
  | type (names : List JsonType)
  | enum (values : List String)
  | const (value : String)
  | required (names : List String)
  | properties (fields : List (String × Schema))
  /-- `additionalProperties: false`, with the names of the properties. -/
  | onlyProperties (names : List String)
  | items (s : Schema)
  | minItems (n : ℕ)
  | maxItems (n : ℕ)
  | minimum (q : ℚ)
  | maximum (q : ℚ)
  | maxLength (n : ℕ)
  /-- The keywords of one schema, and `allOf`. -/
  | all (parts : List Schema)
  /-- `if` and `then`. -/
  | ifThen (condition body : Schema)

namespace Schema

/-- A number is less than a bound. -/
def lessThan (q : ℚ) : Json → Bool
  | .int n => (n : ℚ) < q
  | .float x => x.lt (.finite q)
  | _ => false

/-- A number is greater than a bound. -/
def greaterThan (q : ℚ) : Json → Bool
  | .int n => q < (n : ℚ)
  | .float x => PyFloat.lt (.finite q) x
  | _ => false

/-- A text is equal to one of some texts. -/
def isOneOf (values : List String) : Json → Bool
  | .str s => s ∈ values
  | _ => false

/-- A keyword about objects. -/
def ofObject (p : List (String × Json) → Bool) : Json → Bool
  | .obj fields => p fields
  | _ => true

/-- A keyword about arrays. -/
def ofArray (p : List Json → Bool) : Json → Bool
  | .arr values => p values
  | _ => true

/-- A keyword about strings. -/
def ofString (p : String → Bool) : Json → Bool
  | .str s => p s
  | _ => true

mutual

/-- The value has no error. -/
def accepts : Schema → Json → Bool
  | type names, v => names.any (·.is v)
  | enum values, v => isOneOf values v
  | const value, v => isOneOf [value] v
  | required names, v => ofObject (fun fields => names.all fun name => (fields.lookup name).isSome) v
  | properties props, v => ofObject (acceptsFields props) v
  | onlyProperties names, v => ofObject (fun fields => fields.all fun field => field.1 ∈ names) v
  | items s, v => ofArray (fun values => values.all fun item => accepts s item) v
  | minItems n, v => ofArray (fun values => n ≤ values.length) v
  | maxItems n, v => ofArray (fun values => values.length ≤ n) v
  | minimum q, v => !lessThan q v
  | maximum q, v => !greaterThan q v
  | maxLength n, v => ofString (fun s => s.length ≤ n) v
  | all parts, v => acceptsAll parts v
  | ifThen condition body, v => !accepts condition v || accepts body v

def acceptsAll : List Schema → Json → Bool
  | [], _ => true
  | s :: parts, v => accepts s v && acceptsAll parts v

def acceptsFields : List (String × Schema) → List (String × Json) → Bool
  | [], _ => true
  | (name, s) :: props, fields =>
      (match fields.lookup name with
        | some v => accepts s v
        | none => true) && acceptsFields props fields

end

/-! ### Keyword by keyword -/

section Equations

variable (names : List JsonType) (values : List String) (props : List (String × Schema))
  (s condition body : Schema) (parts : List Schema) (n : ℕ) (q : ℚ) (v : Json)
  (fields : List (String × Json))

theorem accepts_type : accepts (.type names) v = names.any (·.is v) := rfl

theorem accepts_enum : accepts (.enum values) v = isOneOf values v := rfl

theorem accepts_const (value : String) : accepts (.const value) v = isOneOf [value] v := rfl

theorem accepts_required : accepts (.required values) v =
    ofObject (fun fields => values.all fun name => (fields.lookup name).isSome) v := rfl

theorem accepts_properties : accepts (.properties props) v = ofObject (acceptsFields props) v := rfl

theorem accepts_items : accepts (.items s) v =
    ofArray (fun values => values.all fun item => accepts s item) v := rfl

theorem accepts_minItems :
    accepts (.minItems n) v = ofArray (fun values => n ≤ values.length) v := rfl

theorem accepts_maxItems :
    accepts (.maxItems n) v = ofArray (fun values => values.length ≤ n) v := rfl

theorem accepts_minimum : accepts (.minimum q) v = !lessThan q v := rfl

theorem accepts_maximum : accepts (.maximum q) v = !greaterThan q v := rfl

theorem accepts_maxLength : accepts (.maxLength n) v = ofString (fun s => s.length ≤ n) v := rfl

theorem accepts_all : accepts (.all parts) v = acceptsAll parts v := rfl

theorem accepts_ifThen :
    accepts (.ifThen condition body) v = (!accepts condition v || accepts body v) := rfl

theorem acceptsAll_nil : acceptsAll [] v = true := rfl

theorem acceptsAll_cons : acceptsAll (s :: parts) v = (accepts s v && acceptsAll parts v) := rfl

theorem acceptsFields_nil : acceptsFields [] fields = true := rfl

theorem acceptsFields_cons (name : String) :
    acceptsFields ((name, s) :: props) fields =
      ((match fields.lookup name with
        | some v => accepts s v
        | none => true) && acceptsFields props fields) := rfl

end Equations

/-! ### What accepted values are

From a schema to the shape of the values that it accepts.
-/

theorem accepts_all_iff {parts : List Schema} {v : Json} :
    accepts (.all parts) v ↔ ∀ s ∈ parts, accepts s v := by
  rw [accepts_all]
  induction parts with
  | nil => simp [acceptsAll_nil]
  | cons s parts ih => rw [acceptsAll_cons, Bool.and_eq_true, ih, List.forall_mem_cons]

theorem acceptsFields_iff {props : List (String × Schema)} {fields : List (String × Json)} :
    acceptsFields props fields ↔
      ∀ prop ∈ props, ∀ v, fields.lookup prop.1 = some v → accepts prop.2 v := by
  induction props with
  | nil => simp [acceptsFields_nil]
  | cons prop props ih =>
      obtain ⟨name, s⟩ := prop
      rw [acceptsFields_cons, Bool.and_eq_true, ih, List.forall_mem_cons]
      cases hlookup : fields.lookup name with
      | none => simp
      | some v => simp

theorem isSome_of_accepts {parts : List Schema} {fields : List (String × Json)}
    (h : accepts (.all parts) (.obj fields)) {names : List String} (hrequired : .required names ∈ parts)
    {name : String} (hname : name ∈ names) : (fields.lookup name).isSome := by
  have hthere : accepts (.required names) (.obj fields) := accepts_all_iff.mp h _ hrequired
  rw [accepts_required, ofObject, List.all_eq_true] at hthere
  exact hthere name hname

/-- A required field of an accepted object is there and accepted. -/
theorem field_of_accepts {parts : List Schema} {fields : List (String × Json)}
    (h : accepts (.all parts) (.obj fields)) {names : List String} {props : List (String × Schema)}
    (hrequired : .required names ∈ parts) (hprops : .properties props ∈ parts) {name : String}
    {s : Schema} (hname : name ∈ names) (hprop : (name, s) ∈ props) :
    ∃ v, fields.lookup name = some v ∧ accepts s v := by
  have haccepted : accepts (.properties props) (.obj fields) := accepts_all_iff.mp h _ hprops
  obtain ⟨v, hv⟩ := Option.isSome_iff_exists.mp (isSome_of_accepts h hrequired hname)
  exact ⟨v, hv, acceptsFields_iff.mp haccepted _ hprop v hv⟩

/-- A field that is not required is accepted where it is there. -/
theorem accepts_field {parts : List Schema} {fields : List (String × Json)}
    (h : accepts (.all parts) (.obj fields)) {props : List (String × Schema)}
    (hprops : .properties props ∈ parts) {name : String} {s : Schema} (hprop : (name, s) ∈ props)
    {v : Json} (hv : fields.lookup name = some v) : accepts s v := by
  have haccepted : accepts (.properties props) (.obj fields) := accepts_all_iff.mp h _ hprops
  exact acceptsFields_iff.mp haccepted _ hprop v hv

theorem accepts_minimum_iff {q : ℚ} {v : Json} : accepts (.minimum q) v ↔ lessThan q v = false := by
  simp [accepts_minimum]

theorem accepts_maximum_iff {q : ℚ} {v : Json} : accepts (.maximum q) v ↔ greaterThan q v = false := by
  simp [accepts_maximum]

theorem accepts_minItems_iff {n : ℕ} {values : List Json} :
    accepts (.minItems n) (.arr values) ↔ n ≤ values.length := by
  simp [accepts_minItems, ofArray]

theorem accepts_maxItems_iff {n : ℕ} {values : List Json} :
    accepts (.maxItems n) (.arr values) ↔ values.length ≤ n := by
  simp [accepts_maxItems, ofArray]

theorem accepts_maxLength_iff {n : ℕ} {s : String} :
    accepts (.maxLength n) (.str s) ↔ s.length ≤ n := by
  simp [accepts_maxLength, ofString]

theorem accepts_of_ifThen {condition body : Schema} {v : Json} (h : accepts (.ifThen condition body) v)
    (hcondition : accepts condition v) : accepts body v := by
  rw [accepts_ifThen, hcondition] at h
  exact h

theorem object_of_accepts {v : Json} (h : accepts (.type [.object]) v) : ∃ fields, v = .obj fields := by
  cases v with
  | obj fields => exact ⟨fields, rfl⟩
  | _ => exact absurd h (by simp [accepts_type, JsonType.is])

theorem array_of_accepts {v : Json} (h : accepts (.type [.array]) v) : ∃ values, v = .arr values := by
  cases v with
  | arr values => exact ⟨values, rfl⟩
  | _ => exact absurd h (by simp [accepts_type, JsonType.is])

theorem string_of_accepts {v : Json} (h : accepts (.type [.string]) v) : ∃ s, v = .str s := by
  cases v with
  | str s => exact ⟨s, rfl⟩
  | _ => exact absurd h (by simp [accepts_type, JsonType.is])

theorem number_of_accepts {v : Json} (h : accepts (.type [.number]) v) :
    (∃ n, v = .int n) ∨ ∃ x, v = .float x := by
  cases v with
  | int n => exact Or.inl ⟨n, rfl⟩
  | float x => exact Or.inr ⟨x, rfl⟩
  | _ => exact absurd h (by simp [accepts_type, JsonType.is])

theorem enum_of_accepts {values : List String} {v : Json} (h : accepts (.enum values) v) :
    ∃ s ∈ values, v = .str s := by
  cases v with
  | str s => exact ⟨s, of_decide_eq_true h, rfl⟩
  | _ => exact absurd h (by simp [accepts_enum, isOneOf])

theorem items_of_accepts {s : Schema} {values : List Json} (h : accepts (.items s) (.arr values)) :
    ∀ item ∈ values, accepts s item := by
  rw [accepts_items, ofArray, List.all_eq_true] at h
  exact h

end Schema

end CartoonDemo
