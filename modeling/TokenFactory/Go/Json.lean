import Mathlib

namespace TokenFactory.Go

/-! JSON as Go decodes it into an interface value. -/

/-- A decoded JSON value. -/
inductive Json where
  | null
  | bool (value : Bool)
  | number (value : Rat)
  | string (text : String)
  | array (items : List Json)
  | object (fields : List (String × Json))
deriving Inhabited

mutual

def Json.decEq : (first second : Json) → Decidable (first = second)
  | .null, .null => .isTrue rfl
  | .bool first, .bool second => decidable_of_iff (first = second) (by simp)
  | .number first, .number second => decidable_of_iff (first = second) (by simp)
  | .string first, .string second => decidable_of_iff (first = second) (by simp)
  | .array first, .array second =>
    have := Json.decEqItems first second
    decidable_of_iff (first = second) (by simp)
  | .object first, .object second =>
    have := Json.decEqFields first second
    decidable_of_iff (first = second) (by simp)
  | .null, .bool _ | .null, .number _ | .null, .string _ | .null, .array _ | .null, .object _
  | .bool _, .null | .bool _, .number _ | .bool _, .string _ | .bool _, .array _ | .bool _, .object _
  | .number _, .null | .number _, .bool _ | .number _, .string _ | .number _, .array _ | .number _, .object _
  | .string _, .null | .string _, .bool _ | .string _, .number _ | .string _, .array _ | .string _, .object _
  | .array _, .null | .array _, .bool _ | .array _, .number _ | .array _, .string _ | .array _, .object _
  | .object _, .null | .object _, .bool _ | .object _, .number _ | .object _, .string _ | .object _, .array _ =>
    .isFalse nofun

def Json.decEqItems : (first second : List Json) → Decidable (first = second)
  | [], [] => .isTrue rfl
  | [], _ :: _ | _ :: _, [] => .isFalse nofun
  | one :: first, two :: second =>
    have := Json.decEq one two
    have := Json.decEqItems first second
    decidable_of_iff (one = two ∧ first = second) (by simp)

def Json.decEqFields : (first second : List (String × Json)) → Decidable (first = second)
  | [], [] => .isTrue rfl
  | [], _ :: _ | _ :: _, [] => .isFalse nofun
  | (key, one) :: first, (other, two) :: second =>
    have := Json.decEq one two
    have := Json.decEqFields first second
    decidable_of_iff (key = other ∧ one = two ∧ first = second) (by simp [and_assoc])

end

instance : DecidableEq Json := Json.decEq

/-- A decoded JSON object, in the order in which its keys are visited. -/
abbrev Fields := List (String × Json)

def Fields.get? (fields : Fields) (key : String) : Option Json := List.lookup key fields

/-- The assignment of a key of a map. -/
def Fields.set (fields : Fields) (key : String) (value : Json) : Fields :=
  if (fields.get? key).isSome then
    fields.map fun field => if field.1 = key then (key, value) else field
  else fields ++ [(key, value)]

theorem Fields.lookup_replace (fields : Fields) (key other : String) (value : Json) :
    List.lookup other (fields.map fun field => if field.1 = key then (key, value) else field) =
      if other = key then (List.lookup key fields).map fun _ => value else List.lookup other fields := by
  induction fields with
  | nil => simp
  | cons field rest ih =>
    rw [List.map_cons, List.lookup_cons, ih, List.lookup_cons, List.lookup_cons]
    by_cases same : field.1 = key
    · by_cases wanted : other = key
      · simp [same, wanted]
      · simp [same, wanted, beq_false_of_ne wanted]
    · by_cases wanted : other = key
      · simp [same, wanted, beq_false_of_ne (Ne.symm same)]
      · simp [same, wanted]

theorem Fields.get?_set (fields : Fields) (key other : String) (value : Json) :
    (fields.set key value).get? other = if other = key then some value else fields.get? other := by
  unfold Fields.set Fields.get?
  split
  · rename_i present
    obtain ⟨old, found⟩ := Option.isSome_iff_exists.mp present
    rw [Fields.lookup_replace, found]
    rfl
  · rename_i absent
    rw [List.lookup_append]
    by_cases wanted : other = key
    · subst wanted
      simp [Option.not_isSome_iff_eq_none.mp absent]
    · simp [wanted, List.lookup_cons, beq_false_of_ne wanted]

def Json.text? : Json → Option String
  | .string text => some text
  | _ => none

def Json.bool? : Json → Option Bool
  | .bool value => some value
  | _ => none

def Json.object? : Json → Option Fields
  | .object fields => some fields
  | _ => none

def Fields.text (fields : Fields) (key : String) : String :=
  ((fields.get? key).bind Json.text?).getD ""

def Fields.flag (fields : Fields) (key : String) : Bool :=
  ((fields.get? key).bind Json.bool?).getD false

def Json.field? (value : Json) (key : String) : Option Json :=
  match value with
  | .object fields => Fields.get? fields key
  | _ => none

/-- How much text a value holds; decoding an array or an object gives less than
the text it was decoded from. -/
def Json.weight : Json → Nat
  | .string text => text.length + 1
  | .array items => 1 + (items.attach.map fun item => item.1.weight).sum
  | .object fields => 1 + (fields.attach.map fun field => field.1.2.weight).sum
  | _ => 1
decreasing_by
  · have := List.sizeOf_lt_of_mem item.2
    simp only [array.sizeOf_spec]
    omega
  · have := List.sizeOf_lt_of_mem field.2
    have : sizeOf field.1 = 1 + sizeOf field.1.1 + sizeOf field.1.2 := rfl
    simp only [object.sizeOf_spec]
    omega

theorem Json.weight_lt_of_field? {value inner : Json} {key : String}
    (found : value.field? key = some inner) : inner.weight < value.weight := by
  cases value with
  | object fields =>
    obtain ⟨before, after, split, _⟩ := List.lookup_eq_some_iff.mp found
    rw [Json.weight, List.attach_map_val (f := fun field : String × Json => field.2.weight), split]
    simp only [List.map_append, List.map_cons, List.sum_append, List.sum_cons]
    omega
  | _ => cases found

end TokenFactory.Go
