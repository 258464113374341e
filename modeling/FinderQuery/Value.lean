import FinderQuery.Number.Binary64
import FinderQuery.Text.Lowercase

namespace FinderQuery

inductive Value where
  | null
  | bool (value : Bool)
  | int (value : Int64)
  | float (value : Binary64)
  | string (text : String)
  | array (items : List Value)

namespace Value

@[elab_as_elim]
theorem induction {motive : Value → Prop} (null : motive .null)
    (bool : ∀ value, motive (.bool value)) (int : ∀ value, motive (.int value))
    (float : ∀ value, motive (.float value)) (string : ∀ text, motive (.string text))
    (array : ∀ items, (∀ item ∈ items, motive item) → motive (.array items)) :
    ∀ value, motive value
  | .null => null
  | .bool value => bool value
  | .int value => int value
  | .float value => float value
  | .string text => string text
  | .array items => array items fun item _ =>
    induction null bool int float string array item
termination_by value => sizeOf value
decreasing_by
  have smaller := List.sizeOf_lt_of_mem ‹item ∈ items›
  simp only [Value.array.sizeOf_spec]
  omega

def asString? : Value → Option String
  | string text => some text
  | _ => none

mutual

def lowercase : Value → Value
  | string text => string (Text.lowercase text)
  | array items => array (lowercaseAll items)
  | value => value

def lowercaseAll : List Value → List Value
  | [] => []
  | item :: items => lowercase item :: lowercaseAll items

end

@[simp] theorem lowercaseAll_eq_map (items : List Value) :
    lowercaseAll items = items.map lowercase := by
  induction items with
  | nil => rfl
  | cons item items ih => simp [lowercaseAll, ih]

end Value

end FinderQuery
