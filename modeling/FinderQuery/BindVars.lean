import FinderQuery.Value

namespace FinderQuery

def keyText (key : Nat) : String := toString key

structure BindVars where
  entries : List (String × Value)

namespace BindVars

def empty : BindVars := ⟨[]⟩

def size (vars : BindVars) : Nat := vars.entries.length

def isEmpty (vars : BindVars) : Bool := vars.entries.isEmpty

def push (vars : BindVars) (value : Value) : BindVars :=
  ⟨vars.entries ++ [(keyText vars.size, value)]⟩

def pushAll (vars : BindVars) (values : List Value) : BindVars := values.foldl push vars

def ofValues (values : List Value) : BindVars :=
  ⟨values.zipIdx.map fun (value, key) => (keyText key, value)⟩

def get? (vars : BindVars) (name : String) : Option Value := vars.entries.lookup name

def keys (vars : BindVars) : List String := vars.entries.map (·.1)

def values (vars : BindVars) : List Value := vars.entries.map (·.2)

@[simp] theorem size_push (vars : BindVars) (value : Value) :
    (vars.push value).size = vars.size + 1 := by
  simp [push, size]

@[simp] theorem values_push (vars : BindVars) (value : Value) :
    (vars.push value).values = vars.values ++ [value] := by
  simp [push, values]

@[simp] theorem size_pushAll (vars : BindVars) (values : List Value) :
    (vars.pushAll values).size = vars.size + values.length := by
  induction values generalizing vars with
  | nil => rfl
  | cons value values ih =>
    have := ih (vars.push value)
    simp only [pushAll, List.foldl_cons, size_push, List.length_cons] at this ⊢
    omega

@[simp] theorem values_pushAll (vars : BindVars) (values : List Value) :
    (vars.pushAll values).values = vars.values ++ values := by
  induction values generalizing vars with
  | nil => simp [pushAll]
  | cons value values ih =>
    have := ih (vars.push value)
    simp_all [pushAll]

theorem pushAll_append (vars : BindVars) (front back : List Value) :
    vars.pushAll (front ++ back) = (vars.pushAll front).pushAll back :=
  List.foldl_append

@[simp] theorem ofValues_nil : ofValues [] = empty := rfl

@[simp] theorem size_ofValues (values : List Value) : (ofValues values).size = values.length := by
  simp [ofValues, size]

theorem push_ofValues (values : List Value) (value : Value) :
    (ofValues values).push value = ofValues (values ++ [value]) := by
  simp [push, ofValues, size, List.zipIdx_append]

theorem pushAll_ofValues (values more : List Value) :
    (ofValues values).pushAll more = ofValues (values ++ more) := by
  induction more generalizing values with
  | nil => simp [pushAll]
  | cons value more ih =>
    have next := ih (values ++ [value])
    rw [← push_ofValues, List.append_assoc, List.singleton_append] at next
    exact next

@[simp] theorem values_ofValues (values : List Value) : (ofValues values).values = values := by
  have run := values_pushAll empty values
  rw [← ofValues_nil, pushAll_ofValues] at run
  exact run

end BindVars

end FinderQuery
