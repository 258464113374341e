namespace FinderQuery.Decoding

variable {Source Target : Type}

def required (read : Source → Option Target) (field : Option Source) : Option Target :=
  field.bind read

def withDefault (default : Target) (read : Source → Option Target) :
    Option Source → Option Target
  | none => some default
  | some value => read value

end FinderQuery.Decoding
