namespace FinderQuery.Text

def isLikeSpecial (c : Char) : Bool := c = '%' || c = '_' || c = '\\'

def escapeLikeChar (c : Char) : List Char := if isLikeSpecial c then ['\\', c] else [c]

def escapeLike (text : String) : String := String.ofList (text.toList.flatMap escapeLikeChar)

@[simp] theorem toList_escapeLike (text : String) :
    (escapeLike text).toList = text.toList.flatMap escapeLikeChar := by
  simp [escapeLike]

theorem isLikeSpecial_iff {c : Char} : isLikeSpecial c ↔ c = '%' ∨ c = '_' ∨ c = '\\' := by
  simp [isLikeSpecial, or_assoc]

theorem escapeLikeChar_of_special {c : Char} (special : isLikeSpecial c) :
    escapeLikeChar c = ['\\', c] := by
  rw [escapeLikeChar, if_pos special]

theorem escapeLikeChar_of_plain {c : Char} (plain : ¬ isLikeSpecial c) :
    escapeLikeChar c = [c] := by
  rw [escapeLikeChar, if_neg plain]

theorem escapeLike_append (front back : String) :
    escapeLike (front ++ back) = escapeLike front ++ escapeLike back := by
  rw [← String.toList_inj]
  simp

end FinderQuery.Text
