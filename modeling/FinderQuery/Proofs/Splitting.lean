import Mathlib.Data.List.Chain
import Mathlib.Data.List.Infix

namespace FinderQuery.Text

/-- The pieces of a text between the places of a separator, which are looked for from the left;
`skipped` characters of the last one are still to be passed. -/
def splitFrom (separator : List Char) : (skipped : Nat) → List Char → List (List Char)
  | _, [] => [[]]
  | skipped + 1, _ :: rest => splitFrom separator skipped rest
  | 0, char :: rest =>
    if separator <+: char :: rest then [] :: splitFrom separator (separator.length - 1) rest
    else (splitFrom separator 0 rest).modifyHead (char :: ·)

def split (separator text : String) : List String :=
  (splitFrom separator.toList 0 text.toList).map String.ofList

example : split " OR " "a OR b  OR OR c OR " = ["a", "b ", "OR c", ""] := by decide

/-- No word of a text starts with the letter, if words stand at the beginning and behind blanks. -/
def WordsAvoid (letter : Char) (text : List Char) : Prop :=
  (' ' :: text).IsChain fun char next => char = ' ' → next ≠ letter

instance (letter : Char) (text : List Char) : Decidable (WordsAvoid letter text) :=
  inferInstanceAs (Decidable (List.IsChain _ _))

variable {letter : Char}

namespace WordsAvoid

theorem isChain {text : List Char} (avoid : WordsAvoid letter text) :
    text.IsChain fun char next => char = ' ' → next ≠ letter := List.IsChain.tail avoid

theorem of_unspaced {text : List Char} (unspaced : ' ' ∉ text) (other : text.head? ≠ some letter) :
    WordsAvoid letter text := by
  refine List.isChain_cons.mpr ⟨fun next first _ same => other (same ▸ first), ?_⟩
  rw [List.isChain_iff_forall_rel_of_append_cons_cons]
  intro char next front back split blank
  exact absurd (by simp [split, blank]) unspaced

theorem append {front back : List Char} (first : WordsAvoid letter front)
    (second : WordsAvoid letter back) : WordsAvoid letter (front ++ back) := by
  obtain ⟨head, chain⟩ := List.isChain_cons.mp second
  rw [WordsAvoid, ← List.cons_append]
  exact List.IsChain.append first chain fun _ _ next found _ => head next found rfl

theorem intercalate {separator : String} (apart : WordsAvoid letter separator.toList)
    {texts : List String} (each : ∀ text ∈ texts, WordsAvoid letter text.toList) :
    WordsAvoid letter (separator.intercalate texts).toList := by
  induction texts with
  | nil => exact List.isChain_singleton _
  | cons text rest ih =>
    rw [List.forall_mem_cons] at each
    by_cases alone : rest = []
    · rw [alone, String.intercalate_singleton]
      exact each.1
    · rw [String.intercalate_cons_of_ne_nil alone, String.toList_append, String.toList_append]
      exact (each.1.append apart).append (ih each.2)

end WordsAvoid

theorem splitFrom_length (separator passed rest : List Char) :
    splitFrom separator passed.length (passed ++ rest) = splitFrom separator 0 rest := by
  induction passed with
  | nil => rfl
  | cons char passed ih => exact ih

variable {word : List Char}

theorem not_prefix_of_isChain {char : Char} {text rest : List Char}
    (chain : (char :: text).IsChain fun char next => char = ' ' → next ≠ letter)
    (apart : rest.head? ≠ some letter) :
    ¬ ' ' :: letter :: word <+: char :: (text ++ rest) := by
  intro found
  obtain ⟨blank, later⟩ := List.cons_prefix_cons.mp found
  cases text with
  | nil =>
    obtain ⟨back, same⟩ := later
    rw [List.nil_append] at same
    exact apart (by rw [← same]; rfl)
  | cons next text =>
    obtain ⟨same, -⟩ := List.cons_prefix_cons.mp later
    exact (List.isChain_cons_cons.mp chain).1 blank.symm same.symm

theorem splitFrom_of_isChain {text : List Char}
    (chain : text.IsChain fun char next => char = ' ' → next ≠ letter) :
    splitFrom (' ' :: letter :: word) 0 text = [text] := by
  induction text with
  | nil => rfl
  | cons char text ih =>
    have none : ¬ ' ' :: letter :: word <+: char :: (text ++ []) :=
      not_prefix_of_isChain chain (by simp)
    rw [List.append_nil] at none
    rw [splitFrom, if_neg none, ih chain.tail]
    rfl

theorem splitFrom_append {text : List Char}
    (chain : text.IsChain fun char next => char = ' ' → next ≠ letter) (solid : letter ≠ ' ')
    (rest : List Char) :
    splitFrom (' ' :: letter :: word) 0 (text ++ ((' ' :: letter :: word) ++ rest)) =
      text :: splitFrom (' ' :: letter :: word) 0 rest := by
  -- No separator starts within the text, so the first one found is the one behind it.
  induction text with
  | nil =>
    have here : ' ' :: letter :: word <+: ' ' :: (letter :: word ++ rest) :=
      List.prefix_append (' ' :: letter :: word) rest
    have passed := splitFrom_length (' ' :: letter :: word) (letter :: word) rest
    rw [List.nil_append, List.cons_append, splitFrom, if_pos here]
    exact congrArg ([] :: ·) passed
  | cons char text ih =>
    have none : ¬ ' ' :: letter :: word <+: char :: (text ++ ((' ' :: letter :: word) ++ rest)) :=
      not_prefix_of_isChain chain (by simpa using solid.symm)
    rw [List.cons_append, splitFrom, if_neg none, ih chain.tail]
    rfl

/-- Texts come apart where they were joined, if no word in them starts like the separator's. -/
theorem split_intercalate {separator : String} (shape : separator.toList = ' ' :: letter :: word)
    (solid : letter ≠ ' ') {texts : List String} (some : texts ≠ [])
    (each : ∀ text ∈ texts, WordsAvoid letter text.toList) :
    split separator (separator.intercalate texts) = texts := by
  induction texts with
  | nil => exact absurd rfl some
  | cons text rest ih =>
    rw [List.forall_mem_cons] at each
    by_cases alone : rest = []
    · rw [alone, String.intercalate_singleton, split, shape, splitFrom_of_isChain each.1.isChain]
      simp
    · have others := ih alone each.2
      rw [split, shape] at others
      rw [String.intercalate_cons_of_ne_nil alone, split, String.toList_append,
        String.toList_append, List.append_assoc, shape, splitFrom_append each.1.isChain solid,
        List.map_cons, others, String.ofList_toList]

/-- The truth of a filter whose conditions have the given truths; AND binds tighter than OR. -/
def filterHolds (truth : String → Bool) (filter : String) : Bool :=
  (split " OR " filter).any fun alternative => (split " AND " alternative).all truth

end FinderQuery.Text
