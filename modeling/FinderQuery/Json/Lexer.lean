import FinderQuery.Json.Syntax
import FinderQuery.Text.Hex

namespace FinderQuery

namespace Numeral

def readWhole? : List Char → Option (List Char × List Char)
  | [] => none
  | c :: rest =>
    if c = '0' then some (['0'], rest)
    else if c.isDigit then some (c :: rest.takeWhile Char.isDigit, rest.dropWhile Char.isDigit)
    else none

def readDigits? (cs : List Char) : Option (List Char × List Char) :=
  let digits := cs.takeWhile Char.isDigit
  if digits.isEmpty then none else some (digits, cs.dropWhile Char.isDigit)

def readFraction? : List Char → Option (List Char × List Char)
  | '.' :: rest => readDigits? rest
  | cs => some ([], cs)

def readExponentDigits? (negative : Bool) (cs : List Char) :
    Option (Option Exponent × List Char) := do
  let (digits, rest) ← readDigits? cs
  some (some ⟨negative, digits⟩, rest)

def readExponent? : List Char → Option (Option Exponent × List Char)
  | c :: rest =>
    if c = 'e' ∨ c = 'E' then
      match rest with
      | '-' :: rest => readExponentDigits? true rest
      | '+' :: rest => readExponentDigits? false rest
      | rest => readExponentDigits? false rest
    else some (none, c :: rest)
  | [] => some (none, [])

def readUnsigned? (negative : Bool) (cs : List Char) : Option (Numeral × List Char) := do
  let (whole, cs) ← readWhole? cs
  let (fraction, cs) ← readFraction? cs
  let (exponent, cs) ← readExponent? cs
  some (⟨negative, whole, fraction, exponent⟩, cs)

def read? : List Char → Option (Numeral × List Char)
  | '-' :: rest => readUnsigned? true rest
  | cs => readUnsigned? false cs

theorem readWhole?_shorter {cs digits rest : List Char}
    (h : readWhole? cs = some (digits, rest)) : rest.length < cs.length := by
  cases cs with
  | nil => simp [readWhole?] at h
  | cons c cs =>
    have tail : (cs.dropWhile Char.isDigit).length ≤ cs.length :=
      (List.dropWhile_sublist Char.isDigit).length_le
    simp only [readWhole?] at h
    split at h
    · cases h
      exact Nat.lt_succ_self _
    · split at h
      · cases h
        exact Nat.lt_succ_of_le tail
      · cases h

theorem readDigits?_shorter {cs digits rest : List Char}
    (h : readDigits? cs = some (digits, rest)) : rest.length ≤ cs.length := by
  simp only [readDigits?] at h
  split at h
  · cases h
  · cases h
    exact (List.dropWhile_sublist Char.isDigit).length_le

theorem readFraction?_shorter {cs digits rest : List Char}
    (h : readFraction? cs = some (digits, rest)) : rest.length ≤ cs.length := by
  unfold readFraction? at h
  split at h
  · exact Nat.le_succ_of_le (readDigits?_shorter h)
  · cases h
    exact Nat.le_refl _

theorem readExponentDigits?_shorter {negative : Bool} {cs rest : List Char}
    {exponent : Option Exponent}
    (h : readExponentDigits? negative cs = some (exponent, rest)) : rest.length ≤ cs.length := by
  simp only [readExponentDigits?, Option.bind_eq_bind, Option.bind_eq_some_iff] at h
  obtain ⟨⟨digits, rest'⟩, hread, heq⟩ := h
  cases heq
  exact readDigits?_shorter hread

theorem readExponent?_shorter {cs rest : List Char} {exponent : Option Exponent}
    (h : readExponent? cs = some (exponent, rest)) : rest.length ≤ cs.length := by
  unfold readExponent? at h
  split at h
  · split at h
    · split at h <;> have shorter := readExponentDigits?_shorter h <;>
        simp only [List.length_cons] at shorter ⊢ <;> omega
    · cases h
      exact Nat.le_refl _
  · cases h
    exact Nat.le_refl _

theorem readUnsigned?_shorter {negative : Bool} {cs rest : List Char} {n : Numeral}
    (h : readUnsigned? negative cs = some (n, rest)) : rest.length < cs.length := by
  simp only [readUnsigned?, Option.bind_eq_bind, Option.bind_eq_some_iff] at h
  obtain ⟨⟨whole, cs₁⟩, hwhole, ⟨fraction, cs₂⟩, hfraction, ⟨exponent, cs₃⟩, hexponent, heq⟩ := h
  cases heq
  have hwhole : cs₁.length < cs.length := readWhole?_shorter hwhole
  have hfraction : cs₂.length ≤ cs₁.length := readFraction?_shorter hfraction
  have hexponent : cs₃.length ≤ cs₂.length := readExponent?_shorter hexponent
  show cs₃.length < cs.length
  omega

theorem read?_shorter {cs rest : List Char} {n : Numeral} (h : read? cs = some (n, rest)) :
    rest.length < cs.length := by
  unfold read? at h
  split at h
  · exact Nat.lt_succ_of_lt (readUnsigned?_shorter h)
  · exact readUnsigned?_shorter h

end Numeral

namespace Json

def isBlank (c : Char) : Bool := c = ' ' || c = '\t' || c = '\n' || c = '\r'

def unescape? : Char → Option Char
  | '"' => some '"'
  | '\\' => some '\\'
  | '/' => some '/'
  | 'b' => some '\x08'
  | 'f' => some '\x0c'
  | 'n' => some '\n'
  | 'r' => some '\r'
  | 't' => some '\t'
  | _ => none

/-- The code points up to the closing quote, those of escapes unchecked, and the rest. -/
def readCodes? : List Char → Option (List Nat × List Char)
  | [] => none
  | '"' :: rest => some ([], rest)
  | '\\' :: 'u' :: a :: b :: c :: d :: rest => do
    let code ← FinderQuery.Text.hexNumber? [a, b, c, d]
    let (codes, rest) ← readCodes? rest
    some (code :: codes, rest)
  | '\\' :: e :: rest => do
    let c ← unescape? e
    let (codes, rest) ← readCodes? rest
    some (c.toNat :: codes, rest)
  | c :: rest =>
    if c.toNat < 0x20 ∨ c = '\\' then none
    else do
      let (codes, rest) ← readCodes? rest
      some (c.toNat :: codes, rest)

def isHighSurrogate (code : Nat) : Bool := 0xD800 ≤ code && code < 0xDC00

def isLowSurrogate (code : Nat) : Bool := 0xDC00 ≤ code && code < 0xE000

/-- Joins each pair of surrogates; none if one of them stands alone. -/
def joinSurrogates? : List Nat → Option (List Char)
  | [] => some []
  | high :: low :: codes =>
    if isHighSurrogate high then
      if isLowSurrogate low then
        (Char.ofNat (0x10000 + (high - 0xD800) * 0x400 + (low - 0xDC00)) :: ·)
          <$> joinSurrogates? codes
      else none
    else if isLowSurrogate high then none
    else (Char.ofNat high :: ·) <$> joinSurrogates? (low :: codes)
  | [code] =>
    if isHighSurrogate code || isLowSurrogate code then none else some [Char.ofNat code]

def textOfCodes (codes : List Nat) : Text := String.ofList <$> joinSurrogates? codes

theorem readCodes?_shorter {cs rest : List Char} {codes : List Nat}
    (h : readCodes? cs = some (codes, rest)) : rest.length ≤ cs.length := by
  fun_induction readCodes? cs generalizing codes rest with
  | case1 => simp at h
  | case2 =>
    cases h
    exact Nat.le_succ _
  | case3 a b c d tail ih =>
    simp only [Option.bind_eq_bind, Option.bind_eq_some_iff] at h
    obtain ⟨_, _, ⟨codes', rest'⟩, hread, heq⟩ := h
    cases heq
    have shorter := ih hread
    simp only [List.length_cons]
    omega
  | case4 e tail _ ih =>
    simp only [Option.bind_eq_bind, Option.bind_eq_some_iff] at h
    obtain ⟨_, _, ⟨codes', rest'⟩, hread, heq⟩ := h
    cases heq
    have shorter := ih hread
    simp only [List.length_cons]
    omega
  | case5 => simp at h
  | case6 c tail _ _ _ _ ih =>
    simp only [Option.bind_eq_bind, Option.bind_eq_some_iff] at h
    obtain ⟨⟨codes', rest'⟩, hread, heq⟩ := h
    cases heq
    have shorter := ih hread
    simp only [List.length_cons]
    omega

namespace Token

def read? : List Char → Option (Token × List Char)
  | '[' :: rest => some (leftBracket, rest)
  | ']' :: rest => some (rightBracket, rest)
  | '{' :: rest => some (leftBrace, rest)
  | '}' :: rest => some (rightBrace, rest)
  | ':' :: rest => some (colon, rest)
  | ',' :: rest => some (comma, rest)
  | 'n' :: 'u' :: 'l' :: 'l' :: rest => some (null, rest)
  | 't' :: 'r' :: 'u' :: 'e' :: rest => some (bool true, rest)
  | 'f' :: 'a' :: 'l' :: 's' :: 'e' :: rest => some (bool false, rest)
  | '"' :: rest => do
    let (codes, rest) ← readCodes? rest
    some (string (textOfCodes codes), rest)
  | cs => do
    let (numeral, rest) ← Numeral.read? cs
    some (number numeral, rest)

theorem read?_shorter {cs rest : List Char} {token : Token}
    (h : read? cs = some (token, rest)) : rest.length < cs.length := by
  unfold read? at h
  split at h
  case h_10 =>
    simp only [Option.bind_eq_bind, Option.bind_eq_some_iff] at h
    obtain ⟨⟨codes, rest'⟩, hread, heq⟩ := h
    cases heq
    exact Nat.lt_succ_of_le (readCodes?_shorter hread)
  case h_11 =>
    simp only [Option.bind_eq_bind, Option.bind_eq_some_iff] at h
    obtain ⟨⟨numeral, rest'⟩, hread, heq⟩ := h
    cases heq
    exact Numeral.read?_shorter hread
  all_goals
    cases h
    simp only [List.length_cons]
    omega

end Token

def dropBlanks (cs : List Char) : List Char := cs.dropWhile isBlank

theorem length_dropBlanks_le (cs : List Char) : (dropBlanks cs).length ≤ cs.length :=
  (List.dropWhile_sublist isBlank).length_le

def lex? (cs : List Char) : Option (List Token) :=
  if (dropBlanks cs).isEmpty then some []
  else match h : Token.read? (dropBlanks cs) with
    | none => none
    | some (token, rest) =>
      have := Token.read?_shorter h
      (token :: ·) <$> lex? rest
termination_by cs.length
decreasing_by
  have := length_dropBlanks_le cs
  omega

end Json

end FinderQuery
