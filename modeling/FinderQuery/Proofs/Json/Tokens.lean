import FinderQuery.Json.Printer
import FinderQuery.Json.Reader
import FinderQuery.Proofs.Json.Numerals

namespace FinderQuery.Json

theorem hexValue?_hexDigit : ∀ d < 16, FinderQuery.Text.hexValue? (hexDigit d) = some d := by
  decide

theorem hexNumber?_hexDigit {n : Nat} (small : n < 0x20) :
    FinderQuery.Text.hexNumber? ['0', '0', hexDigit (n / 16), hexDigit (n % 16)] = some n := by
  have high := hexValue?_hexDigit (n / 16) (by omega)
  have low := hexValue?_hexDigit (n % 16) (by omega)
  have zero : FinderQuery.Text.hexValue? '0' = some 0 := by decide
  have back : n / 16 * 16 + n % 16 = n := by omega
  simp [FinderQuery.Text.hexNumber?, FinderQuery.Text.hexNumberAfter?, zero, high, low, back]

theorem escapeChar_cases (c : Char) :
    (∃ letter, escapeChar c = ['\\', letter] ∧ unescape? letter = some c) ∨
    (c.toNat < 0x20 ∧ escapeChar c =
      ['\\', 'u', '0', '0', hexDigit (c.toNat / 16), hexDigit (c.toNat % 16)]) ∨
    (0x20 ≤ c.toNat ∧ c ≠ '"' ∧ c ≠ '\\' ∧ escapeChar c = [c]) := by
  rw [escapeChar]
  by_cases letter : ∃ l ∈ ['"', '\\', '\x08', '\x0c', '\n', '\r', '\t'], c = l
  · obtain ⟨l, member, rfl⟩ := letter
    simp only [List.mem_cons, List.not_mem_nil, or_false] at member
    rcases member with rfl | rfl | rfl | rfl | rfl | rfl | rfl <;> exact Or.inl ⟨_, rfl, rfl⟩
  · simp only [List.mem_cons, List.not_mem_nil, or_false, exists_eq_right', not_or] at letter
    obtain ⟨quote, backslash, backspace, formFeed, newline, carriageReturn, tab⟩ := letter
    rw [if_neg quote, if_neg backslash, if_neg backspace, if_neg formFeed, if_neg newline,
      if_neg carriageReturn, if_neg tab]
    by_cases control : c.toNat < 0x20
    · exact Or.inr (Or.inl ⟨control, if_pos control⟩)
    · exact Or.inr (Or.inr ⟨Nat.not_lt.mp control, quote, backslash, if_neg control⟩)

theorem readCodes?_escapeChar (c : Char) (rest : List Char) :
    readCodes? (escapeChar c ++ rest) =
      (readCodes? rest).map fun (codes, rest) => (c.toNat :: codes, rest) := by
  rcases escapeChar_cases c with ⟨letter, text, escape⟩ | ⟨control, text⟩ |
    ⟨printed, quote, backslash, text⟩
  · rw [text, List.cons_append, List.singleton_append, readCodes?]
    · rw [escape]
      cases readCodes? rest <;> rfl
    · rintro a b c d others rfl
      cases escape
  · rw [text]
    simp only [List.cons_append, List.nil_append]
    rw [readCodes?, hexNumber?_hexDigit control]
    cases readCodes? rest <;> rfl
  · have plain : ¬ (c.toNat < 0x20 ∨ c = '\\') := by
      rintro (control | same)
      · omega
      · exact backslash same
    rw [text, List.singleton_append, readCodes?, if_neg plain]
    · cases readCodes? rest <;> rfl
    · exact quote
    · exact fun _ _ _ _ _ same => absurd same backslash
    · exact fun _ _ same => absurd same backslash

theorem readCodes?_escaped (text rest : List Char) :
    readCodes? (text.flatMap escapeChar ++ '"' :: rest) = some (text.map Char.toNat, rest) := by
  induction text with
  | nil => rfl
  | cons c text ih =>
    rw [List.flatMap_cons, List.append_assoc, readCodes?_escapeChar, ih]
    rfl

theorem isHighSurrogate_toNat (c : Char) : isHighSurrogate c.toNat = false := by
  have valid := c.valid
  simp only [isHighSurrogate, Bool.and_eq_false_iff, decide_eq_false_iff_not]
  rcases valid with low | ⟨high, -⟩
  · exact Or.inl (Nat.not_le.mpr low)
  · exact Or.inr (Nat.not_lt.mpr (Nat.le_of_lt (Nat.lt_trans (by decide) high)))

theorem isLowSurrogate_toNat (c : Char) : isLowSurrogate c.toNat = false := by
  have valid := c.valid
  simp only [isLowSurrogate, Bool.and_eq_false_iff, decide_eq_false_iff_not]
  rcases valid with low | ⟨high, -⟩
  · exact Or.inl (Nat.not_le.mpr (Nat.lt_trans low (by decide)))
  · exact Or.inr (Nat.not_lt.mpr high)

theorem joinSurrogates?_map_toNat (text : List Char) :
    joinSurrogates? (text.map Char.toNat) = some text := by
  induction text with
  | nil => rfl
  | cons c text ih =>
    cases text with
    | nil =>
      simp [joinSurrogates?, isHighSurrogate_toNat, isLowSurrogate_toNat]
    | cons next text =>
      rw [List.map_cons, List.map_cons, joinSurrogates?, ← List.map_cons, ih]
      simp [isHighSurrogate_toNat, isLowSurrogate_toNat]

theorem textOfCodes_map_toNat (text : String) :
    textOfCodes (text.toList.map Char.toNat) = some text := by
  rw [textOfCodes, joinSurrogates?_map_toNat]
  exact congrArg some (String.ofList_toList)

namespace Token

def WellFormed : Token → Prop
  | number n => n.WellFormed
  | string text => text ≠ none
  | _ => True

variable {token : Token} {rest : List Char}

theorem exists_toList_eq_cons (wellFormed : token.WellFormed) :
    ∃ first others, token.toList = first :: others ∧ isBlank first = false := by
  cases token with
  | bool value => cases value <;> exact ⟨_, _, rfl, rfl⟩
  | number n =>
    obtain ⟨first, others, text, kind⟩ := Numeral.WellFormed.exists_toList_eq_cons wellFormed
    refine ⟨first, others, text, ?_⟩
    rcases kind with rfl | digit
    · rfl
    · simp only [isBlank, Bool.or_eq_false_iff, decide_eq_false_iff_not]
      refine ⟨⟨⟨?_, ?_⟩, ?_⟩, ?_⟩ <;> rintro rfl <;> exact absurd digit (by decide)
  | string text =>
    cases text with
    | none => exact absurd rfl wellFormed
    | some text => exact ⟨_, _, rfl, rfl⟩
  | _ => exact ⟨_, _, rfl, rfl⟩

theorem toList_string (text : String) : (string (some text)).toList = quote text.toList := rfl

theorem read?_quote (text rest : List Char) :
    read? (quote text ++ rest) = some (string (textOfCodes (text.map Char.toNat)), rest) := by
  rw [quote, List.cons_append, List.cons_append, List.append_assoc, List.singleton_append, read?,
    readCodes?_escaped]
  rfl

theorem read?_number {n : Numeral} (wellFormed : n.WellFormed) (ends : Numeral.EndsBefore rest) :
    read? (n.toList ++ rest) = some (.number n, rest) := by
  have read := wellFormed.read?_append ends
  obtain ⟨first, others, text, kind⟩ := wellFormed.exists_toList_eq_cons
  rw [text, List.cons_append] at read ⊢
  rw [Token.read?]
  · rw [read]
    rfl
  all_goals
    intro _ same
    obtain ⟨rfl, -⟩ := List.cons.inj same
    rcases kind with same | digit
    · exact absurd same (by decide)
    · exact absurd digit (by decide)

theorem read?_append (wellFormed : token.WellFormed)
    (ends : ∀ n, token = .number n → Numeral.EndsBefore rest) :
    read? (token.toList ++ rest) = some (token, rest) := by
  cases token with
  | leftBracket => rw [show leftBracket.toList ++ rest = '[' :: rest from rfl, read?]
  | rightBracket => rw [show rightBracket.toList ++ rest = ']' :: rest from rfl, read?]
  | leftBrace => rw [show leftBrace.toList ++ rest = '{' :: rest from rfl, read?]
  | rightBrace => rw [show rightBrace.toList ++ rest = '}' :: rest from rfl, read?]
  | colon => rw [show colon.toList ++ rest = ':' :: rest from rfl, read?]
  | comma => rw [show comma.toList ++ rest = ',' :: rest from rfl, read?]
  | null =>
    rw [show null.toList ++ rest = 'n' :: 'u' :: 'l' :: 'l' :: rest from rfl, read?]
  | bool value =>
    cases value with
    | true =>
      rw [show (bool true).toList ++ rest = 't' :: 'r' :: 'u' :: 'e' :: rest from rfl, read?]
    | false =>
      rw [show (bool false).toList ++ rest = 'f' :: 'a' :: 'l' :: 's' :: 'e' :: rest from rfl,
        read?]
  | number n => exact read?_number wellFormed (ends n rfl)
  | string text =>
    cases text with
    | none => exact absurd rfl wellFormed
    | some text =>
      rw [toList_string, read?_quote, textOfCodes_map_toNat]

end Token

theorem lex?_eq (cs : List Char) :
    lex? cs =
      if (dropBlanks cs).isEmpty then some []
      else (Token.read? (dropBlanks cs)).bind fun (token, rest) =>
        (lex? rest).map (token :: ·) := by
  rw [lex?]
  split
  · rfl
  · split
    next none => rw [none, Option.bind_none]
    next token rest read =>
      show (token :: ·) <$> lex? rest = _
      rw [read]
      rfl

theorem lex?_blank {c : Char} (blank : isBlank c) (rest : List Char) :
    lex? (c :: rest) = lex? rest := by
  have dropped : dropBlanks (c :: rest) = dropBlanks rest := List.dropWhile_cons_of_pos blank
  rw [lex?_eq, lex?_eq rest, dropped]

theorem lex?_append_token {token : Token} {rest : List Char} (wellFormed : token.WellFormed)
    (ends : ∀ n, token = .number n → Numeral.EndsBefore rest) :
    lex? (token.toList ++ rest) = (lex? rest).map (token :: ·) := by
  have read := Token.read?_append wellFormed ends
  obtain ⟨first, others, text, visible⟩ := Token.exists_toList_eq_cons wellFormed
  rw [text, List.cons_append] at read ⊢
  have kept : dropBlanks (first :: (others ++ rest)) = first :: (others ++ rest) :=
    List.dropWhile_cons_of_neg (by simp [visible])
  rw [lex?_eq, kept, read]
  rfl

end FinderQuery.Json
