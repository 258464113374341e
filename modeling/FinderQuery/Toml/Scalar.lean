import FinderQuery.Number.Numeral
import FinderQuery.Text.Hex
import FinderQuery.Toml.Value

namespace FinderQuery.Toml

def isBlank (c : Char) : Bool := c = ' ' || c = '\t'

def isPrintable (c : Char) : Bool := c = '\t' || (' ' ≤ c && c ≠ '\x7f')

def isBasicChar (c : Char) : Bool := isPrintable c && c ≠ '"' && c ≠ '\\'

def isLiteralChar (c : Char) : Bool := isPrintable c && c ≠ '\''

def dropBlanks (cs : List Char) : List Char := cs.dropWhile isBlank

def afterNewline? : List Char → Option (List Char)
  | '\n' :: rest => some rest
  | '\r' :: '\n' :: rest => some rest
  | _ => none

def dropNewline (cs : List Char) : List Char := (afterNewline? cs).getD cs

def charOfHex? (digits : List Char) : Option Char := do
  let code ← Text.hexNumber? digits
  if code.isValidChar then some (Char.ofNat code) else none

def unescape? : Char → Option Char
  | 'b' => some '\x08'
  | 't' => some '\t'
  | 'n' => some '\n'
  | 'f' => some '\x0c'
  | 'r' => some '\r'
  | '"' => some '"'
  | '\\' => some '\\'
  | _ => none

def prepend (c : Char) : List Char × List Char → List Char × List Char
  | (text, rest) => (c :: text, rest)

def basicString? : List Char → Option (List Char × List Char)
  | [] => none
  | '"' :: rest => some ([], rest)
  | '\\' :: 'u' :: a :: b :: c :: d :: rest => do
    let char ← charOfHex? [a, b, c, d]
    prepend char <$> basicString? rest
  | '\\' :: 'U' :: a :: b :: c :: d :: e :: f :: g :: h :: rest => do
    let char ← charOfHex? [a, b, c, d, e, f, g, h]
    prepend char <$> basicString? rest
  | '\\' :: c :: rest => do
    let char ← unescape? c
    prepend char <$> basicString? rest
  | c :: rest => if isBasicChar c then prepend c <$> basicString? rest else none

def literalString? : List Char → Option (List Char × List Char)
  | [] => none
  | '\'' :: rest => some ([], rest)
  | c :: rest => if isLiteralChar c then prepend c <$> literalString? rest else none

/-- Up to two quotes directly before the closing three belong to the text. -/
def closingQuotes (quote : Char) : List Char → List Char × List Char
  | a :: b :: rest =>
    if a = quote then
      if b = quote then ([quote, quote], rest) else ([quote], b :: rest)
    else ([], a :: b :: rest)
  | [a] => if a = quote then ([quote], []) else ([], [a])
  | [] => ([], [])

def endsLine (cs : List Char) : Bool := (afterNewline? (dropBlanks cs)).isSome

/-- The text up to three quotes. A backslash at the end of a line skips all blanks and line ends
after it. -/
def multilineBasicString? : (skipping : Bool) → List Char → Option (List Char × List Char)
  | _, [] => none
  | _, '"' :: '"' :: '"' :: rest => some (closingQuotes '"' rest)
  | skipping, '\r' :: '\n' :: rest =>
    if skipping then multilineBasicString? true rest
    else prepend '\n' <$> multilineBasicString? false rest
  | _, '\\' :: 'u' :: a :: b :: c :: d :: rest => do
    let char ← charOfHex? [a, b, c, d]
    prepend char <$> multilineBasicString? false rest
  | _, '\\' :: 'U' :: a :: b :: c :: d :: e :: f :: g :: h :: rest => do
    let char ← charOfHex? [a, b, c, d, e, f, g, h]
    prepend char <$> multilineBasicString? false rest
  | _, '\\' :: c :: rest =>
    if endsLine (c :: rest) then multilineBasicString? true rest
    else do
      let char ← unescape? c
      prepend char <$> multilineBasicString? false rest
  | skipping, c :: rest =>
    if skipping && (isBlank c || c = '\n') then multilineBasicString? true rest
    else if c = '\n' || c = '"' || isBasicChar c then
      prepend c <$> multilineBasicString? false rest
    else none

def multilineLiteralString? : List Char → Option (List Char × List Char)
  | [] => none
  | '\'' :: '\'' :: '\'' :: rest => some (closingQuotes '\'' rest)
  | '\r' :: '\n' :: rest => prepend '\n' <$> multilineLiteralString? rest
  | c :: rest =>
    if c = '\n' || c = '\'' || isLiteralChar c then prepend c <$> multilineLiteralString? rest
    else none

/-- A line end directly after the opening quotes is dropped. -/
def string? : List Char → Option (List Char × List Char)
  | '"' :: '"' :: '"' :: rest => multilineBasicString? false (dropNewline rest)
  | '"' :: rest => basicString? rest
  | '\'' :: '\'' :: '\'' :: rest => multilineLiteralString? (dropNewline rest)
  | '\'' :: rest => literalString? rest
  | _ => none

def moreDigits? (isDigit : Char → Bool) : List Char → Option (List Char × List Char)
  | [] => some ([], [])
  | '_' :: c :: rest =>
    if isDigit c then prepend c <$> moreDigits? isDigit rest else none
  | c :: rest =>
    if isDigit c then prepend c <$> moreDigits? isDigit rest
    else if c = '_' then none
    else some ([], c :: rest)

def digits? (isDigit : Char → Bool) : List Char → Option (List Char × List Char)
  | [] => none
  | c :: rest => if isDigit c then prepend c <$> moreDigits? isDigit rest else none

def whole? : List Char → Option (List Char × List Char)
  | '0' :: rest => some (['0'], rest)
  | cs => digits? Char.isDigit cs

def fraction? : List Char → Option (List Char × List Char)
  | '.' :: rest => digits? Char.isDigit rest
  | cs => some ([], cs)

def exponent? : List Char → Option (Option Numeral.Exponent × List Char)
  | [] => some (none, [])
  | c :: rest =>
    if c = 'e' ∨ c = 'E' then do
      let (negative, rest) := match rest with
        | '-' :: rest => (true, rest)
        | '+' :: rest => (false, rest)
        | rest => (false, rest)
      let (digits, rest) ← digits? Char.isDigit rest
      some (some ⟨negative, digits⟩, rest)
    else some (none, c :: rest)

def integerInRange? (value : Int) : Option Toml :=
  if -Numeral.signedBound ≤ value ∧ value < Numeral.signedBound then some (.integer value)
  else none

/-- Integers out of range and positive floats beyond the largest double are refused. -/
def ofNumeral? (n : Numeral) : Option Toml :=
  if n.isInteger then
    let magnitude : Int := Numeral.natOfDigits n.whole
    integerInRange? (if n.negative then -magnitude else magnitude)
  else if n.nearest = .infinity false then none
  else some (.float n.nearest)

def decimal? (negative : Bool) : List Char → Option (Toml × List Char)
  | 'i' :: 'n' :: 'f' :: rest => some (.float (.infinity negative), rest)
  | 'n' :: 'a' :: 'n' :: rest => some (.float .nan, rest)
  | cs => do
    let (whole, cs) ← whole? cs
    let (fraction, cs) ← fraction? cs
    let (exponent, cs) ← exponent? cs
    some (← ofNumeral? ⟨negative, whole, fraction, exponent⟩, cs)

def isHexDigit (c : Char) : Bool := (Text.hexValue? c).isSome

def isOctalDigit (c : Char) : Bool := '0' ≤ c && c ≤ '7'

def isBinaryDigit (c : Char) : Bool := c = '0' || c = '1'

def radixInteger? (base : Nat) (isDigit : Char → Bool) (cs : List Char) :
    Option (Toml × List Char) := do
  let (digits, rest) ← digits? isDigit cs
  let values ← digits.mapM Text.hexValue?
  some (← integerInRange? (values.foldl (fun number digit => number * base + digit) 0 : Nat), rest)

def number? : List Char → Option (Toml × List Char)
  | '0' :: 'x' :: rest => radixInteger? 16 isHexDigit rest
  | '0' :: 'o' :: rest => radixInteger? 8 isOctalDigit rest
  | '0' :: 'b' :: rest => radixInteger? 2 isBinaryDigit rest
  | '+' :: rest => decimal? false rest
  | '-' :: rest => decimal? true rest
  | cs => decimal? false cs

def fixedNumber? (count least greatest : Nat) (cs : List Char) : Option (Nat × List Char) :=
  let digits := cs.take count
  let number := Numeral.natOfDigits digits
  if digits.length = count ∧ digits.all Char.isDigit ∧ least ≤ number ∧ number ≤ greatest then
    some (number, cs.drop count)
  else none

def expect? (c : Char) : List Char → Option (List Char)
  | head :: rest => if head = c then some rest else none
  | [] => none

def daysOfMonth (year month : Nat) : Nat :=
  if month = 2 then
    if year % 4 = 0 ∧ (year % 100 ≠ 0 ∨ year % 400 = 0) then 29 else 28
  else if month = 4 ∨ month = 6 ∨ month = 9 ∨ month = 11 then 30
  else 31

def date? (cs : List Char) : Option (List Char) := do
  let (year, cs) ← fixedNumber? 4 0 9999 cs
  let (month, cs) ← fixedNumber? 2 1 12 (← expect? '-' cs)
  let (_, cs) ← fixedNumber? 2 1 (daysOfMonth year month) (← expect? '-' cs)
  some cs

def time? (cs : List Char) : Option (List Char) := do
  let (_, cs) ← fixedNumber? 2 0 23 cs
  let (_, cs) ← fixedNumber? 2 0 59 (← expect? ':' cs)
  let (_, cs) ← fixedNumber? 2 0 60 (← expect? ':' cs)
  match cs with
  | '.' :: rest =>
    if (rest.takeWhile Char.isDigit).isEmpty then none else some (rest.dropWhile Char.isDigit)
  | cs => some cs

def offset? : List Char → Option (List Char)
  | [] => some []
  | c :: rest =>
    if c = 'Z' ∨ c = 'z' then some rest
    else if c = '+' ∨ c = '-' then do
      let (_, rest) ← fixedNumber? 2 0 23 rest
      let (_, rest) ← fixedNumber? 2 0 59 (← expect? ':' rest)
      some rest
    else some (c :: rest)

def startsDate (cs : List Char) : Bool :=
  (fixedNumber? 4 0 9999 cs).any fun (_, rest) => rest.head? == some '-'

def startsTime (cs : List Char) : Bool :=
  (fixedNumber? 2 0 23 cs).any fun (_, rest) => rest.head? == some ':'

def dateTime? (cs : List Char) : Option (List Char) := do
  let cs ← date? cs
  match cs with
  | c :: rest =>
    if (c = 'T' ∨ c = 't' ∨ c = ' ') ∧ startsTime rest then do offset? (← time? rest)
    else some cs
  | [] => some []

def datetimeUpTo (cs rest : List Char) : Toml × List Char :=
  (.datetime (String.ofList (cs.take (cs.length - rest.length))), rest)

def scalar? (cs : List Char) : Option (Toml × List Char) :=
  match cs with
  | 't' :: 'r' :: 'u' :: 'e' :: rest => some (.bool true, rest)
  | 'f' :: 'a' :: 'l' :: 's' :: 'e' :: rest => some (.bool false, rest)
  | '"' :: _ | '\'' :: _ => do
    let (text, rest) ← string? cs
    some (.string (String.ofList text), rest)
  | _ =>
    if startsDate cs then datetimeUpTo cs <$> dateTime? cs
    else if startsTime cs then datetimeUpTo cs <$> time? cs
    else number? cs

end FinderQuery.Toml
