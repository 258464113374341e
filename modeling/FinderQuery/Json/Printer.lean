import FinderQuery.Json.Syntax

namespace FinderQuery

namespace Json

mutual

def tokens : Json → List Token
  | .null => [.null]
  | .bool value => [.bool value]
  | .number numeral => [.number numeral]
  | .string text => [.string text]
  | .array [] => [.leftBracket, .rightBracket]
  | .array (item :: items) => .leftBracket :: tokens item ++ itemTokens items ++ [.rightBracket]
  | .object [] => [.leftBrace, .rightBrace]
  | .object (member :: members) =>
    .leftBrace :: memberToken member ++ memberTokens members ++ [.rightBrace]

def itemTokens : List Json → List Token
  | [] => []
  | item :: items => .comma :: tokens item ++ itemTokens items

def memberToken : Text × Json → List Token
  | (key, value) => .string key :: .colon :: tokens value

def memberTokens : List (Text × Json) → List Token
  | [] => []
  | member :: members => .comma :: memberToken member ++ memberTokens members

end

def hexDigit (n : Nat) : Char := Nat.digitChar n

def escapeChar (c : Char) : List Char :=
  if c = '"' then ['\\', '"']
  else if c = '\\' then ['\\', '\\']
  else if c = '\x08' then ['\\', 'b']
  else if c = '\x0c' then ['\\', 'f']
  else if c = '\n' then ['\\', 'n']
  else if c = '\r' then ['\\', 'r']
  else if c = '\t' then ['\\', 't']
  else if c.toNat < 0x20 then
    ['\\', 'u', '0', '0', hexDigit (c.toNat / 16), hexDigit (c.toNat % 16)]
  else [c]

def quote (text : List Char) : List Char := '"' :: text.flatMap escapeChar ++ ['"']

namespace Token

/-- The text of a token. A string without characters is written as the half of a pair. -/
def toList : Token → List Char
  | leftBracket => ['[']
  | rightBracket => [']']
  | leftBrace => ['{']
  | rightBrace => ['}']
  | colon => [':']
  | comma => [',']
  | null => "null".toList
  | bool true => "true".toList
  | bool false => "false".toList
  | number numeral => numeral.toList
  | string (some text) => quote text.toList
  | string none => "\"\\ud800\"".toList

end Token

def compact (value : Json) : String := String.ofList (value.tokens.flatMap Token.toList)

def newline (level : Nat) : List Char := '\n' :: List.replicate (2 * level) ' '

mutual

def lines (level : Nat) : Json → List Char
  | .array (item :: items) =>
    '[' :: newline (level + 1) ++ lines (level + 1) item ++ itemLines (level + 1) items
      ++ newline level ++ [']']
  | .object (member :: members) =>
    '{' :: newline (level + 1) ++ memberLine (level + 1) member ++ memberLines (level + 1) members
      ++ newline level ++ ['}']
  | .array [] => ['[', ']']
  | .object [] => ['{', '}']
  | .null => Token.null.toList
  | .bool value => (Token.bool value).toList
  | .number numeral => (Token.number numeral).toList
  | .string text => (Token.string text).toList

def itemLines (level : Nat) : List Json → List Char
  | [] => []
  | item :: items => ',' :: newline level ++ lines level item ++ itemLines level items

def memberLine (level : Nat) : Text × Json → List Char
  | (key, value) => (Token.string key).toList ++ [':', ' '] ++ lines level value

def memberLines (level : Nat) : List (Text × Json) → List Char
  | [] => []
  | member :: members =>
    ',' :: newline level ++ memberLine level member ++ memberLines level members

end

def pretty (value : Json) : String := String.ofList (lines 0 value)

end Json

end FinderQuery
