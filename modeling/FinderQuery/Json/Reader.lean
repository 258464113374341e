import FinderQuery.Json.Lexer

namespace FinderQuery.Json

/-- An array or object that waits for the value being read; what it holds so far is reversed. -/
inductive Frame where
  | array (items : List Json)
  | object (members : List (Text × Json)) (key : Text)

inductive Expected where
  | value
  | itemOrEnd
  | keyOrEnd
  | key (members : List (Text × Json))
  | colon (members : List (Text × Json)) (key : Text)
  | continuation (value : Json)

def Token.start? : Token → Option Expected
  | .null => some (.continuation .null)
  | .bool value => some (.continuation (.bool value))
  | .number numeral => some (.continuation (.number numeral))
  | .string text => some (.continuation (.string text))
  | .leftBracket => some .itemOrEnd
  | .leftBrace => some .keyOrEnd
  | _ => none

def ofTokens? : Expected → List Frame → List Token → Option Json
  | .continuation value, [], [] => some value
  | _, _, [] => none
  | .value, frames, token :: tokens =>
    match token.start? with
    | some expected => ofTokens? expected frames tokens
    | none => none
  | .itemOrEnd, frames, token :: tokens =>
    if token = .rightBracket then ofTokens? (.continuation (.array [])) frames tokens
    else match token.start? with
      | some expected => ofTokens? expected (.array [] :: frames) tokens
      | none => none
  | .keyOrEnd, frames, token :: tokens =>
    match token with
    | .rightBrace => ofTokens? (.continuation (.object [])) frames tokens
    | .string key => ofTokens? (.colon [] key) frames tokens
    | _ => none
  | .key members, frames, token :: tokens =>
    match token with
    | .string key => ofTokens? (.colon members key) frames tokens
    | _ => none
  | .colon members key, frames, token :: tokens =>
    if token = .colon then ofTokens? .value (.object members key :: frames) tokens else none
  | .continuation value, frames, token :: tokens =>
    match frames, token with
    | .array items :: frames, .comma => ofTokens? .value (.array (value :: items) :: frames) tokens
    | .array items :: frames, .rightBracket =>
      ofTokens? (.continuation (.array (value :: items).reverse)) frames tokens
    | .object members key :: frames, .comma =>
      ofTokens? (.key ((key, value) :: members)) frames tokens
    | .object members key :: frames, .rightBrace =>
      ofTokens? (.continuation (.object ((key, value) :: members).reverse)) frames tokens
    | _, _ => none

def parse? (text : String) : Option Json := do
  ofTokens? .value [] (← lex? text.toList)

end FinderQuery.Json
