import TokenAuth.Json.Token

/-! The text of a JSON value, without blanks. -/

namespace TokenAuth.Json

def textToken (s : String) : Token := .text (escape (utf8 s))

mutual

/-- The lexemes of a value, members in the order they stand in. -/
def tokens : Json → List Token
  | null => [.null]
  | bool b => [.bool b]
  | num n => [.number (Numeral.ofNumber n)]
  | str s => [textToken s]
  | arr items => .openArray :: (itemTokens items ++ [.closeArray])
  | obj members => .openObject :: (memberTokens members ++ [.closeObject])

def itemTokens : List Json → List Token
  | [] => []
  | [item] => tokens item
  | item :: next :: items => tokens item ++ .comma :: itemTokens (next :: items)

def memberTokens : List (String × Json) → List Token
  | [] => []
  | [(key, value)] => textToken key :: .colon :: tokens value
  | (key, value) :: next :: members =>
    textToken key :: .colon :: (tokens value ++ .comma :: memberTokens (next :: members))

end

/-- The JSON text of a value, without blanks. -/
def render (value : Json) : Bytes := value.tokens.flatMap Token.render

end TokenAuth.Json
