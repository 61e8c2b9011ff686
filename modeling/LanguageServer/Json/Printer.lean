import LanguageServer.Json.Basic

namespace LanguageServer
namespace Json

/-!
Writing JSON.  The text holds no blanks.  Inside strings a quote, a backslash
and control characters are escaped; everything else is written as it is.
-/

/-- Four hexadecimal digits. -/
def hex4 (n : Nat) : List Char :=
  [n / 4096, n / 256, n / 16, n].map fun digit => Nat.digitChar (digit % 16)

/-- How one character is written inside a string literal. -/
def escapeChar (c : Char) : List Char :=
  if c = '"' then ['\\', '"']
  else if c = '\\' then ['\\', '\\']
  else if c.toNat < 0x20 ∨ c.toNat = 0x7f then ['\\', 'u'] ++ hex4 c.toNat
  else [c]

/-- A string literal. -/
def renderText (content : String) : String :=
  String.ofList ('"' :: (content.toList.flatMap escapeChar ++ ['"']))

/-- A literal; one without a text is written as the replacement character. -/
def renderLiteral : Literal → String
  | .text content => renderText content
  | .unpaired => renderText "\ufffd"

mutual

/-- The text of a value. -/
def render : Json → String
  | .null => "null"
  | .bool true => "true"
  | .bool false => "false"
  | .number value => value.render
  | .string content => renderLiteral content
  | .array items => "[" ++ ",".intercalate (renderItems items) ++ "]"
  | .object entries => "\x7b" ++ ",".intercalate (renderEntries entries) ++ "\x7d"

/-- The texts of the items. -/
def renderItems : List Json → List String
  | [] => []
  | item :: rest => render item :: renderItems rest

/-- The texts of the entries. -/
def renderEntries : List (Literal × Json) → List String
  | [] => []
  | (key, value) :: rest =>
      (renderLiteral key ++ ":" ++ render value) :: renderEntries rest

end

end Json
end LanguageServer
