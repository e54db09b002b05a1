import QueryFrame.Json.Basic

/-!
# Writing JSON

Values are written without blanks. In a string the quotation mark, the backslash and the control
characters are escaped, by a letter where there is one, and every other character stands for
itself. Everything is written in front of the text that follows it.
-/

namespace QueryFrame.Json

/-- A hexadecimal digit, in lower case. -/
def hexDigit (n : Nat) : Char :=
  if n < 10 then Char.ofNat ('0'.toNat + n) else Char.ofNat ('a'.toNat + (n - 10))

/-- One character of a string literal. -/
def escape (c : Char) : List Char :=
  if c = '"' then ['\\', '"']
  else if c = '\\' then ['\\', '\\']
  else if c = '\n' then ['\\', 'n']
  else if c = '\r' then ['\\', 'r']
  else if c = '\t' then ['\\', 't']
  else if c = '\x08' then ['\\', 'b']
  else if c = '\x0c' then ['\\', 'f']
  else if c.toNat < 32 then
    ['\\', 'u', '0', '0', hexDigit (c.toNat / 16), hexDigit (c.toNat % 16)]
  else [c]

/-- A string literal, followed by `rest`. A literal that names no text is written as one: with
half a surrogate pair. -/
def writeStringOnto (text : Option String) (rest : List Char) : List Char :=
  match text with
  | some text => '"' :: (text.toList.flatMap escape ++ '"' :: rest)
  | none => ['"', '\\', 'u', 'd', '8', '0', '0', '"'] ++ rest

mutual

/-- The text of a value, followed by `rest`. -/
def writeOnto : Json → List Char → List Char
  | .null, rest => "null".toList ++ rest
  | .bool true, rest => "true".toList ++ rest
  | .bool false, rest => "false".toList ++ rest
  | .number lexeme, rest => lexeme ++ rest
  | .string text, rest => writeStringOnto text rest
  | .array [], rest => '[' :: ']' :: rest
  | .array (item :: items), rest => '[' :: writeOnto item (writeItemsOnto items (']' :: rest))
  | .object [], rest => '{' :: '}' :: rest
  | .object ((key, value) :: members), rest =>
    '{' :: writeStringOnto key (':' :: writeOnto value (writeMembersOnto members ('}' :: rest)))

/-- Further items, each behind a comma, followed by `rest`. -/
def writeItemsOnto : List Json → List Char → List Char
  | [], rest => rest
  | item :: items, rest => ',' :: writeOnto item (writeItemsOnto items rest)

/-- Further members, each behind a comma, followed by `rest`. -/
def writeMembersOnto : List (Option String × Json) → List Char → List Char
  | [], rest => rest
  | (key, value) :: members, rest =>
    ',' :: writeStringOnto key (':' :: writeOnto value (writeMembersOnto members rest))

end

/-- The text of a value. -/
def write (json : Json) : String :=
  String.ofList (writeOnto json [])

end QueryFrame.Json
