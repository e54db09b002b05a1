import QueryFrame.Number.Decimal

/-!
# JSON values

A value of the data format of that name. A number is kept as it is written, so that `1`, `1.0` and
`-0` stay apart: only the first is a whole number (`Json.int?`).

A string literal may hold escapes for halves of surrogate pairs that do not pair up. Such a
literal is grammatical and names no text. It is `none`, and stands where nobody reads it.
-/

namespace QueryFrame

/-- A JSON value. -/
inductive Json where
  | null
  | bool (value : Bool)
  /-- a number as it is written -/
  | number (lexeme : List Char)
  /-- a string, if the literal names one -/
  | string (text : Option String)
  | array (items : List Json)
  /-- names and values in order, repeated names included -/
  | object (members : List (Option String × Json))

namespace Json

open Number

/-- A whole number. -/
def ofInt (n : Int) : Json :=
  .number (Decimal.signed n)

/-- A text. -/
def ofString (text : String) : Json :=
  .string (some text)

/-- An object with the given members. -/
def ofMembers (members : List (String × Json)) : Json :=
  .object (members.map fun member => (some member.1, member.2))

/-- A whole number, if the number is written as one: digits only, with or without a minus sign.
A zero with a minus sign is a fraction that happens to have no places. -/
def int? : Json → Option Int
  | .number ('-' :: digits) =>
    if digits.all Decimal.isDigit && digits != ['0'] then some (-(Decimal.value digits : Int))
    else none
  | .number digits => if digits.all Decimal.isDigit then some (Decimal.value digits) else none
  | _ => none

/-- The text of a string. -/
def string? : Json → Option String
  | .string text => text
  | _ => none

/-- The items of an array. -/
def array? : Json → Option (List Json)
  | .array items => some items
  | _ => none

/-- A truth value. -/
def bool? : Json → Option Bool
  | .bool value => some value
  | _ => none

/-- The value of the first member of that name. -/
def member? (name : String) : Json → Option Json
  | .object members => members.lookup (some name)
  | _ => none

end Json

end QueryFrame
