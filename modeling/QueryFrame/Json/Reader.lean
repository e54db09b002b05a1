import QueryFrame.Json.Basic

/-!
# Reading JSON

The grammar is the strict one: a single value with nothing but blanks around it, no comments, no
trailing commas, no control characters inside strings, numbers without leading zeros.

Every reader takes the characters in front of it and gives what it read with the characters that
are left. The readers of values, items and members call each other. They are bounded by a count
that no text can exhaust, since every call is paid for by a character that was read.
-/

namespace QueryFrame.Json

open Number

/-- Whether a character may stand between tokens. -/
def isBlank (c : Char) : Bool :=
  c = ' ' || c = '\n' || c = '\t' || c = '\r'

/-- The text behind leading blanks. -/
def skipBlanks (cs : List Char) : List Char :=
  cs.dropWhile isBlank

/-! ### Strings -/

/-- The value of a hexadecimal digit. -/
def hexValue? (c : Char) : Option Nat :=
  if '0' ≤ c ∧ c ≤ '9' then some (c.toNat - '0'.toNat)
  else if 'a' ≤ c ∧ c ≤ 'f' then some (c.toNat - 'a'.toNat + 10)
  else if 'A' ≤ c ∧ c ≤ 'F' then some (c.toNat - 'A'.toNat + 10)
  else none

/-- The character that a letter behind a backslash stands for. -/
def unescape? (c : Char) : Option Char :=
  if c = '"' then some '"'
  else if c = '\\' then some '\\'
  else if c = '/' then some '/'
  else if c = 'b' then some '\x08'
  else if c = 'f' then some '\x0c'
  else if c = 'n' then some '\n'
  else if c = 'r' then some '\r'
  else if c = 't' then some '\t'
  else none

/-- The code points of a string, from behind its opening mark to its closing mark. An escape by
number counts as the code point of that number, also if it is half of a surrogate pair. -/
def readPoints : List Char → Option (List Nat × List Char)
  | '"' :: rest => some ([], rest)
  | '\\' :: 'u' :: a :: b :: c :: d :: rest => do
    let a ← hexValue? a
    let b ← hexValue? b
    let c ← hexValue? c
    let d ← hexValue? d
    let (points, rest) ← readPoints rest
    some ((((a * 16 + b) * 16 + c) * 16 + d) :: points, rest)
  | '\\' :: letter :: rest => do
    let c ← unescape? letter
    let (points, rest) ← readPoints rest
    some (c.toNat :: points, rest)
  | c :: rest =>
    if c.toNat < 32 || c = '\\' then none
    else do
      let (points, rest) ← readPoints rest
      some (c.toNat :: points, rest)
  | [] => none

/-- Whether a code point is the first half of a surrogate pair. -/
def isLeading (point : Nat) : Bool :=
  0xD800 ≤ point && point < 0xDC00

/-- Whether a code point is the second half of a surrogate pair. -/
def isTrailing (point : Nat) : Bool :=
  0xDC00 ≤ point && point < 0xE000

/-- The characters of the code points, with the halves of surrogate pairs put together. A half on
its own is no character. -/
def pairUp : List Nat → Option (List Char)
  | [] => some []
  | first :: second :: rest =>
    if isLeading first then
      if isTrailing second then
        (pairUp rest).map
          (Char.ofNat (0x10000 + (first - 0xD800) * 0x400 + (second - 0xDC00)) :: ·)
      else none
    else if isTrailing first then none
    else (pairUp (second :: rest)).map (Char.ofNat first :: ·)
  | [point] =>
    if isLeading point || isTrailing point then none else some [Char.ofNat point]

/-- A string from behind its opening mark. -/
def readString (cs : List Char) : Option (Option String × List Char) :=
  (readPoints cs).map fun (points, rest) => ((pairUp points).map String.ofList, rest)

/-! ### Numbers -/

/-- The whole part of a number: a zero, or digits that do not start with one. -/
def readWhole : List Char → Option (List Char × List Char)
  | '0' :: rest => some (['0'], rest)
  | cs => Decimal.readDigits cs

/-- The places of a number, if there are any. -/
def readPlaces : List Char → Option (List Char × List Char)
  | '.' :: rest => (Decimal.readDigits rest).map fun (digits, rest) => ('.' :: digits, rest)
  | cs => some ([], cs)

/-- The exponent of a number, if there is one. -/
def readExponent : List Char → Option (List Char × List Char)
  | e :: sign :: rest =>
    if e = 'e' || e = 'E' then
      if sign = '+' || sign = '-' then
        (Decimal.readDigits rest).map fun (digits, rest) => (e :: sign :: digits, rest)
      else
        (Decimal.readDigits (sign :: rest)).map fun (digits, rest) => (e :: digits, rest)
    else some ([], e :: sign :: rest)
  | [e] => if e = 'e' || e = 'E' then none else some ([], [e])
  | [] => some ([], [])

/-- A number without its sign. -/
def readUnsigned (cs : List Char) : Option (List Char × List Char) := do
  let (whole, rest) ← readWhole cs
  let (places, rest) ← readPlaces rest
  let (exponent, rest) ← readExponent rest
  some (whole ++ places ++ exponent, rest)

/-- A number as it is written. -/
def readNumber : List Char → Option (List Char × List Char)
  | '-' :: rest => (readUnsigned rest).map fun (lexeme, rest) => ('-' :: lexeme, rest)
  | cs => readUnsigned cs

/-! ### Values -/

mutual

/-- A value, and the text behind it. -/
def readValue : Nat → List Char → Option (Json × List Char)
  | 0, _ => none
  | fuel + 1, cs =>
    match skipBlanks cs with
    | 'n' :: 'u' :: 'l' :: 'l' :: rest => some (.null, rest)
    | 't' :: 'r' :: 'u' :: 'e' :: rest => some (.bool true, rest)
    | 'f' :: 'a' :: 'l' :: 's' :: 'e' :: rest => some (.bool false, rest)
    | '"' :: rest => (readString rest).map fun (text, rest) => (.string text, rest)
    | '[' :: rest =>
      match skipBlanks rest with
      | ']' :: rest => some (.array [], rest)
      | rest => (readItems fuel rest).map fun (items, rest) => (.array items, rest)
    | '{' :: rest =>
      match skipBlanks rest with
      | '}' :: rest => some (.object [], rest)
      | rest => (readMembers fuel rest).map fun (members, rest) => (.object members, rest)
    | cs => (readNumber cs).map fun (lexeme, rest) => (.number lexeme, rest)

/-- One or more items up to the end of the array, and the text behind it. -/
def readItems : Nat → List Char → Option (List Json × List Char)
  | 0, _ => none
  | fuel + 1, cs => do
    let (item, rest) ← readValue fuel cs
    match skipBlanks rest with
    | ',' :: rest =>
      let (items, rest) ← readItems fuel rest
      some (item :: items, rest)
    | ']' :: rest => some ([item], rest)
    | _ => none

/-- One or more members up to the end of the object, and the text behind it. -/
def readMembers : Nat → List Char → Option (List (Option String × Json) × List Char)
  | 0, _ => none
  | fuel + 1, cs =>
    match skipBlanks cs with
    | '"' :: rest => do
      let (key, rest) ← readString rest
      match skipBlanks rest with
      | ':' :: rest => do
        let (value, rest) ← readValue fuel rest
        match skipBlanks rest with
        | ',' :: rest =>
          let (members, rest) ← readMembers fuel rest
          some ((key, value) :: members, rest)
        | '}' :: rest => some ([(key, value)], rest)
        | _ => none
      | _ => none
    | _ => none

end

/-- The value that a text holds, if it is a single JSON value. -/
def read? (text : String) : Option Json := do
  let cs := text.toList
  let (json, rest) ← readValue (2 * cs.length + 2) cs
  if (skipBlanks rest).isEmpty then some json else none

end QueryFrame.Json
