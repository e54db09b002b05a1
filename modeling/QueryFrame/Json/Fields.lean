import QueryFrame.Json.Basic

/-!
# Records and names as JSON

How values of the library are laid out as JSON. A record is an object, or an array of its fields in
order. A member that the record does not know is passed over, but no field may be given twice. A
field with a default may be left out. A field that may be absent is `null` then, and a member for it
may be missing, while an array has to reach it. No other field accepts `null`.

A value that is one of several names is a string, or an object whose only member has that name and
the value `null`.
-/

namespace QueryFrame.Json

/-- What a record says about one of its fields. -/
inductive Field where
  /-- there is a value for it -/
  | given (value : Json)
  /-- an object has no member of its name -/
  | missing
  /-- an array ends before it -/
  | beyond

namespace Field

/-- A field that has to be given. -/
def required {α : Type} (read : Json → Option α) : Field → Option α
  | .given value => read value
  | .missing | .beyond => none

/-- A field that takes a default where it is left out. -/
def orDefault {α : Type} (read : Json → Option α) (default : α) : Field → Option α
  | .given value => read value
  | .missing | .beyond => some default

end Field

/-- A value that may be absent. -/
def nullable {α : Type} (read : Json → Option α) : Json → Option (Option α)
  | .null => some none
  | json => (read json).map some

/-- A field that may be absent. -/
def Field.optional {α : Type} (read : Json → Option α) : Field → Option (Option α)
  | .given value => nullable read value
  | .missing => some none
  | .beyond => none

/-- The values of the members of that name. -/
def membersNamed (name : String) (members : List (Option String × Json)) : List Json :=
  (members.filter fun member => member.1 = some name).map Prod.snd

/-- A field of an object, unless it is given twice. -/
def memberField? (members : List (Option String × Json)) (name : String) : Option Field :=
  match membersNamed name members with
  | [] => some .missing
  | [value] => some (.given value)
  | _ => none

/-- The fields of an array: its items in order, and then those that it does not reach. -/
def itemFields? : List String → List Json → Option (List Field)
  | [], [] => some []
  | [], _ :: _ => none
  | _ :: names, [] => (itemFields? names []).map (.beyond :: ·)
  | _ :: names, item :: items => (itemFields? names items).map (.given item :: ·)

/-- The fields of a record, in the order of their names. -/
def fields? (names : List String) : Json → Option (List Field)
  | .object members =>
    if members.all fun member => member.1.isSome then names.mapM (memberField? members) else none
  | .array items => itemFields? names items
  | _ => none

/-- The name that a value is. -/
def variant? : Json → Option String
  | .string text => text
  | .object [(some name, .null)] => some name
  | _ => none

/-- The value of that name among `all`. -/
def named? {α : Type} (all : List α) (name : α → String) (json : Json) : Option α := do
  let text ← json.variant?
  all.find? fun value => name value = text

/-- A list of which every item can be read. -/
def listOf? {α : Type} (read : Json → Option α) (json : Json) : Option (List α) := do
  let items ← json.array?
  items.mapM read

/-- A whole number of 64 bits with a sign. -/
def int64? (json : Json) : Option Int64 := do
  let n ← json.int?
  if -0x8000000000000000 ≤ n ∧ n < 0x8000000000000000 then some (.ofInt n) else none

/-- A whole number of 32 bits without a sign. -/
def uint32? (json : Json) : Option UInt32 := do
  let n ← json.int?
  if 0 ≤ n ∧ n < 0x100000000 then some (.ofNat n.toNat) else none

/-- A value that may be absent, as JSON. -/
def ofOption {α : Type} (write : α → Json) : Option α → Json
  | some value => write value
  | none => .null

end QueryFrame.Json
