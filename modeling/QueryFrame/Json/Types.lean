import QueryFrame.Diagnostic
import QueryFrame.Json.Fields
import QueryFrame.Relation
import QueryFrame.Settings

/-!
# The types of the library as JSON

For each type that is stored or exchanged there is a reader and a writer. Names are written in
lower case with underscores, except for the classes of types and errors, whose names are
capitalized. A dialect is its name, and any name is a dialect.
-/

namespace QueryFrame

/-! ### Names -/

/-- The type as JSON. -/
def DataType.toJson (t : DataType) : Json :=
  .ofString t.name

/-- Reads a type. -/
def DataType.ofJson? : Json → Option DataType :=
  Json.named? DataType.all DataType.name

/-- The capitalized name of a class. -/
def TypeClass.tag : TypeClass → String
  | .numeric => "Numeric"
  | .boolean => "Boolean"
  | .text => "Text"
  | .date => "Date"
  | .time => "Time"
  | .timestamp => "Timestamp"
  | .interval => "Interval"
  | .uuid => "Uuid"
  | .json => "Json"
  | .composite => "Composite"

/-- The class as JSON. -/
def TypeClass.toJson (c : TypeClass) : Json :=
  .ofString c.tag

/-- Reads a class. -/
def TypeClass.ofJson? : Json → Option TypeClass :=
  Json.named? TypeClass.all TypeClass.tag

/-- The capitalized name of a kind of refusal. -/
def ErrorCategory.tag : ErrorCategory → String
  | .validation => "Validation"
  | .capability => "Capability"
  | .type => "Type"

/-- The kind of refusal as JSON. -/
def ErrorCategory.toJson (c : ErrorCategory) : Json :=
  .ofString c.tag

/-- Reads a kind of refusal. -/
def ErrorCategory.ofJson? : Json → Option ErrorCategory :=
  Json.named? [.validation, .capability, .type] ErrorCategory.tag

/-- The dialect as JSON. -/
def Dialect.toJson (d : Dialect) : Json :=
  .ofString d.name

/-- Reads a dialect. -/
def Dialect.ofJson? (json : Json) : Option Dialect :=
  json.string?.map Dialect.ofName

/-- The name of a mode. -/
def FrameMode.name : FrameMode → String
  | .rows => "rows"
  | .range => "range"

/-- The mode as JSON. -/
def FrameMode.toJson (mode : FrameMode) : Json :=
  .ofString mode.name

/-- Reads a mode. -/
def FrameMode.ofJson? : Json → Option FrameMode :=
  Json.named? [.rows, .range] FrameMode.name

/-- The name of a boundary. -/
def Boundary.name : Boundary → String
  | .preceding => "preceding"
  | .currentRow => "current_row"
  | .following => "following"

/-- The boundary as JSON. -/
def Boundary.toJson (boundary : Boundary) : Json :=
  .ofString boundary.name

/-- Reads a boundary. -/
def Boundary.ofJson? : Json → Option Boundary :=
  Json.named? [.preceding, .currentRow, .following] Boundary.name

/-- The window function as JSON. -/
def WindowFunction.toJson (f : WindowFunction) : Json :=
  .ofString f.name

/-- Reads a window function. -/
def WindowFunction.ofJson? : Json → Option WindowFunction :=
  Json.named? WindowFunction.all WindowFunction.name

/-! ### Records -/

/-- The diagnostic as JSON. -/
def Diagnostic.toJson (d : Diagnostic) : Json :=
  .ofMembers [
    ("code", .ofString d.code),
    ("category", d.category.toJson),
    ("message", .ofString d.message),
    ("label", .ofOption .ofString d.label),
    ("help", .ofOption .ofString d.help),
    ("notes", .array (d.notes.map .ofString))]

/-- Reads a diagnostic. Label and help may be absent. -/
def Diagnostic.ofJson? (json : Json) : Option Diagnostic :=
  match json.fields? ["code", "category", "message", "label", "help", "notes"] with
  | some [code, category, message, label, help, notes] => do
    some {
      code := ← code.required Json.string?
      category := ← category.required ErrorCategory.ofJson?
      message := ← message.required Json.string?
      label := ← label.optional Json.string?
      help := ← help.optional Json.string?
      notes := ← notes.required (Json.listOf? Json.string?) }
  | _ => none

/-- The relation as JSON. -/
def Relation.toJson (relation : Relation) : Json :=
  .ofMembers [
    ("name", .ofString relation.name),
    ("generation", .ofInt relation.generation.toNat)]

/-- Reads a relation. -/
def Relation.ofJson? (json : Json) : Option Relation :=
  match json.fields? ["name", "generation"] with
  | some [name, generation] => do
    some {
      name := ← name.required Json.string?
      generation := ← generation.required Json.uint32? }
  | _ => none

/-- The bound as JSON. -/
def Bound.toJson (bound : Bound) : Json :=
  .ofMembers [
    ("boundary", bound.boundary.toJson),
    ("value", .ofOption (fun offset => .ofInt offset.toInt) bound.offset)]

/-- Reads a bound. Without an offset it has none. -/
def Bound.ofJson? (json : Json) : Option Bound :=
  match json.fields? ["boundary", "value"] with
  | some [boundary, offset] => do
    some {
      boundary := ← boundary.required Boundary.ofJson?
      offset := ← offset.orDefault (Json.nullable Json.int64?) none }
  | _ => none

/-- The frame as JSON. -/
def Frame.toJson (frame : Frame) : Json :=
  .ofMembers [
    ("mode", .ofOption FrameMode.toJson frame.mode),
    ("start", .ofOption Bound.toJson frame.start),
    ("end", .ofOption Bound.toJson frame.stop)]

/-- Reads a frame. What is left out is as in the standard frame. -/
def Frame.ofJson? (json : Json) : Option Frame :=
  match json.fields? ["mode", "start", "end"] with
  | some [mode, start, stop] => do
    some {
      mode := ← mode.orDefault (Json.nullable FrameMode.ofJson?) Frame.standard.mode
      start := ← start.orDefault (Json.nullable Bound.ofJson?) Frame.standard.start
      stop := ← stop.orDefault (Json.nullable Bound.ofJson?) Frame.standard.stop }
  | _ => none

/-- The settings as JSON. -/
def Settings.toJson (settings : Settings) : Json :=
  .ofMembers [
    ("dialect", settings.dialect.toJson),
    ("window", settings.window.toJson)]

/-- Reads settings. What is left out is as in the standard settings. -/
def Settings.ofJson? (json : Json) : Option Settings :=
  match json.fields? ["dialect", "window"] with
  | some [dialect, window] => do
    some {
      dialect := ← dialect.orDefault Dialect.ofJson? Settings.standard.dialect
      window := ← window.orDefault Frame.ofJson? Settings.standard.window }
  | _ => none

end QueryFrame
