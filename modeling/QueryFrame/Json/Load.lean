import QueryFrame.Json.Reader
import QueryFrame.Json.Types

/-!
# Loading from text

A text is read as JSON and then as a value of the library. Settings are checked as well, so that
no window fails later because of the frame in them.
-/

namespace QueryFrame

/-- The value that a JSON text holds. -/
def Json.load? {α : Type} (ofJson? : Json → Option α) (text : String) : Option α := do
  let json ← Json.read? text
  ofJson? json

/-- The settings that a JSON text holds, with a frame that means something. -/
def Settings.load (text : String) : Outcome Settings :=
  match Json.load? Settings.ofJson? text with
  | some settings => settings.checked
  | none => .error (.dataFrame (.invalidSettings "the text holds no settings"))

end QueryFrame
