/-!
# Diagnostics

What a caller is told when a request is refused: a stable code, the kind of refusal, a message,
and optionally a label for the place at fault, advice and further notes.

`Diagnostic.text` is the form for a terminal: the code and message with the label in parentheses,
then the advice and every note on an indented line of its own.
-/

namespace QueryFrame

/-- The kinds of refusal. -/
inductive ErrorCategory where
  /-- the caller asked for something invalid -/
  | validation
  /-- the target database cannot express what was asked for -/
  | capability
  /-- operands of types that do not go together -/
  | type
  deriving DecidableEq

/-- The name of a kind in running text. -/
def ErrorCategory.name : ErrorCategory → String
  | .validation => "validation"
  | .capability => "capability"
  | .type => "type"

/-- A refusal as it is reported. -/
structure Diagnostic where
  /-- stable identifier of the refusal -/
  code : String
  /-- kind of refusal -/
  category : ErrorCategory
  /-- what went wrong, in one sentence -/
  message : String
  /-- name of the place at fault -/
  label : Option String
  /-- what to do about it -/
  help : Option String
  /-- background, one remark each -/
  notes : List String
  deriving DecidableEq

namespace Diagnostic

/-- The remarks, each on an indented line. -/
def noteLines : List String → String
  | [] => ""
  | note :: rest => "\n  note: " ++ note ++ noteLines rest

/-- The diagnostic as text for a terminal. -/
def text (d : Diagnostic) : String :=
  let label := match d.label with
    | some label => " (" ++ label ++ ")"
    | none => ""
  let help := match d.help with
    | some help => "\n  help: " ++ help
    | none => ""
  d.code ++ ": " ++ d.message ++ label ++ help ++ noteLines d.notes

end Diagnostic

end QueryFrame
