import QueryFrame.Error.Cause
import QueryFrame.Expr.Basic
import QueryFrame.Text

/-!
# Templates

A larger expression is put together from a template, SQL with a slot `{}` for each part. The text
of the template is kept as it is and the parts become nested expressions, so what a part says is
never read as template again.

`Template.parse` splits a template at its slots, found from the left and without overlap, and
`Expr.construct` fills them. The number of parts has to be the number of slots.
-/

namespace QueryFrame

/-- The text of a slot. -/
def slot : String :=
  "\x7b\x7d"

/-- A template split at its slots. -/
structure Template where
  /-- the text before the first slot, or all of it -/
  head : List Char
  /-- the text behind each slot -/
  tail : List (List Char)

namespace Template

/-- Splits a template at its slots. -/
def parse : List Char → Template
  | '{' :: '}' :: rest => ⟨[], (parse rest).head :: (parse rest).tail⟩
  | c :: rest => ⟨c :: (parse rest).head, (parse rest).tail⟩
  | [] => ⟨[], []⟩

/-- The text between slots as tokens: nothing for no text. -/
def rawTokens : List Char → List Token
  | [] => []
  | text => [.raw (String.ofList text)]

/-- The arguments, each followed by the text behind its slot. -/
def fillTail : List Expr → List (List Char) → List Token
  | arg :: args, text :: texts => arg.token :: (rawTokens text ++ fillTail args texts)
  | _, _ => []

/-- The tokens of the template with its slots filled in order. -/
def fill (template : Template) (args : List Expr) : List Token :=
  rawTokens template.head ++ fillTail args template.tail

end Template

namespace Expr

/-- The expression of the given kind that a template and its arguments make. There has to be one
argument for each slot. -/
def construct (kind : ExprKind) (template : String) (args : List Expr) : Outcome Expr :=
  let parsed := Template.parse template.toList
  if parsed.tail.length = args.length then
    .ok ⟨kind, parsed.fill args⟩
  else
    .error (.template (.slotMismatch template parsed.tail.length args.length))

/-- A template of `count` slots with `separator` between them. -/
def slots (count : Nat) (separator : String) : String :=
  Text.joinWith separator (List.replicate count slot)

/-- The expressions with `separator` between each two, such as `a, b, c`. -/
def join (exprs : List Expr) (separator : String) : Outcome Expr :=
  construct .regular (slots exprs.length separator) exprs

/-- The expression under another name, as a select list writes it. -/
def aliased (e : Expr) (name : String) : Outcome Expr :=
  construct .regular (slot ++ " as " ++ slot) [e, .identifier name]

end Expr

end QueryFrame
