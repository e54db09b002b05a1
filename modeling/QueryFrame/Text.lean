/-!
# Text

Operations on text that the rest of the library shares: joining texts with a separator, naming
something in a sentence, and comparing names without regard to the case of ASCII letters.
-/

namespace QueryFrame.Text

/-- The texts in order, with `separator` between each two neighbours. -/
def joinWith (separator : String) : List String → String
  | [] => ""
  | [text] => text
  | text :: rest => text ++ separator ++ joinWith separator rest

@[simp] theorem joinWith_nil (separator : String) : joinWith separator [] = "" := rfl

@[simp] theorem joinWith_singleton (separator text : String) :
    joinWith separator [text] = text := rfl

/-- Every text but the last is followed by the separator. -/
theorem joinWith_cons_cons (separator first second : String) (rest : List String) :
    joinWith separator (first :: second :: rest) =
      first ++ separator ++ joinWith separator (second :: rest) := rfl

/-- `text` between single quotes, as a sentence mentions a name. -/
def quoted (text : String) : String :=
  "'" ++ text ++ "'"

/-- Whether two names agree up to the case of ASCII letters. Other letters have to agree
exactly. -/
def sameName (left right : String) : Bool :=
  left.toLower = right.toLower

end QueryFrame.Text
