import QueryFrame.Dialect.Basic

/-!
# Quoting

A name or a string literal is written between two marks, so that it is always read as one token.
A mark inside it is escaped. Row stores escape a mark by writing it twice, which makes the mark
its own escape character. Columnar engines put a backslash in front, and then a backslash has to
be escaped as well. Both rules are one: whatever is the mark or the escape character gets the
escape character in front.
-/

namespace QueryFrame

/-- How a kind of token is quoted. -/
structure QuoteStyle where
  /-- opens and closes the token -/
  mark : Char
  /-- stands in front of a mark, or of itself, inside the token -/
  escape : Char
  deriving DecidableEq

namespace QuoteStyle

/-- One character of the token. -/
def escaped (style : QuoteStyle) (c : Char) : List Char :=
  if c = style.mark ∨ c = style.escape then [style.escape, c] else [c]

/-- The inside of the token. -/
def body (style : QuoteStyle) (text : List Char) : List Char :=
  text.flatMap style.escaped

/-- The token with its marks, followed by `rest`. -/
def quoteOnto (style : QuoteStyle) (text : List Char) (rest : List Char) : List Char :=
  style.mark :: (style.body text ++ style.mark :: rest)

@[simp] theorem body_nil (style : QuoteStyle) : style.body [] = [] := rfl

@[simp] theorem body_cons (style : QuoteStyle) (c : Char) (text : List Char) :
    style.body (c :: text) = style.escaped c ++ style.body text := rfl

/-- What follows a token has no influence on it. -/
theorem quoteOnto_eq (style : QuoteStyle) (text rest : List Char) :
    style.quoteOnto text rest = style.quoteOnto text [] ++ rest := by
  simp [quoteOnto]

end QuoteStyle

namespace Family

/-- Names stand between double quotes, or between grave accents. -/
def nameQuotes : Family → QuoteStyle
  | .rowStore => ⟨'"', '"'⟩
  | .columnarAnalytics => ⟨'\x60', '\\'⟩

/-- String literals stand between single quotes. -/
def stringQuotes : Family → QuoteStyle
  | .rowStore => ⟨'\'', '\''⟩
  | .columnarAnalytics => ⟨'\'', '\\'⟩

end Family

namespace Dialect

/-- `name` as a single identifier. -/
def quoteName (d : Dialect) (name : String) : Outcome String := do
  let family ← d.family
  pure (String.ofList (family.nameQuotes.quoteOnto name.toList []))

/-- `value` as a string literal. -/
def quoteString (d : Dialect) (value : String) : Outcome String := do
  let family ← d.family
  pure (String.ofList (family.stringQuotes.quoteOnto value.toList []))

end Dialect

end QueryFrame
