import QueryFrame.Proofs.Operations
import QueryFrame.Proofs.ReadBack
import QueryFrame.Proofs.Vocabulary
import QueryFrame.Sample

/-!
# Comparisons can be read back

A comparison of comparisons is a tree: its inner nodes are operators, and at its leaves stand
columns and, on the right of an operator only, literals. As SQL it is a text with parentheses around
each operand, where names and strings may hold parentheses, operators and quotes themselves.

`Comparand.read?` is a reader of such texts. It looks at one character to see what begins there,
reads quoted tokens to their closing mark, whatever they hold, and an operator up to the next blank,
so that of `<` and `<=` the right one is found. It does not have to know whether columns are
qualified.

The induction is on the tree, with what follows its text left open: it is empty or starts with the
parenthesis that closes an operand (`Closes`), and that is enough to see where a leaf ends.
-/

namespace QueryFrame

open Number

/-! ## Trees of comparisons -/

/-- A literal that is written without loss. -/
inductive Scalar where
  | int (value : Int64)
  | bool (value : Bool)
  | string (value : String)
  deriving DecidableEq

namespace Scalar

/-- The value as a literal. -/
def literal : Scalar → Literal
  | .int value => .int value
  | .bool value => .bool value
  | .string value => .string value

/-- The value as an expression. -/
def expr : Scalar → Expr
  | .int value => .constant (Decimal.ofInt value.toInt)
  | .bool true => .constant "true"
  | .bool false => .constant "false"
  | .string value => .string value

theorem expr_literal (value : Scalar) : value.literal.expr = .ok value.expr := by
  cases value with
  | bool value => cases value <;> rfl
  | _ => rfl

end Scalar

/-- What is compared: a column, a literal, or the outcome of a comparison. -/
inductive Comparand where
  | column (name : String)
  | scalar (value : Scalar)
  | compared (op : Comparison) (left right : Comparand)
  deriving DecidableEq

namespace Comparand

/-- The expression that computes a comparand. -/
def expr : Comparand → Expr
  | .column name => .column name
  | .scalar value => value.expr
  | .compared op left right =>
    .ofTokens [.raw "(", left.expr.token, .raw (") " ++ op.symbol ++ " ("), right.expr.token,
      .raw ")"]

/-- The series that come from columns of a relation by comparisons, with one another and with
literals, and the trees of what was compared. -/
inductive Yields (relation : Relation) : Comparand → Series → Prop
  | column (name : String) (dtype : DataType) :
      Yields relation (.column name) (.ofColumn relation name dtype)
  | compare {left right : Comparand} {op : Comparison} {s t next : Series}
      (hs : Yields relation left s) (ht : Yields relation right t)
      (h : s.compare op t = .ok next) : Yields relation (.compared op left right) next
  | compareLiteral {left : Comparand} {op : Comparison} {value : Scalar} {s next : Series}
      (hs : Yields relation left s) (h : s.compareLiteral op value.literal = .ok next) :
      Yields relation (.compared op left (.scalar value)) next

/-- The expression of a comparison, from those of its operands. -/
theorem expr_of_comparedWith {s next : Series} {op : Comparison} {other : Expr}
    (h : s.comparedWith op other = .ok next) :
    next.expr = .ofTokens [.raw "(", s.expr.token, .raw (") " ++ op.symbol ++ " ("), other.token,
      .raw ")"] := by
  obtain ⟨expr, hexpr, rfl⟩ := Series.comparedWith_eq_ok h
  obtain ⟨-, rfl⟩ := Expr.construct_eq_ok hexpr
  cases op <;> rfl

/-- **The tree says what is computed.** -/
theorem Yields.expr_eq {relation : Relation} {tree : Comparand} {s : Series}
    (h : tree.Yields relation s) : s.expr = tree.expr := by
  induction h with
  | column => rfl
  | compare _ _ h hs ht =>
    rw [expr_of_comparedWith (Series.compare_eq_ok h), hs, ht, expr]
  | @compareLiteral _ _ value _ _ _ h hs =>
    obtain ⟨other, hother, h⟩ := Series.compareLiteral_eq_ok h
    rw [Scalar.expr_literal] at hother
    obtain rfl := Except.ok.inj hother
    rw [expr_of_comparedWith h, hs, expr, expr]

/-- The text of a comparand, followed by `rest`. -/
def textOnto (target : Target) (tree : Comparand) (rest : List Char) : List Char :=
  tree.expr.token.renderOnto target rest

theorem textOnto_eq (target : Target) (tree : Comparand) (rest : List Char) :
    tree.textOnto target rest = tree.textOnto target [] ++ rest :=
  Token.renderOnto_eq target _ rest

/-- The operands stand in parentheses, with the operator between them. -/
theorem textOnto_compared (target : Target) (op : Comparison) (left right : Comparand)
    (rest : List Char) :
    (compared op left right).textOnto target rest =
      '(' :: left.textOnto target (')' :: ' ' :: (op.symbol.toList ++
        ' ' :: '(' :: right.textOnto target (')' :: rest))) := by
  cases op <;> rfl

end Comparand

/-! ## Reading tokens -/

/-- The content of a token, and what follows it. -/
def QuoteStyle.readToken (style : QuoteStyle) : List Char → Option (List Char × List Char)
  | [] => none
  | c :: rest =>
    if c = style.mark then
      (style.cut rest).map fun (body, later) => (style.unescape body, later)
    else none

/-- **A quoted token is read whole**, whatever it holds. -/
theorem QuoteStyle.readToken_quoteOnto (style : QuoteStyle) (text : List Char) {rest : List Char}
    (hends : style.Ends rest) :
    style.readToken (style.quoteOnto text rest) = some (text, rest) := by
  rw [quoteOnto, readToken, if_pos rfl, style.cut_body text hends]
  simp [unescape_body]

/-- Whether an operand ends where `rest` begins: with the text, or with a closing parenthesis. -/
def Closes (rest : List Char) : Prop :=
  ∀ c ∈ rest.head?, c = ')'

theorem closes_parenthesis (rest : List Char) : Closes (')' :: rest) := by
  intro c hc
  exact (Option.some.inj hc).symm

/-- Where an operand ends, a quoted token does. -/
theorem Closes.ends {rest : List Char} (h : Closes rest) {style : QuoteStyle}
    (hstyle : isQuote style.mark = true) : style.Ends rest := by
  intro _ hhead
  rw [h style.mark hhead] at hstyle
  cases hstyle

/-- A column, whether it is qualified or not, and what follows it. -/
def readColumn (family : Family) (text : List Char) : Option (String × List Char) := do
  let (first, rest) ← family.nameQuotes.readToken text
  let (name, rest) ←
    if rest.head? = some '.' then family.nameQuotes.readToken rest.tail else some (first, rest)
  some (String.ofList name, rest)

/-- **A column is read by its name**, with the alias of a table in front or without. -/
theorem readColumn_renderOnto (target : Target) (name : String) {rest : List Char}
    (hrest : Closes rest) :
    readColumn target.family ((Token.column name).renderOnto target rest) = some (name, rest) := by
  have hmark := Family.isQuote_nameQuotes target.family
  have htoken := QuoteStyle.readToken_quoteOnto _ name.toList (hrest.ends hmark)
  have hdot : rest.head? ≠ some '.' := fun hhead => absurd (hrest '.' hhead) (by decide)
  rw [Token.renderOnto, Target.qualifyOnto, readColumn]
  cases target.table with
  | none => simp [htoken, hdot]
  | some table =>
    have hends : target.family.nameQuotes.Ends
        ('.' :: target.family.nameQuotes.quoteOnto name.toList rest) := by
      intro _ hhead
      rw [← Option.some.inj hhead] at hmark
      cases hmark
    simp [QuoteStyle.readToken_quoteOnto _ table.toList hends, htoken]

/-- A whole number, and what follows it. -/
def readInt (text : List Char) : Option (Int × List Char) :=
  if text.head? = some '-' then
    (Decimal.readDigits text.tail).map fun (run, later) => (-Decimal.value run, later)
  else (Decimal.readDigits text).map fun (run, later) => (Decimal.value run, later)

/-- **A whole number is read with its sign.** -/
theorem readInt_signed (n : Int) {rest : List Char} (hrest : Closes rest) :
    readInt (Decimal.signed n ++ rest) = some (n, rest) := by
  have hdigit : ∀ c ∈ rest.head?, Decimal.isDigit c = false := by
    intro c hc
    rw [hrest c hc]
    decide
  cases n with
  | ofNat n =>
    have hhead : (Decimal.digits n ++ rest).head? ≠ some '-' := by
      obtain ⟨c, hhead, hc, -⟩ := Decimal.exists_head_digits n rest
      rw [hhead]
      rintro ⟨⟩
      exact absurd hc (by decide)
    rw [Decimal.signed, readInt, if_neg hhead, Decimal.readDigits_digits n hdigit]
    simp [Decimal.value_digits]
  | negSucc n =>
    rw [Decimal.signed, List.cons_append, readInt, List.head?_cons, if_pos rfl, List.tail_cons,
      Decimal.readDigits_digits (n + 1) hdigit]
    simp [Decimal.value_digits, Int.negSucc_eq]

/-- A truth value, and what follows it. -/
def readBool : List Char → Option (Bool × List Char)
  | 't' :: 'r' :: 'u' :: 'e' :: rest => some (true, rest)
  | 'f' :: 'a' :: 'l' :: 's' :: 'e' :: rest => some (false, rest)
  | _ => none

/-- A leaf of a comparison, and what follows it. The first character says what it is. -/
def readLeaf (family : Family) (text : List Char) : Option (Comparand × List Char) :=
  if text.head? = some family.nameQuotes.mark then
    (readColumn family text).map fun (name, later) => (.column name, later)
  else if text.head? = some family.stringQuotes.mark then
    (family.stringQuotes.readToken text).map fun (value, later) =>
      (.scalar (.string (String.ofList value)), later)
  else if text.head? = some 't' ∨ text.head? = some 'f' then
    (readBool text).map fun (value, later) => (.scalar (.bool value), later)
  else (readInt text).map fun (value, later) => (.scalar (.int (.ofInt value)), later)

/-- An operator up to the next blank, and what follows it. -/
def readOperator (text : List Char) : Option (Comparison × List Char) :=
  (Comparison.ofSymbol? (String.ofList (text.takeWhile (· ≠ ' ')))).map fun op =>
    (op, text.dropWhile (· ≠ ' '))

theorem readOperator_symbol (op : Comparison) (rest : List Char) :
    readOperator (op.symbol.toList ++ ' ' :: rest) = some (op, ' ' :: rest) := by
  cases op <;> rfl

/-- What follows the expected characters, if the text begins with them. -/
def expect : List Char → List Char → Option (List Char)
  | [], text => some text
  | c :: expected, d :: text => if c = d then expect expected text else none
  | _ :: _, [] => none

namespace Comparand

/-- A comparand, and what follows it. There has to be fuel for each parenthesis that is opened. -/
def readOnto (family : Family) : Nat → List Char → Option (Comparand × List Char)
  | 0, _ => none
  | fuel + 1, '(' :: text => do
    let (left, text) ← readOnto family fuel text
    let text ← expect [')', ' '] text
    let (op, text) ← readOperator text
    let text ← expect [' ', '('] text
    let (right, text) ← readOnto family fuel text
    let text ← expect [')'] text
    some (.compared op left right, text)
  | _ + 1, text => readLeaf family text

/-- The comparand that a whole text is. -/
def read? (family : Family) (text : String) : Option Comparand := do
  let (tree, rest) ← readOnto family (text.length + 1) text.toList
  if rest.isEmpty then some tree else none

/-- A text that does not begin with a parenthesis is a leaf. -/
theorem readOnto_leaf {family : Family} {fuel : Nat} {text rest : List Char} {leaf : Comparand}
    (hfuel : text.length < fuel) (hhead : text.head? ≠ some '(')
    (hleaf : readLeaf family text = some (leaf, rest)) :
    readOnto family fuel text = some (leaf, rest) := by
  obtain ⟨fuel, rfl⟩ := Nat.exists_eq_add_one_of_ne_zero (Nat.ne_zero_of_lt hfuel)
  rw [readOnto, hleaf]
  rintro later rfl
  exact hhead rfl

variable (target : Target) {rest : List Char}

/-- A column begins with the mark of names. -/
theorem readLeaf_column (name : String) (hrest : Closes rest) :
    ((column name).textOnto target rest).head? ≠ some '(' ∧
      readLeaf target.family ((column name).textOnto target rest) = some (.column name, rest) := by
  have hhead : ((column name).textOnto target rest).head? = some target.family.nameQuotes.mark :=
    @Leaf.head?_renderOnto target (.column name) _ rfl rest
  have hread : readColumn target.family ((column name).textOnto target rest) = some (name, rest) :=
    readColumn_renderOnto target name hrest
  have hopening : some target.family.nameQuotes.mark ≠ some '(' := by
    cases target.family <;> decide
  rw [readLeaf, hhead, if_pos rfl, hread]
  exact ⟨hopening, rfl⟩

/-- A string begins with the mark of strings, which is another one. -/
theorem readLeaf_string (value : String) (hrest : Closes rest) :
    ((scalar (.string value)).textOnto target rest).head? ≠ some '(' ∧
      readLeaf target.family ((scalar (.string value)).textOnto target rest) =
        some (.scalar (.string value), rest) := by
  have hmark := Family.isQuote_stringQuotes target.family
  have hread := QuoteStyle.readToken_quoteOnto _ value.toList (hrest.ends hmark)
  have htext : (scalar (.string value)).textOnto target rest =
      target.family.stringQuotes.quoteOnto value.toList rest := rfl
  have hhead : (target.family.stringQuotes.quoteOnto value.toList rest).head? =
      some target.family.stringQuotes.mark := rfl
  have hopening : some target.family.stringQuotes.mark ≠ some '(' := by
    cases target.family <;> decide
  have hname : some target.family.stringQuotes.mark ≠ some target.family.nameQuotes.mark := by
    cases target.family <;> decide
  rw [htext, readLeaf, hhead, if_neg hname, if_pos rfl, hread]
  exact ⟨hopening, by simp⟩

/-- A truth value is one of two words. -/
theorem readLeaf_bool (value : Bool) :
    ((scalar (.bool value)).textOnto target rest).head? ≠ some '(' ∧
      readLeaf target.family ((scalar (.bool value)).textOnto target rest) =
        some (.scalar (.bool value), rest) := by
  obtain ⟨family, table⟩ := target
  have hopening : some 't' ≠ some '(' ∧ some 'f' ≠ some '(' := by decide
  cases value with
  | true => cases family <;> exact ⟨hopening.1, rfl⟩
  | false => cases family <;> exact ⟨hopening.2, rfl⟩

/-- A whole number begins with a digit or its sign. -/
theorem readLeaf_int (value : Int64) (hrest : Closes rest) :
    ((scalar (.int value)).textOnto target rest).head? ≠ some '(' ∧
      readLeaf target.family ((scalar (.int value)).textOnto target rest) =
        some (.scalar (.int value), rest) := by
  have htext : (scalar (.int value)).textOnto target rest =
      Decimal.signed value.toInt ++ rest := by
    change (String.ofList (Decimal.signed value.toInt)).toList ++ rest = _
    rw [String.toList_ofList]
  obtain ⟨c, hhead, hc⟩ := exists_numeral_of_signed value.toInt rest
  -- none of the characters that something else begins with occurs in a number
  have hne : ∀ other, isNumeral other = false → some c ≠ some other := by
    rintro other hother ⟨⟩
    rw [hother] at hc
    cases hc
  have hname : isNumeral target.family.nameQuotes.mark = false := by
    cases target.family <;> decide
  have hstring : isNumeral target.family.stringQuotes.mark = false := by
    cases target.family <;> decide
  have hword : ¬ (some c = some 't' ∨ some c = some 'f') :=
    not_or.mpr ⟨hne 't' (by decide), hne 'f' (by decide)⟩
  rw [htext, readLeaf, hhead, if_neg (hne _ hname), if_neg (hne _ hstring), if_neg hword,
    readInt_signed value.toInt hrest]
  exact ⟨hne '(' (by decide), by simp⟩

/-- **A comparand is read as what it is**, wherever its text ends. The induction is on the tree: the
text behind each operand begins with the parenthesis that closes it. -/
theorem readOnto_textOnto (tree : Comparand) :
    ∀ {fuel : Nat} {rest : List Char}, Closes rest → (tree.textOnto target rest).length < fuel →
      readOnto target.family fuel (tree.textOnto target rest) = some (tree, rest) := by
  induction tree with
  | column name =>
    intro fuel rest hrest hfuel
    obtain ⟨hhead, hread⟩ := readLeaf_column target name hrest
    exact readOnto_leaf hfuel hhead hread
  | scalar value =>
    intro fuel rest hrest hfuel
    obtain ⟨hhead, hread⟩ : ((scalar value).textOnto target rest).head? ≠ some '(' ∧
        readLeaf target.family ((scalar value).textOnto target rest) =
          some (.scalar value, rest) := by
      cases value with
      | int value => exact readLeaf_int target value hrest
      | bool value => exact readLeaf_bool target value
      | string value => exact readLeaf_string target value hrest
    exact readOnto_leaf hfuel hhead hread
  | compared op left right ihleft ihright =>
    intro fuel rest hrest hfuel
    obtain ⟨fuel, rfl⟩ := Nat.exists_eq_add_one_of_ne_zero (Nat.ne_zero_of_lt hfuel)
    rw [textOnto_compared] at hfuel ⊢
    generalize htail : right.textOnto target (')' :: rest) = tail at hfuel ⊢
    have hright : tail.length < fuel := by
      rw [textOnto_eq] at hfuel
      simp only [List.length_cons, List.length_append] at hfuel
      omega
    have hleft := ihleft (closes_parenthesis (' ' :: (op.symbol.toList ++ ' ' :: '(' :: tail)))
      (Nat.lt_of_succ_lt_succ hfuel)
    subst htail
    simp [readOnto, hleft, expect, readOperator_symbol, ihright (closes_parenthesis rest) hright]

/-- **The text of a comparand is read as the comparand.** -/
theorem read?_render (tree : Comparand) :
    read? target.family (String.ofList (tree.expr.render target)) = some tree := by
  have hclosed : Closes [] := fun _ hc => by cases hc
  have hread := tree.readOnto_textOnto target hclosed (Nat.lt_succ_self _)
  have htext : tree.textOnto target [] = tree.expr.render target := rfl
  rw [htext] at hread
  rw [read?, String.length_ofList, String.toList_ofList, hread]
  rfl

/-- **Comparisons are unambiguous.** In a dialect that has a family, with or without a table to
qualify columns, every series that comes from columns by comparisons has a text, and that text is
read back as the tree of what was compared: the operators, the order of operands, the names of
columns and the values of literals. So whatever has the same text, be it with another table, has the
same tree and the same expression. -/
theorem read?_toSql {d : Dialect} {family : Family} (hd : d.family = .ok family)
    (table : Option String) {relation : Relation} {tree : Comparand} {s : Series}
    (h : tree.Yields relation s) :
    ∃ sql, s.expr.toSql d table = .ok sql ∧ read? family sql = some tree ∧
      ∀ other t table', Yields relation other t → t.expr.toSql d table' = .ok sql →
        other = tree ∧ t.expr = s.expr := by
  have hsql : ∀ {other t table}, Yields relation other t →
      t.expr.toSql d table = .ok (String.ofList (other.expr.render ⟨family, table⟩)) := by
    intro other t table ht
    rw [Expr.toSql, hd, ht.expr_eq]
    rfl
  refine ⟨_, hsql h, read?_render ⟨family, table⟩ tree, fun other t table' ht hsame => ?_⟩
  rw [hsql ht, Except.ok.injEq] at hsame
  have htree : other = tree := by
    have hread := read?_render ⟨family, table'⟩ other
    rw [hsame, read?_render ⟨family, table⟩ tree] at hread
    exact (Option.some.inj hread).symm
  rw [ht.expr_eq, h.expr_eq, htree]
  exact ⟨rfl, rfl⟩

/-- Names and a string that look like the text of a comparison, in both families. -/
theorem read?_toSql_hostile :
    let left : Comparand := .compared .notEqual (.column "a\") <> (\"b") (.column "true) = (1")
    let right : Comparand :=
      .compared .lessEqual (.column "\x60) < (") (.scalar (.string "') = ('\\"))
    let both : Comparand := .compared .greater left right
    let tree : Comparand := .compared .equal both (.scalar (.bool false))
    ∃ s, tree.Yields Sample.relation s ∧
      (∃ sql, s.expr.toSql .postgres none = .ok sql ∧ read? .rowStore sql = some tree) ∧
      ∃ sql, s.expr.toSql .bigQuery (some "t") = .ok sql ∧
        read? .columnarAnalytics sql = some tree := by
  intro left right both tree
  let outcome (name : String) (tree : Comparand) : Series :=
    { Series.ofColumn Sample.relation name .bool with expr := tree.expr }
  have hleft : left.Yields Sample.relation (outcome "a\") <> (\"b" left) :=
    .compare (.column _ .string) (.column _ .string) (by decide +kernel)
  have hright : right.Yields Sample.relation (outcome "\x60) < (" right) :=
    .compareLiteral (.column _ .string) (by decide +kernel)
  have hboth : both.Yields Sample.relation (outcome "a\") <> (\"b" both) :=
    .compare hleft hright (by decide +kernel)
  have htree : tree.Yields Sample.relation (outcome "a\") <> (\"b" tree) :=
    .compareLiteral hboth (by decide +kernel)
  have hrow : Dialect.postgres.family = .ok .rowStore := rfl
  have hcolumnar : Dialect.bigQuery.family = .ok .columnarAnalytics := rfl
  obtain ⟨plain, hplain, hread, -⟩ := read?_toSql hrow none htree
  obtain ⟨qualified, hqualified, hread', -⟩ := read?_toSql hcolumnar (some "t") htree
  exact ⟨_, htree, ⟨plain, hplain, hread⟩, qualified, hqualified, hread'⟩

end Comparand

end QueryFrame
