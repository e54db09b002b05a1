import QueryFrame.Proofs.Templates

/-!
# What a construction says

An expression that is constructed says what its template says, with the texts of the arguments in
place of the slots, whatever those texts are (`Expr.text_of_construct`). A row of slots says the
texts of the arguments with the separator between them (`Expr.text_of_row`), and so does a join,
whatever its separator (`Expr.text_of_join`).

The columns that a construction refers to are those of its arguments, in the same order
(`Expr.columns_of_construct`).
-/

namespace QueryFrame

/-- The SQL text of an expression. -/
def Expr.text (target : Target) (e : Expr) : String :=
  String.ofList (e.render target)

/-- In a known dialect every expression has its text. -/
theorem Expr.toSql_eq {d : Dialect} {family : Family} (hd : d.family = .ok family) (e : Expr)
    (table : Option String) : e.toSql d table = .ok (e.text ⟨family, table⟩) := by
  rw [toSql, hd, Outcome.ok_bind]
  rfl

/-! ## Filled templates -/

namespace Template

/-- A template with texts in place of its slots: the text before the first slot, and each argument
with the text behind it. -/
def filled (head : String) : List String → List String → String
  | text :: tails, arg :: args => head ++ arg ++ filled text tails args
  | _, _ => head

/-- **A row of slots** is filled with a row of texts. -/
theorem filled_row (before separator after first : String) (rest : List String) :
    filled before (List.replicate rest.length separator ++ [after]) (first :: rest) =
      before ++ separator.intercalate (first :: rest) ++ after := by
  induction rest generalizing before first with
  | nil => rw [String.intercalate_singleton]; rfl
  | cons next rest ih =>
    rw [List.length_cons, List.replicate_succ, List.cons_append, filled, ih,
      String.intercalate_cons_cons]
    simp only [String.append_assoc]

end Template

/-! ## The text of a construction -/

/-- The leaves of an expression say its text, whatever follows. -/
theorem Expr.foldr_leaves (target : Target) (e : Expr) (rest : List Char) :
    e.leaves.foldr (Leaf.renderOnto target) rest = e.render target ++ rest := by
  rw [leaves, ← Token.renderAllOnto_eq_leaves, Token.renderAllOnto_eq]
  rfl

namespace Template

theorem foldr_textLeaves (target : Target) (text : String) (rest : List Char) :
    (textLeaves text).foldr (Leaf.renderOnto target) rest = text.toList ++ rest := by
  rw [textLeaves]
  split
  · next hempty =>
    rw [hempty]
    rfl
  · rfl

/-- The induction is on the arguments, with the text in front of them left open: it moves on to the
text behind the first slot. -/
theorem ofList_foldr_weave (target : Target) {args : List Expr} {tails : List String}
    (h : tails.length = args.length) (head : String) :
    String.ofList ((textLeaves head ++ weave args tails).foldr (Leaf.renderOnto target) []) =
      filled head tails (args.map (Expr.text target)) := by
  induction args generalizing head tails with
  | nil =>
    obtain rfl := List.length_eq_zero_iff.mp h
    have hnone : weave [] [] = [] := rfl
    rw [hnone, List.append_nil, foldr_textLeaves, List.append_nil, String.ofList_toList]
    rfl
  | cons arg args ih =>
    cases tails with
    | nil => cases h
    | cons text tails =>
      rw [List.foldr_append, foldr_textLeaves, weave, List.append_assoc, List.foldr_append,
        Expr.foldr_leaves, String.ofList_append, String.ofList_append, ih (Nat.succ.inj h),
        String.ofList_toList, List.map_cons, filled, Expr.text, String.append_assoc]

end Template

namespace Expr

open Template

variable {kind : ExprKind} {args : List Expr} {e : Expr}

/-- **A construction says what its template says**, with the texts of the arguments in place of the
slots. -/
theorem text_of_parse {template : String} (h : construct kind template args = .ok e)
    (target : Target) :
    e.text target = filled (String.ofList (parse template.toList).head)
      ((parse template.toList).tail.map String.ofList) (args.map (text target)) := by
  rw [text, render_eq_leaves, leaves_of_parse h]
  refine ofList_foldr_weave target ?_ _
  rw [List.length_map, (construct_eq_ok h).1]

theorem text_of_construct {head : String} {tails : List String} (hhead : '{' ∉ head.toList)
    (htails : ∀ text ∈ tails, '{' ∉ text.toList)
    (h : construct kind (spell head tails) args = .ok e) (target : Target) :
    e.text target = filled head tails (args.map (text target)) := by
  rw [text_of_parse h, parse_spell hhead htails, String.ofList_toList, List.map_map,
    String.ofList_comp_toList, List.map_id]

/-- **A row of slots** between two texts says the texts of the arguments with the separator between
each two. -/
theorem text_of_row {before separator after : String} (hbefore : '{' ∉ before.toList)
    (hseparator : '{' ∉ separator.toList) (hafter : '{' ∉ after.toList)
    (h : construct kind (before ++ slots args.length separator ++ after) args = .ok e)
    (target : Target) :
    e.text target = before ++ separator.intercalate (args.map (text target)) ++ after := by
  cases args with
  | nil =>
    have hwhole : '{' ∉ (before ++ after).toList := by
      rw [String.toList_append, List.mem_append, not_or]
      exact ⟨hbefore, hafter⟩
    rw [List.length_nil, slots_zero_eq_spell] at h
    rw [text_of_construct hwhole (List.forall_mem_nil _) h, List.map_nil, String.intercalate_nil,
      String.append_empty]
    rfl
  | cons arg args =>
    have htails : ∀ text ∈ List.replicate args.length separator ++ [after], '{' ∉ text.toList :=
      forall_mem_row hseparator hafter _
    have hrow := filled_row before separator after (arg.text target) (args.map (text target))
    rw [List.length_map] at hrow
    rw [List.length_cons, slots_eq_spell] at h
    rw [text_of_construct hbefore htails h, List.map_cons, hrow]

/-- **A join** says what the expressions say, with the separator between each two as it stands. -/
theorem text_of_join {exprs : List Expr} {separator : String} (h : join exprs separator = .ok e)
    (target : Target) : e.text target = separator.intercalate (exprs.map (text target)) := by
  rw [text_of_parse h]
  cases exprs with
  | nil => rfl
  | cons first rest =>
    have hrow := filled_row "" separator "" (first.text target) (rest.map (text target))
    rw [List.length_map, String.empty_append, String.append_empty] at hrow
    rw [parse_slots_of_join h, List.map_map, String.ofList_comp_toList, List.map_id, List.map_cons,
      ← hrow, String.ofList_nil]

end Expr

/-! ## The columns of a construction -/

theorem Token.allColumns_append (left right : List Token) :
    Token.allColumns (left ++ right) = Token.allColumns left ++ Token.allColumns right := by
  induction left with
  | nil => rfl
  | cons token rest ih =>
    rw [List.cons_append, Token.allColumns, ih, Token.allColumns, List.append_assoc]

namespace Template

theorem allColumns_rawTokens (text : List Char) : Token.allColumns (rawTokens text) = [] := by
  cases text <;> rfl

theorem allColumns_fillTail {args : List Expr} {texts : List (List Char)}
    (h : texts.length = args.length) :
    Token.allColumns (fillTail args texts) = args.flatMap Expr.columns := by
  induction args generalizing texts with
  | nil => rfl
  | cons arg args ih =>
    cases texts with
    | nil => cases h
    | cons text texts =>
      rw [fillTail, Token.allColumns, Token.allColumns_append, allColumns_rawTokens,
        ih (Nat.succ.inj h), List.nil_append, List.flatMap_cons]
      rfl

end Template

/-- **The columns of a construction** are those of its arguments, in order. -/
theorem Expr.columns_of_construct {kind : ExprKind} {template : String} {args : List Expr}
    {e : Expr} (h : construct kind template args = .ok e) :
    e.columns = args.flatMap columns := by
  obtain ⟨hlength, rfl⟩ := construct_eq_ok h
  rw [columns, token, Token.columns, Template.fill, Token.allColumns_append,
    Template.allColumns_rawTokens, Template.allColumns_fillTail hlength, List.nil_append]

end QueryFrame
