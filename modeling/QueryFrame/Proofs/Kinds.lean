import QueryFrame.Proofs.Outcome
import QueryFrame.Proofs.Templates

/-!
# What a construction computes

The text of a template never collapses rows and holds no window function. So an expression of no
particular kind that fills a template holds an aggregate exactly when one of its arguments does,
and a window function likewise (`Expr.hasAggregate_of_construct`, `Expr.hasWindow_of_construct`).
A construction that is an aggregate collapses the rows, and a call over a window keeps them
(`Expr.kinds_of_aggregate`, `Window.kinds_of_apply`).

An expression with neither is *rowwise*: it computes a value for each row from that row alone.
-/

namespace QueryFrame

theorem Token.anyAggregate_append (left right : List Token) :
    Token.anyAggregate (left ++ right) = (Token.anyAggregate left || Token.anyAggregate right) := by
  induction left with
  | nil => rfl
  | cons token rest ih =>
    rw [List.cons_append, Token.anyAggregate, ih, Token.anyAggregate, Bool.or_assoc]

theorem Token.anyWindow_append (left right : List Token) :
    Token.anyWindow (left ++ right) = (Token.anyWindow left || Token.anyWindow right) := by
  induction left with
  | nil => rfl
  | cons token rest ih => rw [List.cons_append, Token.anyWindow, ih, Token.anyWindow, Bool.or_assoc]

namespace Template

theorem anyAggregate_rawTokens (text : List Char) :
    Token.anyAggregate (rawTokens text) = false := by
  cases text <;> rfl

theorem anyWindow_rawTokens (text : List Char) : Token.anyWindow (rawTokens text) = false := by
  cases text <;> rfl

/-- Rows collapse in a filled template when they do in one of its arguments. -/
theorem anyAggregate_fillTail {args : List Expr} {texts : List (List Char)}
    (h : texts.length = args.length) :
    Token.anyAggregate (fillTail args texts) = args.any Expr.hasAggregate := by
  induction args generalizing texts with
  | nil => rfl
  | cons arg args ih =>
    cases texts with
    | nil => cases h
    | cons text texts =>
      rw [fillTail, Token.anyAggregate, Token.anyAggregate_append, anyAggregate_rawTokens,
        ih (Nat.succ.inj h), List.any_cons, Bool.false_or]
      rfl

/-- A filled template holds a window function when one of its arguments does. -/
theorem anyWindow_fillTail {args : List Expr} {texts : List (List Char)}
    (h : texts.length = args.length) :
    Token.anyWindow (fillTail args texts) = args.any Expr.hasWindow := by
  induction args generalizing texts with
  | nil => rfl
  | cons arg args ih =>
    cases texts with
    | nil => cases h
    | cons text texts =>
      rw [fillTail, Token.anyWindow, Token.anyWindow_append, anyWindow_rawTokens,
        ih (Nat.succ.inj h), List.any_cons, Bool.false_or]
      rfl

section Fill

variable {template : Template} {args : List Expr} (h : template.tail.length = args.length)

include h

theorem anyAggregate_fill :
    Token.anyAggregate (fill template args) = args.any Expr.hasAggregate := by
  rw [fill, Token.anyAggregate_append, anyAggregate_rawTokens, anyAggregate_fillTail h,
    Bool.false_or]

theorem anyWindow_fill : Token.anyWindow (fill template args) = args.any Expr.hasWindow := by
  rw [fill, Token.anyWindow_append, anyWindow_rawTokens, anyWindow_fillTail h, Bool.false_or]

end Fill

end Template

namespace Expr

/-- **Aggregates of a construction** are those of its arguments. -/
theorem hasAggregate_of_construct {template : String} {args : List Expr} {e : Expr}
    (h : construct .regular template args = .ok e) :
    e.hasAggregate = args.any hasAggregate := by
  obtain ⟨hlength, rfl⟩ := construct_eq_ok h
  exact Template.anyAggregate_fill hlength

/-- **Window functions of a construction** are those of its arguments. -/
theorem hasWindow_of_construct {template : String} {args : List Expr} {e : Expr}
    (h : construct .regular template args = .ok e) : e.hasWindow = args.any hasWindow := by
  obtain ⟨hlength, rfl⟩ := construct_eq_ok h
  exact Template.anyWindow_fill hlength

/-- A construction that is an aggregate collapses rows, and holds the window functions of its
arguments. -/
theorem kinds_of_aggregate {template : String} {args : List Expr} {e : Expr}
    (h : construct .aggregate template args = .ok e) :
    e.hasAggregate = true ∧ e.hasWindow = args.any hasWindow := by
  obtain ⟨hlength, rfl⟩ := construct_eq_ok h
  exact ⟨rfl, Template.anyWindow_fill hlength⟩

/-- One that is computed over a window keeps the rows, whatever its arguments are. -/
theorem kinds_of_window {template : String} {args : List Expr} {e : Expr}
    (h : construct .window template args = .ok e) :
    e.hasAggregate = false ∧ e.hasWindow = true := by
  obtain ⟨-, rfl⟩ := construct_eq_ok h
  exact ⟨rfl, rfl⟩

/-- A value for each row, from that row alone: neither an aggregate nor a window function. -/
structure Rowwise (e : Expr) : Prop where
  /-- no rows collapse -/
  aggregate : e.hasAggregate = false
  /-- no other rows are looked at -/
  window : e.hasWindow = false

theorem rowwise_column (name : String) : (column name).Rowwise :=
  ⟨rfl, rfl⟩

/-- The parts of a rowwise construction are rowwise. -/
theorem Rowwise.of_construct {template : String} {args : List Expr} {e : Expr} (he : e.Rowwise)
    (h : construct .regular template args = .ok e) : ∀ arg ∈ args, arg.Rowwise := by
  intro arg harg
  obtain ⟨haggregate, hwindow⟩ := he
  rw [hasAggregate_of_construct h] at haggregate
  rw [hasWindow_of_construct h] at hwindow
  exact ⟨Bool.eq_false_iff.mpr (List.any_eq_false.mp haggregate arg harg),
    Bool.eq_false_iff.mpr (List.any_eq_false.mp hwindow arg harg)⟩

/-- A construction that is an aggregate is not rowwise, whatever its arguments are. -/
theorem not_rowwise_of_aggregate {template : String} {args : List Expr} {e : Expr}
    (h : construct .aggregate template args = .ok e) : ¬ e.Rowwise := by
  rintro ⟨haggregate, -⟩
  rw [(kinds_of_aggregate h).1] at haggregate
  cases haggregate

end Expr

/-- A call over a window keeps the rows and looks at others. -/
theorem Window.kinds_of_apply {w : Window} {call e : Expr} (h : w.apply call = .ok e) :
    e.hasAggregate = false ∧ e.hasWindow = true := by
  obtain ⟨clause, -, h⟩ := Outcome.bind_eq_ok h
  split at h
  · exact Expr.kinds_of_window h
  · exact Expr.kinds_of_window h

/-- So it is not rowwise. -/
theorem Window.not_rowwise_of_apply {w : Window} {call e : Expr} (h : w.apply call = .ok e) :
    ¬ e.Rowwise := by
  rintro ⟨-, hwindow⟩
  rw [(kinds_of_apply h).2] at hwindow
  cases hwindow

end QueryFrame
