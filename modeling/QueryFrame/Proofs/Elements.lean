import QueryFrame.Proofs.Formed
import QueryFrame.Proofs.Parts

/-!
# What a clause groups on

A clause that groups rows is either a row of expressions or opens with some text: `(` for a list of
groupings, or the name of a grouping function. In the first case its parts are what is grouped on,
in the second its parts are clauses themselves. So the *elements* of a clause can be read off its
tokens, without knowing the partition that it was made from (`Expr.elements`).

Every partition has a clause, if perhaps an empty one, and its elements are the expressions of its
columns, or the elements of its members, in order (`Partition.exists_clause`).
-/

namespace QueryFrame

mutual

/-- What a clause, as a token, groups on. A clause that opens with text consists of clauses, any
other of the expressions to group by. -/
def Token.elements : Token → List Expr
  | .nested _ (.raw _ :: rest) => Token.allElements rest
  | .nested _ tokens => tokens.filterMap Token.part?
  | _ => []

/-- What the clauses among the tokens group on. -/
def Token.allElements : List Token → List Expr
  | [] => []
  | token :: rest => token.elements ++ Token.allElements rest

end

theorem Token.allElements_append (left right : List Token) :
    Token.allElements (left ++ right) = Token.allElements left ++ Token.allElements right := by
  induction left with
  | nil => rfl
  | cons token rest ih =>
    rw [List.cons_append, allElements, ih, allElements, List.append_assoc]

namespace Expr

/-- What a clause groups on, in order. -/
def elements (e : Expr) : List Expr :=
  e.token.elements

@[simp] theorem elements_empty : Expr.empty.elements = [] := rfl

theorem allElements_rawTokens (text : List Char) :
    Token.allElements (Template.rawTokens text) = [] := by
  cases text <;> rfl

theorem allElements_fillTail {args : List Expr} {texts : List (List Char)}
    (h : texts.length = args.length) :
    Token.allElements (Template.fillTail args texts) = args.flatMap elements := by
  induction args generalizing texts with
  | nil => rfl
  | cons arg args ih =>
    cases texts with
    | nil => cases h
    | cons text texts =>
      rw [Template.fillTail, Token.allElements, Token.allElements_append, allElements_rawTokens,
        ih (Nat.succ.inj h), List.nil_append, List.flatMap_cons]
      rfl

/-- **A row of expressions** groups on all of them. -/
theorem elements_of_join {exprs : List Expr} {separator : String} {e : Expr}
    (h : join exprs separator = .ok e) : e.elements = exprs := by
  have hparts := parts_of_construct h
  cases exprs with
  | nil =>
    obtain rfl := Except.ok.inj h
    rfl
  | cons first rest =>
    -- no text stands in front of the first slot, so the clause opens with an expression
    have hparse := parse_slots_of_join h
    obtain ⟨hlength, rfl⟩ := construct_eq_ok h
    rw [hparse] at hlength hparts ⊢
    cases htexts : (List.replicate rest.length separator ++ [""]).map String.toList with
    | nil =>
      rw [htexts] at hlength
      cases hlength
    | cons text texts =>
      rw [htexts] at hparts
      exact hparts

/-- **A clause that opens with text** groups on whatever the clauses within do. -/
theorem elements_of_construct {kind : ExprKind} {head : String} {tails : List String}
    {args : List Expr} {e : Expr} (hhead : Word head) (hne : head ≠ "")
    (htails : ∀ text ∈ tails, Word text)
    (h : construct kind (Template.spell head tails) args = .ok e) :
    e.elements = args.flatMap elements := by
  obtain ⟨hlength, rfl⟩ := construct_eq_ok h
  rw [Template.parse_spell (Safe.not_brace (.inr hhead))
    fun text htext => Safe.not_brace (.inr (htails text htext))] at hlength ⊢
  cases hchars : head.toList with
  | nil => exact absurd (String.toList_eq_nil_iff.mp hchars) hne
  | cons c rest => exact allElements_fillTail hlength

end Expr

namespace Columns

variable (columns : Columns)

/-- Columns have a clause, and it groups on their expressions. -/
theorem exists_clause :
    ∃ clause, columns.clause = .ok clause ∧
      (clause.getD .empty).elements = groupExprs columns := by
  rw [clause]
  split
  · next hempty =>
    rw [List.isEmpty_iff.mp hempty]
    exact ⟨none, rfl, rfl⟩
  · obtain ⟨row, hrow⟩ := Expr.exists_join .comma (groupExprs columns)
    refine ⟨some row, ?_, Expr.elements_of_join hrow⟩
    rw [hrow]
    rfl

end Columns

namespace Partition

/-- A grouping function is called on any clause, and groups on the same. -/
theorem exists_wrapClause (function : String) (hfunction : Word (function ++ " ("))
    (hne : function ++ " (" ≠ "") (inner : Option Expr) :
    ∃ clause, wrapClause function inner = .ok clause ∧
      (clause.getD .empty).elements = (inner.getD .empty).elements := by
  cases inner with
  | none => exact ⟨none, rfl, rfl⟩
  | some inner =>
    have hclosing : ∀ text ∈ [")"], Word text := List.forall_mem_singleton.mpr .closing
    obtain ⟨call, hcall⟩ := @Expr.exists_construct_spell .regular (function ++ " (") [")"] [inner]
      (.inr hfunction) (fun text htext => .inr (hclosing text htext)) rfl
    refine ⟨some call, congrArg (Except.map some) hcall, ?_⟩
    have h := Expr.elements_of_construct hfunction hne hclosing hcall
    rwa [List.flatMap_singleton] at h

/-- Clauses can be listed, and the list groups on what each of them does. -/
theorem exists_listClause (clauses : List Expr) :
    ∃ clause, listClause clauses = .ok clause ∧
      (clause.getD .empty).elements = clauses.flatMap Expr.elements := by
  cases clauses with
  | nil => exact ⟨none, rfl, rfl⟩
  | cons first rest =>
    have hopening : Word "(" := .fixed (by decide)
    have htails : ∀ text ∈ List.replicate rest.length "), (" ++ [")"], Word text :=
      Expr.forall_mem_row (.fixed (by decide)) .closing _
    have hlength :
        (List.replicate rest.length "), (" ++ [")"]).length = (first :: rest).length := by
      simp
    obtain ⟨list, hlist⟩ := @Expr.exists_construct_spell .regular "("
      (List.replicate rest.length "), (" ++ [")"]) (first :: rest) (.inr hopening)
      (fun text htext => .inr (htails text htext)) hlength
    refine ⟨some list, ?_, Expr.elements_of_construct hopening (by decide) htails hlist⟩
    rw [listClause, List.length_cons, listTemplate_eq_spell, hlist]
    rfl

/-! ## The clause of a partition -/

mutual

/-- What a partition groups on: the expressions of its columns, or whatever its members group
on. -/
def leafExprs : Partition → List Expr
  | ⟨columns, .plain⟩ | ⟨columns, .cube⟩ | ⟨columns, .rollup⟩ => Columns.groupExprs columns
  | ⟨_, .lists children⟩ | ⟨_, .sets children⟩ => allLeafExprs children
  | ⟨_, .window _⟩ => []

/-- What the members of a list group on. -/
def allLeafExprs : List Partition → List Expr
  | [] => []
  | child :: rest => leafExprs child ++ allLeafExprs rest

end

theorem allLeafExprs_eq_flatMap (children : List Partition) :
    allLeafExprs children = children.flatMap leafExprs := by
  induction children with
  | nil => rfl
  | cons child rest ih => rw [allLeafExprs, ih, List.flatMap_cons]

mutual

/-- **Every partition has a clause**, and the elements of the clause are what it groups on. -/
theorem exists_clause : (p : Partition) →
    ∃ clause, p.clause = .ok clause ∧ (clause.getD .empty).elements = p.leafExprs
  | ⟨columns, .plain⟩ => Columns.exists_clause columns
  | ⟨columns, .cube⟩ => by
    obtain ⟨inner, hinner, helements⟩ := Columns.exists_clause columns
    obtain ⟨clause, hclause, hsame⟩ :=
      exists_wrapClause "cube" (.fixed (by decide)) (by decide) inner
    rw [Partition.clause, hinner]
    exact ⟨clause, hclause, hsame.trans helements⟩
  | ⟨columns, .rollup⟩ => by
    obtain ⟨inner, hinner, helements⟩ := Columns.exists_clause columns
    obtain ⟨clause, hclause, hsame⟩ :=
      exists_wrapClause "rollup" (.fixed (by decide)) (by decide) inner
    rw [Partition.clause, hinner]
    exact ⟨clause, hclause, hsame.trans helements⟩
  | ⟨_, .lists children⟩ => by
    obtain ⟨inner, hinner, helements⟩ := exists_clauses children
    obtain ⟨clause, hclause, hsame⟩ := exists_listClause inner
    rw [Partition.clause, hinner]
    exact ⟨clause, hclause, hsame.trans helements⟩
  | ⟨_, .sets children⟩ => by
    obtain ⟨inner, hinner, helements⟩ := exists_clauses children
    obtain ⟨list, hlist, hsame⟩ := exists_listClause inner
    obtain ⟨clause, hclause, hwrapped⟩ :=
      exists_wrapClause "grouping sets" (.fixed (by decide)) (by decide) list
    rw [Partition.clause, hinner, Outcome.ok_bind, hlist]
    exact ⟨clause, hclause, hwrapped.trans (hsame.trans helements)⟩
  | ⟨_, .window _⟩ => ⟨none, rfl, rfl⟩

theorem exists_clauses : (children : List Partition) →
    ∃ inner, clauses children = .ok inner ∧ inner.flatMap Expr.elements = allLeafExprs children
  | [] => ⟨[], rfl, rfl⟩
  | child :: rest => by
    obtain ⟨first, hfirst, helements⟩ := exists_clause child
    obtain ⟨others, hothers, hrest⟩ := exists_clauses rest
    rw [clauses, hfirst, Outcome.ok_bind, hothers]
    refine ⟨first.getD .empty :: others, rfl, ?_⟩
    rw [List.flatMap_cons, helements, hrest, allLeafExprs]

end

end Partition

end QueryFrame
