import QueryFrame.Proofs.CompositeLevels

/-!
# Grouping on a comparison

A comparison is the left operand with another expression and type, so it keeps the levels. And a
partition looks at the levels first: where there are any it groups on them and not on the
expression. So a comparison of a series without levels is grouped on as it stands, and one of a
composite is not: rows are then put together by the levels of the operand, and the comparison
itself is only found where composites are selected whole (`Series.ComparesTo.groupsOn_iff`).

That the clause says something else can be told from its length. An expression that is at least as
long as the row of its levels (`Series.Covers`), as that of every composite is, is put into
parentheses by a comparison (`Series.ComparesTo.text`).
-/

namespace QueryFrame

/-- What grouping on an expression comes to: the clause says it, and it is all that is selected,
under its name and whether composites are wanted whole or not. -/
structure Partition.GroupsOn (p : Partition) (e : Expr) (name : String) : Prop where
  /-- the clause has the text of the expression -/
  clause : ∃ clause, p.clause = .ok (some clause) ∧ ∀ target, clause.text target = e.text target
  /-- the select list has the expression alone -/
  items : ∃ item, e.aliased name = .ok item ∧ ∀ whole, p.selectItems whole = .ok [item]

/-- An alias tells the expression and the name. -/
theorem Expr.aliased_inj {e e' item : Expr} {name name' : String} (h : e.aliased name = .ok item)
    (h' : e'.aliased name' = .ok item) : e = e' ∧ name = name' := by
  have hparts : [e, .identifier name] = [e', .identifier name'] :=
    (parts_of_construct h).symm.trans (parts_of_construct h')
  obtain ⟨he, hrest⟩ := List.cons.inj hparts
  refine ⟨he, ?_⟩
  injection (List.cons.inj hrest).1 with _ htokens
  injection htokens with htoken
  exact Token.identifier.inj htoken

namespace Series

variable {s r : Series}

/-! ## Comparisons -/

/-- The series that compares another with a series or a literal. -/
inductive ComparesTo (s : Series) : Series → Prop
  | series {op : Comparison} {other r : Series} (h : s.compare op other = .ok r) : ComparesTo s r
  | literal {op : Comparison} {value : Literal} {r : Series}
      (h : s.compareLiteral op value = .ok r) : ComparesTo s r

namespace ComparesTo

/-- Whatever it is compared with, that is an expression in the end. -/
theorem exists_comparedWith (h : s.ComparesTo r) :
    ∃ op other, s.comparedWith op other = .ok r := by
  cases h with
  | series h => exact ⟨_, _, compare_eq_ok h⟩
  | literal h =>
    obtain ⟨other, -, h⟩ := compareLiteral_eq_ok h
    exact ⟨_, other, h⟩

/-- **A comparison keeps all but the expression and the type.** -/
theorem eq_computed (h : s.ComparesTo r) : r = s.computed r.expr .bool := by
  obtain ⟨op, other, h⟩ := h.exists_comparedWith
  obtain ⟨expr, -, rfl⟩ := comparedWith_eq_ok h
  rfl

theorem name_eq (h : s.ComparesTo r) : r.name = s.name := by
  rw [h.eq_computed]
  rfl

theorem levels_eq (h : s.ComparesTo r) : r.levels = s.levels := by
  rw [h.eq_computed]
  rfl

/-- So it is selected level by level as its operand is. -/
theorem levelItems_eq (h : s.ComparesTo r) : r.levelItems = s.levelItems := by
  rw [h.eq_computed]
  rfl

theorem isComposite_eq (h : s.ComparesTo r) : r.isComposite = s.isComposite := by
  rw [isComposite, h.levels_eq]
  rfl

theorem levelExprs_eq (h : s.ComparesTo r) : r.levelExprs = s.levelExprs := by
  rw [levelExprs, h.levels_eq]
  rfl

/-- The operands stand in parentheses, with the operator between them. -/
theorem text (h : s.ComparesTo r) : ∃ op other, ∀ target, r.expr.text target =
    "(" ++ s.expr.text target ++ ") " ++ Comparison.symbol op ++ " (" ++
      Expr.text target other ++ ")" := by
  obtain ⟨op, other, h⟩ := h.exists_comparedWith
  obtain ⟨expr, hexpr, rfl⟩ := comparedWith_eq_ok h
  refine ⟨op, other, fun target => ?_⟩
  have htails : ∀ text ∈ [") " ++ op.symbol ++ " (", ")"], '{' ∉ text.toList :=
    List.forall_mem_cons.mpr ⟨Expr.Safe.not_brace (.inr (.operator op)),
      List.forall_mem_singleton.mpr (Expr.Safe.not_brace (.inr .closing))⟩
  rw [op.template_eq_spell] at hexpr
  have htext := Expr.text_of_construct (Expr.Safe.not_brace (.inr .opening)) htails hexpr target
  rw [computed, htext]
  simp only [List.map_cons, List.map_nil, Template.filled, String.append_assoc]

/-- A comparison is never a column, so it is selected under an alias. -/
theorem selectItem_eq (h : s.ComparesTo r) : r.selectItem = r.expr.aliased r.name := by
  obtain ⟨op, other, hcompared⟩ := h.exists_comparedWith
  obtain ⟨expr, hexpr, rfl⟩ := comparedWith_eq_ok hcompared
  refine if_neg fun hcolumn => ?_
  have hparts := Expr.parts_of_construct hexpr
  have hexpr : expr = .column s.name := hcolumn
  rw [hexpr] at hparts
  cases hparts

end ComparesTo

/-! ## Expressions that cover their levels -/

/-- Whether the expression says at least as much as the levels do. -/
def Covers (s : Series) : Prop :=
  ∀ target, (", ".intercalate (s.levelExprs.map (Expr.text target))).length ≤
    (s.expr.text target).length

/-- That of a composite does, even if levels were lost. -/
theorem covers_composite {relation : Relation} {name : String} {dtype : DataType}
    {levels : List Series} (h : composite relation name dtype levels = .ok s) : s.Covers := by
  intro target
  have hrow := @Text.length_intercalate_le ", " _ _ (subperm_levelTexts h target)
  rw [(expr_of_composite h).2, rowText]
  simp only [String.length_append]
  omega

/-- Comparing makes the expression longer, and leaves the levels. -/
theorem ComparesTo.covers (h : s.ComparesTo r) (hs : s.Covers) (target : Target) :
    (", ".intercalate (r.levelExprs.map (Expr.text target))).length <
      (r.expr.text target).length := by
  obtain ⟨op, other, htext⟩ := h.text
  have hrow := hs target
  have hopening : "(".length = 1 := rfl
  rw [h.levelExprs_eq, htext]
  simp only [String.length_append]
  omega

/-! ## Grouping -/

/-- What grouping on a comparison of a composite comes to. -/
structure ComparesTo.GroupsOnOperand (s r : Series) (p : Partition) : Prop where
  /-- the clause is a row of the levels of the operand -/
  clause : p.GroupsBy s.levelExprs
  /-- it never says the comparison, where the operand says at least as much as its levels -/
  apart : s.Covers → ∀ clause, p.clause = .ok (some clause) →
    ∀ target, clause.text target ≠ r.expr.text target
  /-- the levels are selected, as for the operand -/
  items : p.selectItems false = s.levelItems
  /-- and the comparison if composites are wanted whole -/
  whole : ∃ item, r.expr.aliased r.name = .ok item ∧ p.selectItems true = .ok [item]

variable {p : Partition}

/-- A comparison without levels is grouped on. -/
theorem ComparesTo.groupsOn (h : s.ComparesTo r) (hsingle : s.isComposite = false)
    (hgroup : Partition.groupBy [r] = .ok p) : p.GroupsOn r.expr r.name := by
  rw [← h.isComposite_eq] at hsingle
  have hexprs : r.groupExprs = [r.expr] := by
    rw [groupExprs, hsingle]
    rfl
  obtain ⟨clause, hclause, -, htext⟩ := Partition.groupsBy_of_groupBy hgroup
  obtain ⟨item, hitem⟩ := r.expr.exists_aliased r.name
  refine ⟨⟨clause, hclause, fun target => ?_⟩, item, hitem, fun whole => ?_⟩
  · rw [htext, hexprs, List.map_singleton, String.intercalate_singleton]
  · rw [Partition.selectItems_of_groupBy hgroup, ownItems, hsingle, h.selectItem_eq, hitem]
    rfl

/-- With levels, those of the operand are. -/
theorem ComparesTo.groupsOnOperand (h : s.ComparesTo r) (hlevels : s.isComposite = true)
    (hgroup : Partition.groupBy [r] = .ok p) : GroupsOnOperand s r p := by
  have hcomposite := hlevels
  rw [← h.isComposite_eq] at hcomposite
  have hexprs : r.groupExprs = s.levelExprs := by
    rw [groupExprs, hcomposite, h.levelExprs_eq]
    rfl
  have hclause := Partition.groupsBy_of_groupBy hgroup
  obtain ⟨item, hitem⟩ := r.expr.exists_aliased r.name
  rw [hexprs] at hclause
  refine ⟨hclause, fun hcovers clause hown target heq => ?_, ?_, item, hitem, ?_⟩
  · -- the comparison is longer than a row of the levels
    obtain ⟨row, hrow, -, htext⟩ := hclause
    obtain rfl : row = clause := Option.some.inj (Except.ok.inj (hrow.symm.trans hown))
    have hlonger := h.covers hcovers target
    rw [h.levelExprs_eq, ← htext, heq] at hlonger
    exact Nat.lt_irrefl _ hlonger
  · rw [Partition.selectItems_of_groupBy hgroup, ownItems, hcomposite, ← h.levelItems_eq]
    rfl
  · rw [Partition.selectItems_of_groupBy hgroup, ownItems, hcomposite, h.selectItem_eq, hitem]
    rfl

/-- The name of a level is longer than that of the series. -/
theorem levelName_ne (s : Series) (level : String) : s.levelName level ≠ s.name := by
  intro heq
  have hlength := congrArg String.length heq
  have hbetween : "__".length = 2 := rfl
  rw [levelName, String.length_append, String.length_append] at hlength
  omega

/-- The levels are never selected as the comparison would be, since their names differ from its
own. -/
theorem ComparesTo.levelItems_ne (h : s.ComparesTo r) {item : Expr}
    (hitem : r.expr.aliased r.name = .ok item) (hlevels : s.isComposite = true) :
    s.levelItems ≠ .ok [item] := by
  intro heq
  obtain ⟨items, hitems, hselects⟩ := s.exists_levelItems
  obtain rfl : items = [item] := Except.ok.inj (hitems.symm.trans heq)
  obtain ⟨e, -, hselects⟩ := Outcome.exists_of_forall₂ hselects.flip (List.mem_singleton_self item)
  cases hselects with
  | column hsingle | aliased hsingle => cases hlevels.symm.trans hsingle
  | @level name _ _ _ hlevel =>
    refine s.levelName_ne name ?_
    rw [(Expr.aliased_inj hlevel hitem).2, h.name_eq]

/-- **A comparison is grouped on exactly if the operand has no levels.** Otherwise rows are put
together by these, and the comparison is selected only where composites are wanted whole. -/
theorem ComparesTo.groupsOn_iff (h : s.ComparesTo r) (hgroup : Partition.groupBy [r] = .ok p) :
    (p.GroupsOn r.expr r.name ↔ s.isComposite = false) ∧
      (s.isComposite = true → GroupsOnOperand s r p) := by
  refine ⟨⟨fun hgroups => Bool.eq_false_iff.mpr fun hlevels => ?_, fun hsingle => ?_⟩,
    fun hlevels => h.groupsOnOperand hlevels hgroup⟩
  · obtain ⟨item, hitem, hitems⟩ := hgroups.items
    have hown := hitems false
    rw [(h.groupsOnOperand hlevels hgroup).items] at hown
    exact h.levelItems_ne hitem hlevels hown
  · exact h.groupsOn hsingle hgroup

/-- A pair that is compared with a number, and then with a truth value. Rows are put together by the
pair either time. -/
theorem ComparesTo.groupsOn_iff_pair :
    let a := Sample.series Sample.relation "a"
    let b := Sample.series Sample.relation "b"
    ∃ pair one same p q, composite Sample.relation "pair" .int64 [a, b] = .ok pair ∧
      pair.ComparesTo one ∧ Partition.groupBy [one] = .ok p ∧ ¬ p.GroupsOn one.expr "pair" ∧
      GroupsOnOperand pair one p ∧
      one.ComparesTo same ∧ Partition.groupBy [same] = .ok q ∧ ¬ q.GroupsOn same.expr "pair" ∧
      q.GroupsBy [a.expr, b.expr] ∧
      ∀ clause, q.clause = .ok (some clause) → ∀ target,
        clause.text target ≠ same.expr.text target := by
  intro a b
  let pair := Sample.pair "pair" .int64 a b
  let one : Series := pair.computed (.ofTokens
    [.raw "(", pair.expr.token, .raw ") = (", (Expr.constant "1").token, .raw ")"]) .bool
  let same : Series := one.computed (.ofTokens
    [.raw "(", one.expr.token, .raw ") = (", (Expr.constant "true").token, .raw ")"]) .bool
  have hpair : composite Sample.relation "pair" .int64 [a, b] = .ok pair := by decide +kernel
  have hone : pair.ComparesTo one := @literal _ .equal (.int 1) _ (by decide +kernel)
  have hsame : one.ComparesTo same := @literal _ .equal (.bool true) _ (by decide +kernel)
  have hp : Partition.groupBy [one] = .ok ⟨[("pair", one)], .plain⟩ := by decide +kernel
  have hq : Partition.groupBy [same] = .ok ⟨[("pair", same)], .plain⟩ := by decide +kernel
  obtain ⟨hgroups, hoperand⟩ := ComparesTo.groupsOn_iff hone hp
  obtain ⟨hgroups', hoperand'⟩ := ComparesTo.groupsOn_iff hsame hq
  have hcovers : one.Covers := fun target =>
    Nat.le_of_lt (hone.covers (covers_composite hpair) target)
  exact ⟨pair, one, same, _, _, hpair, hone, hp, fun h => absurd (hgroups.mp h) (by decide),
    hoperand rfl, hsame, hq, fun h => absurd (hgroups'.mp h) (by decide), (hoperand' rfl).clause,
    (hoperand' rfl).apart hcovers⟩

/-- The clause says the pair, and the select list shows the comparison or the levels. -/
theorem comparison_grouped_on_levels :
    let a := Sample.series Sample.relation "a"
    let b := Sample.series Sample.relation "b"
    let target : Target := ⟨.rowStore, none⟩
    ∃ pair one p clause item first second,
      composite Sample.relation "pair" .int64 [a, b] = .ok pair ∧
      pair.compareLiteral .equal (.int 1) = .ok one ∧ Partition.groupBy [one] = .ok p ∧
      p.clause = .ok (some clause) ∧ p.selectItems true = .ok [item] ∧
      p.selectItems false = .ok [first, second] ∧
      one.expr.text target = "((\"a\", \"b\")) = (1)" ∧
      clause.text target = "\"a\", \"b\"" ∧
      item.text target = "((\"a\", \"b\")) = (1) as \"pair\"" ∧
      first.text target = "\"a\" as \"pair__a\"" ∧
      second.text target = "\"b\" as \"pair__b\"" := by
  intro a b target
  let pair := Sample.pair "pair" .int64 a b
  let one : Series := pair.computed (.ofTokens
    [.raw "(", pair.expr.token, .raw ") = (", (Expr.constant "1").token, .raw ")"]) .bool
  exact ⟨pair, one, ⟨[("pair", one)], .plain⟩,
    .ofTokens [a.expr.token, .raw ", ", b.expr.token], Sample.aliased one.expr "pair",
    Sample.aliased a.expr "pair__a", Sample.aliased b.expr "pair__b", by decide +kernel⟩

end Series

end QueryFrame
