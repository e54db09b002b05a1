import QueryFrame.Proofs.Obtained

/-!
# What rows are grouped on

Rows can be grouped on an expression that is *groupable*: not constant, and rowwise, so neither an
aggregate nor computed over a window. A composite is checked as a whole, but it is the expressions
of its levels that are grouped on, and of those only constancy is checked. What closes the gap is
*faithfulness*: where a composite is rowwise, its levels are.

* A composite is made faithful, and no operation that computes something changes that, since the new
  expression is either not rowwise or contains the old one.
* Putting another expression into a composite by hand can change it: a composite with an aggregate
  among its levels then passes the check, and the aggregate is grouped on
  (`Partition.aggregate_grouped_on`).

So what a partition groups on is groupable exactly when its columns are faithful, and it always is
when expressions are only put in where they keep a series faithful
(`Partition.groupable_groupExprs`).
-/

namespace QueryFrame

/-- Something that rows can be grouped on. -/
structure Expr.Groupable (e : Expr) : Prop where
  /-- its value is not the same for every row -/
  constant : e.isConstant = false
  /-- it is computed from a row alone -/
  rowwise : e.Rowwise

namespace Series

/-- Where the series is rowwise, its levels are. -/
def Faithful (s : Series) : Prop :=
  s.expr.Rowwise → ∀ e ∈ s.levelExprs, e.Rowwise

/-- A series without levels has nothing to be faithful to. -/
theorem faithful_of_levels_eq_nil {s : Series} (h : s.levels = []) : s.Faithful := by
  intro _ e he
  rw [levelExprs, h] at he
  cases he

/-- Faithfulness is a matter of what a series shows. -/
theorem Faithful.of_face {s t : Series} (hface : s.face = t.face) (h : s.Faithful) :
    t.Faithful := by
  have hexpr : s.expr = t.expr := congrArg (fun face => face.2.1) hface
  have hlevels : s.levelExprs = t.levelExprs := by
    have hmap := congrArg (fun face => face.2.2.map Prod.snd) hface
    simp only [face, List.map_map] at hmap
    exact hmap
  rw [Faithful, ← hexpr, ← hlevels]
  exact h

/-- **A composite is made faithful.** Its expression is made of those of all levels, so none of them
can hold what it does not. -/
theorem faithful_composite {relation : Relation} {name : String} {dtype : DataType}
    {levels : List Series} {s : Series} (h : composite relation name dtype levels = .ok s) :
    s.Faithful := by
  obtain ⟨expr, hexpr, rfl⟩ := composite_eq_ok h
  intro hrow e he
  obtain ⟨entry, hentry, rfl⟩ := List.mem_map.mp he
  obtain ⟨level, hlevel, rfl⟩ := List.mem_map.mp (Keyed.mem_of_mem_ofList hentry)
  exact hrow.of_construct hexpr _ (List.mem_map.mpr ⟨level, hlevel, rfl⟩)

/-- A series stays faithful when its new expression is rowwise only if the old one was. -/
theorem Faithful.replaced {s : Series} {e : Expr} (h : s.Faithful)
    (he : e.Rowwise → s.expr.Rowwise) : Faithful { s with expr := e } := by
  intro hrow
  exact h (he hrow)

/-- Whether rows can be grouped on the series. -/
structure Groupable (s : Series) : Prop where
  /-- the series as a whole is neither constant, nor a window function, nor an aggregate -/
  own : s.expr.Groupable
  /-- no level is constant -/
  levels : ∀ level ∈ s.levels, level.2.expr.isConstant = false

/-- Without a constant level, the series as a whole decides. -/
theorem groupingFault?_of_levels {s : Series}
    (hlevels : ∀ level ∈ s.levels, level.2.expr.isConstant = false) :
    s.groupingFault? =
      if s.expr.isConstant then some (.constantSeries s.name)
      else if s.expr.hasWindow then some (.windowFunction s.name)
      else if s.expr.hasAggregate then some (.aggregateFunction s.name)
      else none := by
  have hnone : (s.levels.find? fun level => level.2.expr.isConstant) = none :=
    List.find?_eq_none.mpr fun level hlevel => Bool.eq_false_iff.mp (hlevels level hlevel)
  rw [groupingFault?, hnone]

/-- **What passes the check for grouping** is what can be grouped on. -/
theorem groupingFault?_eq_none_iff {s : Series} : s.groupingFault? = none ↔ s.Groupable := by
  constructor
  · intro h
    have hlevels : ∀ level ∈ s.levels, level.2.expr.isConstant = false := by
      rw [groupingFault?] at h
      split at h
      · cases h
      · next hnone =>
        exact fun level hlevel => Bool.eq_false_iff.mpr (List.find?_eq_none.mp hnone level hlevel)
    rw [groupingFault?_of_levels hlevels] at h
    have hwhole : s.expr.isConstant = false ∧ s.expr.hasWindow = false ∧
        s.expr.hasAggregate = false := by
      grind
    exact ⟨⟨hwhole.1, hwhole.2.2, hwhole.2.1⟩, hlevels⟩
  · rintro ⟨hown, hlevels⟩
    rw [groupingFault?_of_levels hlevels]
    simp [hown.constant, hown.rowwise.window, hown.rowwise.aggregate]

/-- So nothing that a checked series is computed from is constant. -/
theorem groupable_of_groupingFault? {s : Series} (h : s.groupingFault? = none) :
    s.expr.Groupable ∧ ∀ e ∈ s.levelExprs, e.isConstant = false := by
  obtain ⟨hown, hlevels⟩ := groupingFault?_eq_none_iff.mp h
  exact ⟨hown, List.forall_mem_map.mpr hlevels⟩

/-- Nothing that a checked series is grouped on is constant. -/
theorem isConstant_of_mem_groupExprs {s : Series} (h : s.groupingFault? = none) {e : Expr}
    (he : e ∈ s.groupExprs) : e.isConstant = false := by
  obtain ⟨hwhole, hlevels⟩ := groupable_of_groupingFault? h
  rw [groupExprs] at he
  split at he
  · exact hlevels e he
  · rw [List.mem_singleton.mp he]
    exact hwhole.constant

/-- **What a checked series is grouped on is groupable exactly when the series is faithful.** -/
theorem groupable_groupExprs_iff {s : Series} (h : s.groupingFault? = none) :
    (∀ e ∈ s.groupExprs, e.Groupable) ↔ s.Faithful := by
  obtain ⟨hwhole, hlevels⟩ := groupable_of_groupingFault? h
  by_cases hcomposite : s.isComposite = true
  · -- its levels are grouped on
    rw [groupExprs, if_pos hcomposite]
    constructor
    · intro hall _ e he
      exact (hall e he).rowwise
    · intro hfaithful e he
      exact ⟨hlevels e he, hfaithful hwhole.rowwise e he⟩
  · -- it is grouped on itself, and there are no levels
    rw [groupExprs, if_neg hcomposite]
    refine iff_of_true (List.forall_mem_singleton.mpr hwhole) (faithful_of_levels_eq_nil ?_)
    rw [isComposite, Bool.not_eq_true', Bool.not_eq_false] at hcomposite
    exact List.isEmpty_iff.mp hcomposite

end Series

/-! ## Two callers -/

/-- A caller that brings along whatever it likes and puts it in wherever it likes. -/
def Supply.anything : Supply :=
  ⟨fun _ => True, fun _ => True, fun _ _ => True⟩

/-- A caller that only puts an expression in where that keeps the series faithful, as it does
wherever there are no levels. -/
def Supply.faithful : Supply :=
  ⟨fun _ => True, fun _ => True, fun s e => Series.Faithful { s with expr := e }⟩

/-- Nothing at all is kept, whatever the caller does. -/
theorem Kept.anything (supply : Supply) : Kept supply (fun _ => True) (fun _ => True) where
  sql _ := trivial
  column _ := trivial
  literal _ _ := trivial
  count _ := trivial
  aggregate _ _ := trivial
  call _ _ := trivial
  apply _ _ _ := trivial
  compared _ _ _ := trivial
  given _ _ := trivial
  face _ _ := trivial
  single _ _ := trivial
  composite _ _ _ := ⟨trivial, trivial⟩
  renamed _ _ := trivial
  replaced _ _ _ := trivial

/-- Faithfulness is kept by a caller that takes care of it. -/
theorem Kept.faithful : Kept .faithful Series.Faithful (fun _ => True) where
  sql _ := trivial
  column _ := trivial
  literal _ _ := trivial
  count _ := trivial
  aggregate _ _ := trivial
  call _ _ := trivial
  apply _ _ _ := trivial
  compared _ _ _ := trivial
  given _ _ := trivial
  face hface h := h.of_face hface
  single _ _ := Series.faithful_of_levels_eq_nil rfl
  composite _ _ h := ⟨Series.faithful_composite h, trivial⟩
  renamed h _ := h
  replaced h _ he := by
    rcases he with hfaithful | hrow
    · exact hfaithful
    · exact h.replaced hrow

namespace Partition

/-- What holds of the expressions to group by holds of those of every column. -/
theorem forall_groupExprs_iff {p : Partition} {P : Expr → Prop} :
    (∀ e ∈ p.groupExprs, P e) ↔ ∀ entry ∈ p.columns, ∀ e ∈ entry.2.groupExprs, P e := by
  simp only [mem_groupExprs]
  constructor
  · intro h entry hentry e he
    exact h e ⟨entry, hentry, he⟩
  · rintro h e ⟨entry, hentry, he⟩
    exact h entry hentry e he

/-- **What rows are grouped on**, in any partition that can be obtained at all, is never constant,
and it is free of aggregates and window functions exactly when every column is faithful. With a
caller that keeps series faithful it always is. -/
theorem groupable_groupExprs {p : Partition} (h : Obtained .anything (.partition p)) :
    (∀ e ∈ p.groupExprs, e.isConstant = false) ∧
      ((∀ e ∈ p.groupExprs, e.Groupable) ↔ ∀ entry ∈ p.columns, entry.2.Faithful) ∧
      (Obtained .faithful (.partition p) → ∀ e ∈ p.groupExprs, e.Groupable) := by
  have hvalid : ∀ entry ∈ p.columns, entry.2.groupingFault? = none := fun entry hentry =>
    ((h.throughout (.anything _)).columns_of entry hentry).1
  have hiff : (∀ e ∈ p.groupExprs, e.Groupable) ↔ ∀ entry ∈ p.columns, entry.2.Faithful := by
    rw [forall_groupExprs_iff]
    exact forall₂_congr fun entry hentry => Series.groupable_groupExprs_iff (hvalid entry hentry)
  refine ⟨forall_groupExprs_iff.mpr fun entry hentry e he => ?_, hiff, fun hfaithful => ?_⟩
  · exact Series.isConstant_of_mem_groupExprs (hvalid entry hentry) he
  · have hthroughout := hfaithful.throughout Kept.faithful
    exact hiff.mpr fun entry hentry => (hthroughout.columns_of entry hentry).2.own

/-- A composite of two columns is grouped on level by level. -/
theorem groupable_groupExprs_levels :
    let pair : Series := { Sample.series Sample.relation "pair" with
      expr := ⟨.regular, [.raw "(", (Expr.column "a").token, .raw ", ", (Expr.column "b").token,
        .raw ")"]⟩
      levels := [("a", Sample.series Sample.relation "a"),
        ("b", Sample.series Sample.relation "b")] }
    let p : Partition := ⟨[("pair", pair)], .plain⟩
    Obtained .anything (.partition p) ∧ Obtained .faithful (.partition p) ∧
      p.groupExprs = [.column "a", .column "b"] ∧ ∀ e ∈ p.groupExprs, e.Groupable := by
  intro pair p
  have hpair : Series.composite Sample.relation "pair" .int64
      [Sample.series Sample.relation "a", Sample.series Sample.relation "b"] = .ok pair := by
    decide +kernel
  have hp : groupBy [pair] = .ok p := by decide +kernel
  have hobtained : ∀ supply : Supply, (∀ text, supply.text text) →
      Obtained supply (.partition p) := by
    intro supply htext
    refine .groupBy (List.forall_mem_singleton.mpr ?_) hp
    refine .composite (htext "pair") (fun level hlevel => ?_) hpair
    rcases List.mem_pair.mp hlevel with rfl | rfl
    · exact .column (htext "a")
    · exact .column (htext "b")
  have hanything := hobtained .anything fun _ => trivial
  have hfaithful := hobtained .faithful fun _ => trivial
  exact ⟨hanything, hfaithful, by decide +kernel, (groupable_groupExprs hanything).2.2 hfaithful⟩

/-- A composite whose only level is a sum, with another expression put in by hand: it passes the
check, and rows are grouped on the sum. -/
theorem aggregate_grouped_on :
    let column := Sample.series Sample.relation "a"
    let total : Series := { column with
      expr := ⟨.aggregate, [.raw "sum(", column.expr.token, .raw ")"]⟩, partition := some .all }
    let pair : Series := { column with
      name := "pair"
      expr := ⟨.regular, [.raw "(", total.expr.token, .raw ")"]⟩
      levels := [("a", total)] }
    let p : Partition := ⟨[("pair", { pair with expr := column.expr })], .plain⟩
    column.aggregate .sum none = .ok total ∧
      Series.composite Sample.relation "pair" .int64 [total] = .ok pair ∧
      groupBy [{ pair with expr := column.expr }] = .ok p ∧ Obtained .anything (.partition p) ∧
      total.expr ∈ p.groupExprs ∧ total.expr.hasAggregate = true ∧
      p.clause = .ok (some (.ofTokens [total.expr.token])) := by
  intro column total pair p
  have htotal : column.aggregate .sum none = .ok total := by decide +kernel
  have hpair : Series.composite Sample.relation "pair" .int64 [total] = .ok pair := by
    decide +kernel
  have hp : groupBy [{ pair with expr := column.expr }] = .ok p := by decide +kernel
  have hcolumn : Obtained .anything (.series column) := .column trivial
  have hlevel : Obtained .anything (.series total) :=
    .aggregate hcolumn (fun p hp => by cases hp) htotal
  have hwhole : Obtained .anything (.series pair) :=
    .composite trivial (List.forall_mem_singleton.mpr hlevel) hpair
  refine ⟨htotal, hpair, hp, ?_, List.mem_singleton.mpr rfl, rfl, by decide +kernel⟩
  exact .groupBy (List.forall_mem_singleton.mpr (hwhole.withExpr (.sql trivial) trivial)) hp

end Partition

end QueryFrame
