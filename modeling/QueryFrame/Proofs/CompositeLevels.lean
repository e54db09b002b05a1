import Mathlib.Data.List.Flatten
import Mathlib.Data.List.Nodup
import Mathlib.Data.List.Perm.Subperm
import QueryFrame.Proofs.Fitting
import QueryFrame.Proofs.GroupingClauses
import QueryFrame.Proofs.OverClauses

/-!
# What a composite keeps of its levels

A composite is made of a list of series and has them twice: its expression is a row of all of them,
and its levels are stored by name. Where it is selected as a whole the expression counts. Where rows
are grouped or divided by it, or where it is selected level by level, the levels count
(`Series.GoesByLevels`).

A name has one level, the last that is called so. So the levels are some of the list
(`Keyed.subperm_ofList`), and fewer as soon as a name occurs twice (`Keyed.length_ofList_lt`). A row
of fewer texts is shorter (`Text.length_intercalate_lt`), so then the expression and the levels do
not say the same either, whatever they say (`Series.composite_says_levels_iff`).
-/

namespace QueryFrame

/-! ## Collections and rows -/

namespace Keyed

variable {α : Type}

/-- A collection has some of the entries that it was made of. -/
theorem subperm_ofList (entries : List (String × α)) : (ofList entries).Subperm entries :=
  (List.Nodup.of_map Prod.fst (nodup_keys_ofList entries)).subperm fun _ => mem_of_mem_ofList

/-- **Where a name occurs twice, an entry is lost.** -/
theorem length_ofList_lt {entries : List (String × α)} (h : ¬ (keys entries).Nodup) :
    (ofList entries).length < entries.length := by
  refine Nat.lt_of_not_ge fun hall => h ?_
  -- if none were lost, these would be the entries of a collection in another order
  have hperm := ((subperm_ofList entries).perm_of_length_le hall).map Prod.fst
  exact hperm.nodup_iff.mp (nodup_keys_ofList entries)

end Keyed

namespace Text

variable {separator : String} {fewer texts : List String}

/-- Each text of a row but one has a separator. -/
theorem length_intercalate (h : texts ≠ []) :
    (separator.intercalate texts).length + separator.length =
      (texts.flatMap String.toList).length + separator.length * texts.length := by
  induction texts with
  | nil => exact absurd rfl h
  | cons first rest ih =>
    cases rest with
    | nil => simp [String.length_toList]
    | cons next rest =>
      have hrest := ih (List.cons_ne_nil _ _)
      have hcount : separator.length * (first :: next :: rest).length =
          separator.length * (next :: rest).length + separator.length := Nat.mul_succ _ _
      rw [String.intercalate_cons_cons, String.length_append, String.length_append,
        List.flatMap_cons, List.length_append, String.length_toList, hcount]
      omega

/-- Some of the texts have no more characters than all of them. -/
theorem length_flatMap_le (h : fewer.Subperm texts) :
    (fewer.flatMap String.toList).length ≤ (texts.flatMap String.toList).length := by
  obtain ⟨between, hperm, hsub⟩ := h
  rw [← (hperm.flatMap_right String.toList).length_eq]
  exact (hsub.flatMap String.toList).length_le

/-- A row of some of the texts is no longer than a row of all. -/
theorem length_intercalate_le (h : fewer.Subperm texts) :
    (separator.intercalate fewer).length ≤ (separator.intercalate texts).length := by
  by_cases hnil : fewer = []
  · rw [hnil, String.intercalate_nil]
    exact Nat.zero_le _
  · have hne : texts ≠ [] := fun htexts => hnil (List.subperm_nil.mp (htexts ▸ h))
    have hfew := @length_intercalate separator fewer hnil
    have hall := @length_intercalate separator texts hne
    have hchars := length_flatMap_le h
    have hcount := Nat.mul_le_mul_left separator.length h.length_le
    omega

/-- **A row that lacks a text is shorter**, even if the text is empty. -/
theorem length_intercalate_lt (hseparator : separator ≠ "") (h : fewer.Subperm texts)
    (hnil : fewer ≠ []) (hlt : fewer.length < texts.length) :
    (separator.intercalate fewer).length < (separator.intercalate texts).length := by
  have hne : texts ≠ [] := List.ne_nil_of_length_pos (Nat.zero_lt_of_lt hlt)
  have hfew := @length_intercalate separator fewer hnil
  have hall := @length_intercalate separator texts hne
  have hchars := length_flatMap_le h
  have hpos : 0 < separator.length := by
    rw [Nat.pos_iff_ne_zero, ne_eq, String.length_eq_zero_iff]
    exact hseparator
  have hcount := Nat.mul_lt_mul_of_pos_left hlt hpos
  omega

end Text

/-! ## Grouping by a single series -/

/-- Whether the clause of a partition is a row of some expressions. -/
def Partition.GroupsBy (p : Partition) (exprs : List Expr) : Prop :=
  ∃ clause, p.clause = .ok (some clause) ∧ clause.parts = exprs ∧
    ∀ target, clause.text target = ", ".intercalate (exprs.map (Expr.text target))

/-- Whether a window divides the rows by some expressions. -/
def Window.DividesBy (w : Window) (exprs : List Expr) : Prop :=
  ∃ clause, w.over = .ok clause ∧ ∀ target, clause.text target =
    "over (" ++ " ".intercalate (["partition by " ++ ", ".intercalate
      (exprs.map (Expr.text target)), w.orderText target, w.spec.clause].filter (· ≠ "")) ++ ")"

section Single

variable {s : Series}

theorem Columns.group_singleton {columns : Columns} (h : group [s] = .ok columns) :
    columns = [(s.name, s.asKey)] :=
  (group_eq_ok h).2

namespace Partition

/-- Grouping by one series takes it as a key. -/
theorem groupBy_singleton {p : Partition} (h : groupBy [s] = .ok p) :
    p = ⟨[(s.name, s.asKey)], .plain⟩ := by
  obtain ⟨hgroup, hshape⟩ := groupBy_eq_ok h
  rw [← Columns.group_singleton hgroup, ← hshape]
  cases p
  rfl

/-- **Grouping by one series** puts what it is grouped on into the clause. -/
theorem groupsBy_of_groupBy {p : Partition} (h : groupBy [s] = .ok p) :
    p.GroupsBy s.groupExprs := by
  obtain rfl := groupBy_singleton h
  obtain ⟨row, hrow⟩ := Expr.exists_join .comma s.groupExprs
  have hexprs : Columns.groupExprs [(s.name, s.asKey)] = s.groupExprs := List.append_nil _
  refine ⟨row, ?_, Expr.parts_of_construct hrow, Expr.text_of_join hrow⟩
  rw [clause, Columns.clause, hexprs, hrow]
  rfl

/-- And its own items into the select list. -/
theorem selectItems_of_groupBy {p : Partition} (h : groupBy [s] = .ok p) (whole : Bool) :
    p.selectItems whole = s.ownItems whole := by
  obtain rfl := groupBy_singleton h
  have hitems : Series.selectItems whole [s.asKey] =
      (s.ownItems whole >>= fun own => pure (own ++ [])) := Series.selectItems_cons whole s.asKey []
  simp only [List.append_nil, bind_pure] at hitems
  exact hitems

end Partition

/-- **A window over one series** is divided by what the series is grouped on. -/
theorem Window.dividesBy_of_make {order : List SortKey} {frame : Frame}
    {minValues : Option UInt32} {w : Window} (h : make [s] order frame minValues = .ok w) :
    w.DividesBy s.groupExprs := by
  have hcolumns := Columns.group_singleton (make_eq_ok h).1
  have hdividers : w.dividers = s.groupExprs := by
    rw [dividers_eq, hcolumns]
    exact List.append_nil _
  obtain ⟨clause, hclause, htext, -⟩ := w.over_says
  refine ⟨clause, hclause, fun target => ?_⟩
  have hpartition : w.partitionText target =
      "partition by " ++ ", ".intercalate (s.groupExprs.map (Expr.text target)) := by
    rw [partitionText, hdividers, hcolumns]
    rfl
  rw [htext, overText, hpartition]

end Single

/-! ## Composites -/

namespace Series

variable {s : Series} {levels : List Series}

/-- A row of expressions in parentheses. -/
def rowText (target : Target) (exprs : List Expr) : String :=
  "(" ++ ", ".intercalate (exprs.map (Expr.text target)) ++ ")"

/-- What becomes of the levels that a composite is made of. -/
structure ComposedOf (s : Series) (levels : List Series) : Prop where
  /-- all of them are parts of the expression, in order -/
  parts : s.expr.parts = levels.map expr
  /-- which says them one after another -/
  text : ∀ target, s.expr.text target = rowText target (levels.map expr)
  /-- names stand where they first occur -/
  names : Keyed.keys s.levels = (levels.map name).eraseDups
  /-- and each has the last level that is called so -/
  last : ∀ entry, entry ∈ s.levels ↔ ∃ before level after, levels = before ++ level :: after ∧
    (∀ later ∈ after, later.name ≠ level.name) ∧ entry = (level.name, level)
  /-- so the levels are the parts exactly if no two have one name -/
  parts_iff : s.levelExprs = s.expr.parts ↔ (levels.map name).Nodup
  /-- and exactly then they say the same as the expression -/
  text_iff : ∀ target, s.expr.text target = rowText target s.levelExprs ↔ (levels.map name).Nodup

/-- How rows are put together by a series with levels. -/
structure GoesByLevels (s : Series) : Prop where
  /-- the clause that groups by it is a row of the levels -/
  clause : ∀ p, Partition.groupBy [s] = .ok p → p.GroupsBy s.levelExprs
  /-- and so is what divides the rows of a window -/
  dividers : ∀ order frame minValues w, Window.make [s] order frame minValues = .ok w →
    w.DividesBy s.levelExprs
  /-- the columns of a grouping are selected level by level, unless composites are wanted whole -/
  items : ∀ p, Partition.groupBy [s] = .ok p →
    p.selectItems false = s.levelItems ∧ p.selectItems true = s.selectItem.map ([·])
  /-- with one item for each level -/
  levelItems : ∃ items, s.levelItems = .ok items ∧ List.Forall₂ s.Selects items s.levelExprs

/-- **A series with levels goes by them.** -/
theorem goesByLevels_of_isComposite (h : s.isComposite = true) : s.GoesByLevels := by
  have hexprs : s.groupExprs = s.levelExprs := if_pos h
  refine ⟨fun p hp => ?_, fun order frame minValues w hw => ?_, fun p hp => ⟨?_, ?_⟩,
    s.exists_levelItems⟩
  · rw [← hexprs]
    exact Partition.groupsBy_of_groupBy hp
  · rw [← hexprs]
    exact Window.dividesBy_of_make hw
  · rw [Partition.selectItems_of_groupBy hp, ownItems, h]
    rfl
  · rw [Partition.selectItems_of_groupBy hp, ownItems, h]
    rfl

section Composite

variable {relation : Relation} {name : String} {dtype : DataType}

/-- The expression of a composite is a row of all levels. -/
theorem expr_of_composite (h : composite relation name dtype levels = .ok s) :
    s.expr.parts = levels.map expr ∧
      ∀ target, s.expr.text target = rowText target (levels.map expr) := by
  obtain ⟨row, hrow, rfl⟩ := composite_eq_ok h
  refine ⟨Expr.parts_of_construct hrow, fun target => ?_⟩
  rw [← List.length_map (f := Series.expr)] at hrow
  exact Expr.text_of_row (Expr.Safe.not_brace (.inr .opening))
    (Expr.Safe.not_brace (.inr .comma)) (Expr.Safe.not_brace (.inr .closing)) hrow target

/-- Its levels are stored by name. -/
theorem levels_of_composite (h : composite relation name dtype levels = .ok s) :
    s.levels = Keyed.ofList (levels.map fun level => (level.name, level)) := by
  obtain ⟨row, -, rfl⟩ := composite_eq_ok h
  rfl

/-- What the levels say is some of what the series say that they were made of. -/
theorem subperm_levelTexts (h : composite relation name dtype levels = .ok s) (target : Target) :
    (s.levelExprs.map (Expr.text target)).Subperm ((levels.map expr).map (Expr.text target)) := by
  obtain ⟨between, hperm, hsub⟩ :=
    Keyed.subperm_ofList (levels.map fun level => (level.name, level))
  have hall : (levels.map fun level => (level.name, level)).map (fun entry => entry.2.expr) =
      levels.map expr := by
    rw [List.map_map]
    rfl
  rw [levelExprs, levels_of_composite h, ← hall]
  exact ⟨_, (hperm.map _).map _, (hsub.map _).map _⟩

/-- If names differ, the levels are what the composite was made of. -/
theorem levelExprs_of_composite (h : composite relation name dtype levels = .ok s)
    (hnames : (levels.map Series.name).Nodup) : s.levelExprs = levels.map expr := by
  have hkeys : (Keyed.keys (levels.map fun level => (level.name, level))).Nodup := by
    rw [Keyed.keys_map]
    exact hnames
  rw [levelExprs, levels_of_composite h, Keyed.ofList_of_nodup hkeys, List.map_map]
  rfl

/-- If a name occurs twice, they are fewer, but never none. -/
theorem length_levelExprs_lt (h : composite relation name dtype levels = .ok s)
    (hnames : ¬ (levels.map Series.name).Nodup) :
    s.levelExprs.length < (levels.map expr).length ∧ s.levelExprs ≠ [] := by
  have hkeys : ¬ (Keyed.keys (levels.map fun level => (level.name, level))).Nodup := by
    rw [Keyed.keys_map]
    exact hnames
  have hlt := Keyed.length_ofList_lt hkeys
  rw [levelExprs, levels_of_composite h, List.length_map, List.length_map]
  rw [List.length_map] at hlt
  refine ⟨hlt, fun hnil => ?_⟩
  refine Keyed.ofList_ne_nil (fun hlevels => hkeys ?_) (List.map_eq_nil_iff.mp hnil)
  rw [hlevels]
  exact List.nodup_nil

/-- **What a composite keeps** of the levels that it is made of. -/
theorem composedOf_composite (h : composite relation name dtype levels = .ok s) :
    s.ComposedOf levels := by
  obtain ⟨hparts, htext⟩ := expr_of_composite h
  refine ⟨hparts, htext, ?_, fun entry => ?_, ⟨fun heq => ?_, fun hnames => ?_⟩,
    fun target => ⟨fun heq => ?_, fun hnames => ?_⟩⟩
  · rw [levels_of_composite h, Keyed.keys_ofList, Keyed.keys_map]
  · rw [levels_of_composite h]
    exact Keyed.mem_ofList_map_iff
  · refine Decidable.byContradiction fun hnames => ?_
    have hlt := (length_levelExprs_lt h hnames).1
    rw [heq, hparts] at hlt
    exact Nat.lt_irrefl _ hlt
  · rw [hparts]
    exact levelExprs_of_composite h hnames
  · -- the row of the levels would be shorter
    refine Decidable.byContradiction fun hnames => ?_
    obtain ⟨hlt, hne⟩ := length_levelExprs_lt h hnames
    have hcomma : ", " ≠ "" := by decide
    have hshorter := Text.length_intercalate_lt hcomma (subperm_levelTexts h target)
      (by simpa using hne) (by simpa using hlt)
    rw [htext, rowText, rowText] at heq
    have hlength := congrArg String.length heq
    simp only [String.length_append] at hlength
    omega
  · rw [htext, levelExprs_of_composite h hnames]

end Composite

/-- **A composite says what its levels say exactly if they have different names.** It can be made of
any series. Its expression is a row of all of them, and each name has the last of them that is
called so. Rows are grouped and divided by these alone, and selected by them level by level. -/
theorem composite_says_levels_iff (relation : Relation) (name : String) (dtype : DataType)
    (levels : List Series) :
    ∃ s, composite relation name dtype levels = .ok s ∧ s.ComposedOf levels ∧
      (s.isComposite = true ↔ levels ≠ []) ∧ (s.isComposite = true → s.GoesByLevels) := by
  obtain ⟨s, hs⟩ := exists_composite relation name dtype levels
  refine ⟨s, hs, composedOf_composite hs, ?_, goesByLevels_of_isComposite⟩
  rw [isComposite, levels_of_composite hs, Bool.not_eq_true', List.isEmpty_eq_false_iff]
  constructor
  · rintro hne rfl
    exact hne rfl
  · exact fun hne => Keyed.ofList_ne_nil fun hnil => hne (List.map_eq_nil_iff.mp hnil)

/-- Of two levels called `a` the composite shows both, and rows are grouped on the second alone. -/
theorem composite_loses_level :
    let a := Sample.series Sample.relation "a"
    let b := { Sample.series Sample.relation "b" with name := "a" }
    ∃ s p clause, composite Sample.relation "pair" .numericInterval [a, b] = .ok s ∧
      s.levelExprs = [.column "b"] ∧ s.expr.text ⟨.rowStore, none⟩ = "(\"a\", \"b\")" ∧
      rowText ⟨.rowStore, none⟩ s.levelExprs = "(\"b\")" ∧
      Partition.groupBy [s] = .ok p ∧ p.clause = .ok (some clause) ∧
      clause.text ⟨.rowStore, none⟩ = "\"b\"" := by
  intro a b
  let s : Series := { Sample.pair "pair" .numericInterval a b with levels := [("a", b)] }
  exact ⟨s, ⟨[("pair", s)], .plain⟩, ⟨.regular, [b.expr.token]⟩, by decide +kernel⟩

end Series

end QueryFrame
