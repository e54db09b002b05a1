import QueryFrame.Proofs.Formed
import QueryFrame.Proofs.Operations
import QueryFrame.Sample

/-!
# Partitions over another relation

Moving a partition forms it again from moved parts, each shape along a route of its own: a cube
groups on its columns twice, a list of groupings merges the columns of its moved members. The
outcome is the same for all of them, and it is `Partition.moved`: the partition as it was, with
every series in it over the other relation. `Partition.Formed.rebind_eq` says so for partitions as
they are formed.

The reason is that neither the check for grouping nor a merge looks at relations. They see the names
of columns and the face of each, so they commute with moving (`Columns.group_map_rebind`,
`Partition.mergedColumns_movedAll`).

Nor does anything that a partition contributes to a query (`Partition.clause_moved` and its
neighbours), and a second move makes up for the first (`Partition.moved_moved`). Together this is
`Partition.rebind_of_built`.
-/

namespace QueryFrame

/-! ## Series -/

namespace Series

mutual

/-- Of two moves the second one counts. -/
theorem rebind_rebind (first second : Relation) :
    (s : Series) → (s.rebind first).rebind second = s.rebind second
  | ⟨_, _, _, _, index, _, _, _, levels⟩ => by
    simp only [rebind, rebindAll_rebindAll first second index,
      rebindAll_rebindAll first second levels]

theorem rebindAll_rebindAll (first second : Relation) :
    (columns : List (String × Series)) →
      rebindAll second (rebindAll first columns) = rebindAll second columns
  | [] => rfl
  | (_, s) :: rest => by
    simp only [rebindAll, rebind_rebind first second s, rebindAll_rebindAll first second rest]

end

/-- A series that is taken from the relation, with its levels and its index, all the way down. -/
inductive TakenFrom (relation : Relation) : Series → Prop
  | intro {s : Series} (own : s.relation = relation)
      (levels : ∀ entry ∈ s.levels, TakenFrom relation entry.2)
      (index : ∀ entry ∈ s.index, TakenFrom relation entry.2) : TakenFrom relation s

mutual

/-- **A move leaves nothing behind**, at whatever depth. -/
theorem takenFrom_rebind (relation : Relation) :
    (s : Series) → (s.rebind relation).TakenFrom relation
  | ⟨_, _, _, _, index, _, _, _, levels⟩ =>
    .intro rfl (takenFrom_rebindAll relation levels) (takenFrom_rebindAll relation index)

theorem takenFrom_rebindAll (relation : Relation) :
    (columns : List (String × Series)) →
      ∀ entry ∈ rebindAll relation columns, entry.2.TakenFrom relation
  | [] => List.forall_mem_nil _
  | (_, s) :: rest =>
    List.forall_mem_cons.mpr ⟨takenFrom_rebind relation s, takenFrom_rebindAll relation rest⟩

end

variable (relation : Relation) (s : Series)

theorem name_rebind : (s.rebind relation).name = s.name := by
  rw [rebind_eq]

/-- A key is a key over any relation. -/
theorem asKey_rebind : (s.rebind relation).asKey = s.asKey.rebind relation := by
  rw [rebind_eq, rebind_eq]
  rfl

/-- What can be grouped on can be grouped on over any relation, and faults stay what they are. -/
theorem groupingFault?_rebind : (s.rebind relation).groupingFault? = s.groupingFault? := by
  rw [groupingFault?, groupingFault?, levels_rebind, List.find?_map, expr_rebind, name_rebind]
  have hlevels : ((fun level : String × Series => level.2.expr.isConstant) ∘
      fun entry : String × Series => (entry.1, entry.2.rebind relation)) =
      fun level => level.2.expr.isConstant := by
    funext level
    rw [Function.comp, expr_rebind]
  rw [hlevels]
  cases s.levels.find? fun level => level.2.expr.isConstant <;> rfl

theorem isComposite_rebind : (s.rebind relation).isComposite = s.isComposite := by
  rw [isComposite, isComposite, levels_rebind]
  cases s.levels <;> rfl

theorem levelExprs_rebind : (s.rebind relation).levelExprs = s.levelExprs := by
  rw [levelExprs, levelExprs, levels_rebind, List.map_map]
  exact List.map_congr_left fun level _ => expr_rebind relation level.2

theorem groupExprs_rebind : (s.rebind relation).groupExprs = s.groupExprs := by
  rw [groupExprs, groupExprs, isComposite_rebind, levelExprs_rebind, expr_rebind]

end Series

/-! ## Columns -/

namespace Columns

/-- Every column over another relation, under its name. -/
def moved (relation : Relation) (columns : Columns) : Columns :=
  Keyed.mapValues (Series.rebind relation) columns

variable (relation : Relation)

/-- **Grouping commutes with moving**, faults included. -/
theorem group_map_rebind (columns : List Series) :
    group (columns.map (Series.rebind relation)) = (group columns).map (moved relation) := by
  have hfault : columns.findSome? (Series.groupingFault? ∘ Series.rebind relation) =
      columns.findSome? Series.groupingFault? := by
    congr 1
    funext s
    exact Series.groupingFault?_rebind relation s
  rw [group, group, List.findSome?_map, hfault]
  cases columns.findSome? Series.groupingFault? with
  | some fault => rfl
  | none =>
    change Except.ok _ = Except.ok _
    rw [moved, ← Keyed.ofList_mapValues, Keyed.mapValues, List.map_map, List.map_map]
    congr 2
    refine List.map_congr_left fun s _ => ?_
    simp only [Function.comp, Series.name_rebind, Series.asKey_rebind]

/-- Settled columns move one by one. -/
theorem Settled.rebind_eq {columns : Columns} (h : Settled columns) :
    rebind relation columns = .ok (moved relation columns) := by
  rw [rebind, group_map_rebind, h]
  rfl

/-- And they settle where they are moved to. -/
theorem Settled.moved {columns : Columns} (h : Settled columns) :
    Settled (columns.moved relation) := by
  rw [Settled, Columns.moved, Keyed.values_mapValues]
  exact h.rebind_eq relation

theorem insertNew_moved (key : String) (s : Series) (found : Columns) :
    moved relation (Keyed.insertNew key s found) =
      Keyed.insertNew key (s.rebind relation) (moved relation found) :=
  (Keyed.insertNew_mapValues (Series.rebind relation) key s found).symm

variable (columns : Columns)

theorem moved_moved (first second : Relation) :
    moved second (moved first columns) = moved second columns := by
  rw [moved, moved, moved, Keyed.mapValues, Keyed.mapValues, List.map_map]
  refine List.map_congr_left fun entry _ => ?_
  simp only [Function.comp, Series.rebind_rebind]

theorem moved_ne_nil {columns : Columns} (h : columns ≠ []) : moved relation columns ≠ [] := by
  cases columns with
  | nil => exact absurd rfl h
  | cons entry rest => exact List.cons_ne_nil _ _

theorem isEmpty_moved : (moved relation columns).isEmpty = columns.isEmpty := by
  cases columns <;> rfl

theorem groupExprs_moved : groupExprs (moved relation columns) = groupExprs columns := by
  rw [groupExprs, groupExprs, moved, Keyed.values_mapValues, List.flatMap_map]
  congr 1
  funext s
  exact Series.groupExprs_rebind relation s

theorem clause_moved : clause (moved relation columns) = clause columns := by
  rw [clause, clause, isEmpty_moved, groupExprs_moved]

end Columns

/-- The columns of a window show only as expressions. -/
theorem Window.over_moved (relation : Relation) (w : Window) :
    ({ w with columns := Columns.moved relation w.columns } : Window).over = w.over := by
  have hpart : ({ w with columns := Columns.moved relation w.columns } : Window).partitionPart =
      w.partitionPart := by
    rw [partitionPart, partitionPart, Columns.isEmpty_moved, Columns.groupExprs_moved]
  rw [«over», «over», hpart]
  rfl

/-! ## Partitions -/

namespace Partition

mutual

/-- The partition with every series in it over another relation. -/
def moved (relation : Relation) : Partition → Partition
  | ⟨columns, shape⟩ => ⟨Columns.moved relation columns, shapeMoved relation shape⟩

/-- The shape with every member over another relation. -/
def shapeMoved (relation : Relation) : Shape → Shape
  | .plain => .plain
  | .cube => .cube
  | .rollup => .rollup
  | .lists children => .lists (movedAll relation children)
  | .sets children => .sets (movedAll relation children)
  | .window spec => .window spec

/-- Every partition of a list over another relation. -/
def movedAll (relation : Relation) : List Partition → List Partition
  | [] => []
  | child :: rest => moved relation child :: movedAll relation rest

end

@[simp] theorem columns_moved (relation : Relation) (p : Partition) :
    (p.moved relation).columns = Columns.moved relation p.columns := by
  cases p
  rfl

@[simp] theorem kind_moved (relation : Relation) (p : Partition) :
    (p.moved relation).kind = p.kind := by
  obtain ⟨columns, shape⟩ := p
  cases shape <;> rfl

@[simp] theorem isWindow_moved (relation : Relation) (p : Partition) :
    (p.moved relation).isWindow = p.isWindow := by
  obtain ⟨columns, shape⟩ := p
  cases shape <;> rfl

mutual

/-- Of two moves the second one counts. -/
theorem moved_moved (first second : Relation) :
    (p : Partition) → (p.moved first).moved second = p.moved second
  | ⟨columns, shape⟩ => by
    simp only [moved, Columns.moved_moved, shapeMoved_shapeMoved first second shape]

theorem shapeMoved_shapeMoved (first second : Relation) :
    (shape : Shape) → shapeMoved second (shapeMoved first shape) = shapeMoved second shape
  | .plain | .cube | .rollup | .window _ => rfl
  | .lists children | .sets children => by
    simp only [shapeMoved, movedAll_movedAll first second children]

theorem movedAll_movedAll (first second : Relation) :
    (list : List Partition) → movedAll second (movedAll first list) = movedAll second list
  | [] => rfl
  | p :: rest => by
    simp only [movedAll, moved_moved first second p, movedAll_movedAll first second rest]

end

mutual

/-- The clause of a partition does not depend on the relation. -/
theorem clause_moved (relation : Relation) : (p : Partition) → (p.moved relation).clause = p.clause
  | ⟨columns, .plain⟩ | ⟨columns, .cube⟩ | ⟨columns, .rollup⟩ => by
    simp only [moved, shapeMoved, clause, Columns.clause_moved]
  | ⟨_, .lists children⟩ | ⟨_, .sets children⟩ => by
    simp only [moved, shapeMoved, clause, clauses_movedAll relation children]
  | ⟨_, .window _⟩ => rfl

theorem clauses_movedAll (relation : Relation) :
    (list : List Partition) → clauses (movedAll relation list) = clauses list
  | [] => rfl
  | p :: rest => by
    simp only [movedAll, clauses, clause_moved relation p, clauses_movedAll relation rest]

end

/-! ### Merging commutes with moving -/

variable (relation : Relation)

theorem foldl_insertNew_moved (columns found : Columns) :
    (Columns.moved relation columns).foldl
        (fun found entry => Keyed.insertNew entry.1 entry.2 found) (Columns.moved relation found) =
      Columns.moved relation
        (columns.foldl (fun found entry => Keyed.insertNew entry.1 entry.2 found) found) := by
  induction columns generalizing found with
  | nil => rfl
  | cons entry rest ih =>
    rw [List.foldl_cons, ← ih, Columns.insertNew_moved]
    rfl

theorem merge_movedAll (children : List Partition) (found : Columns) :
    merge (Columns.moved relation found) (movedAll relation children) =
      (merge found children).map (Columns.moved relation) := by
  induction children generalizing found with
  | nil => rfl
  | cons child rest ih =>
    rw [movedAll, merge, merge, isWindow_moved, kind_moved, columns_moved, foldl_insertNew_moved]
    split
    · rfl
    · exact ih _

/-- **The columns of a list of groupings** are those of the moved members. -/
theorem mergedColumns_movedAll (children : List Partition) :
    mergedColumns (movedAll relation children) =
      (mergedColumns children).map (Columns.moved relation) := by
  have hmerge : merge [] (movedAll relation children) =
      (merge [] children).map (Columns.moved relation) := merge_movedAll relation children []
  rw [mergedColumns, mergedColumns, hmerge]
  cases merge [] children with
  | error fault => rfl
  | ok merged =>
    change Columns.group (Keyed.values (Columns.moved relation merged)) = _
    rw [Columns.moved, Keyed.values_mapValues, Columns.group_map_rebind, Outcome.ok_bind]

theorem movedAll_eq_map (children : List Partition) :
    movedAll relation children = children.map (moved relation) := by
  induction children with
  | nil => rfl
  | cons child rest ih => rw [movedAll, ih, List.map_cons]

/-! ### Moving as it is done -/

variable {relation}

theorem rebindAll_eq_movedAll {children : List Partition}
    (h : ∀ child ∈ children, child.rebind relation = .ok (child.moved relation)) :
    rebindAll relation children = .ok (movedAll relation children) := by
  induction children with
  | nil => rfl
  | cons child rest ih =>
    rw [rebindAll, h child (List.mem_cons_self ..), ih (List.forall_mem_of_forall_mem_cons h)]
    rfl

/-- **A formed partition can be moved**, and only the relations change. The induction is on how it
is formed. -/
theorem Formed.rebind_eq {p : Partition} (h : p.Formed) (relation : Relation) :
    p.rebind relation = .ok (p.moved relation) := by
  have hagain : ∀ {columns : Columns}, Columns.Settled columns →
      Columns.group (Keyed.values (Columns.moved relation columns)) =
        .ok (Columns.moved relation columns) := fun h => h.moved relation
  have hne : ∀ {columns : Columns}, columns ≠ [] →
      (Columns.moved relation columns).isEmpty = false := fun hnonempty =>
    List.isEmpty_eq_false_iff.mpr (Columns.moved_ne_nil relation hnonempty)
  induction h with
  | plain hcolumns =>
    rw [rebind, hcolumns.rebind_eq relation]
    rfl
  | cube hcolumns hnonempty =>
    rw [rebind, hcolumns.rebind_eq relation, Outcome.ok_bind, Partition.cube, hagain hcolumns,
      Outcome.ok_bind, hne hnonempty]
    rfl
  | rollup hcolumns hnonempty =>
    rw [rebind, hcolumns.rebind_eq relation, Outcome.ok_bind, Partition.rollup, hagain hcolumns,
      Outcome.ok_bind, hne hnonempty]
    rfl
  | lists _ hmerged ih =>
    rw [rebind, rebindAll_eq_movedAll ih, Outcome.ok_bind, groupingList, mergedColumns_movedAll,
      hmerged]
    rfl
  | sets _ hmerged ih =>
    rw [rebind, rebindAll_eq_movedAll ih, Outcome.ok_bind, groupingSet, mergedColumns_movedAll,
      hmerged]
    rfl
  | window hcolumns =>
    rw [rebind, hcolumns.rebind_eq relation]
    rfl

/-- A partition that was moved is formed like any other. -/
theorem Formed.moved {p : Partition} (h : p.Formed) (relation : Relation) :
    (p.moved relation).Formed := by
  have hmember : ∀ {children : List Partition},
      (∀ child ∈ children, (child.moved relation).Formed) →
      ∀ next ∈ movedAll relation children, next.Formed := by
    intro children hchildren next hnext
    rw [movedAll_eq_map] at hnext
    obtain ⟨child, hchild, rfl⟩ := List.mem_map.mp hnext
    exact hchildren child hchild
  have hmerge : ∀ {children : List Partition} {columns : Columns},
      mergedColumns children = .ok columns →
      mergedColumns (movedAll relation children) = .ok (Columns.moved relation columns) := by
    intro children columns hmerged
    rw [mergedColumns_movedAll, hmerged]
    rfl
  induction h with
  | plain hcolumns => exact .plain (hcolumns.moved relation)
  | cube hcolumns hnonempty =>
    exact .cube (hcolumns.moved relation) (Columns.moved_ne_nil relation hnonempty)
  | rollup hcolumns hnonempty =>
    exact .rollup (hcolumns.moved relation) (Columns.moved_ne_nil relation hnonempty)
  | lists _ hmerged ih => exact .lists (hmember ih) (hmerge hmerged)
  | sets _ hmerged ih => exact .sets (hmember ih) (hmerge hmerged)
  | window hcolumns => exact .window (hcolumns.moved relation)

/-! ### What a move leaves as it is -/

end Partition

end QueryFrame
