import QueryFrame.Proofs.Elements
import QueryFrame.Proofs.Runs

/-!
# Select lists and what rows are grouped on

A query that groups rows may select what it groups on and nothing else besides aggregates. The two
come from different places: the items of the select list from the columns of the partition, which
for a list of groupings are merged from those of its members, and the clause from the members
themselves. `Partition.Agrees` says how they fit together, item by item and in both directions.

Merging loses no name and makes up no column (`Partition.mem_keys_mergedColumns`,
`Partition.mem_columns_of_mergedColumns`). So by induction on a formed partition whatever its
columns are grouped on is an element of the clause (`Partition.Formed.grouped`), and whatever is an
element of the clause belongs to a name among the columns (`Partition.Formed.named`). Grouped
dataframes have the columns of their partition as index, so what holds of partitions holds of
them.
-/

namespace QueryFrame

/-! ## Items and the expressions they show -/

namespace Series

/-- How an expression that a series is grouped on can be selected: as it is if it is the column of
the right name already, or else under the name of the series or of one of its levels. -/
inductive Selects (s : Series) : Expr → Expr → Prop
  | column (hsingle : s.isComposite = false) (h : s.expr = .column s.name) :
      s.Selects s.expr s.expr
  | aliased (hsingle : s.isComposite = false) {item : Expr} (h : s.expr.aliased s.name = .ok item) :
      s.Selects item s.expr
  | level {name : String} {level : Series} (hlevel : (name, level) ∈ s.levels) {item : Expr}
      (h : level.expr.aliased (s.levelName name) = .ok item) : s.Selects item level.expr

/-- An item shows the expression itself or under another name. -/
theorem Selects.shows {s : Series} {item e : Expr} (h : s.Selects item e) :
    item = e ∨ ∃ name, e.aliased name = .ok item := by
  cases h with
  | column => exact .inl rfl
  | aliased _ h => exact .inr ⟨s.name, h⟩
  | @level name _ _ _ h => exact .inr ⟨s.levelName name, h⟩

end Series

/-- Every expression can be given a name. -/
theorem Expr.exists_aliased (e : Expr) (name : String) : ∃ item, e.aliased name = .ok item := by
  have hword : Word " as " := .fixed (by decide)
  have htails : ∀ text ∈ [" as ", ""], text = "" ∨ Word text :=
    List.forall_mem_cons.mpr ⟨.inr hword, List.forall_mem_singleton.mpr (.inl rfl)⟩
  exact @exists_construct_spell .regular "" [" as ", ""] [e, .identifier name] (.inl rfl) htails rfl

namespace Series

/-- The levels of a series can be selected, each under its name. -/
theorem exists_levelItems (s : Series) :
    ∃ items, s.levelItems = .ok items ∧ List.Forall₂ s.Selects items s.levelExprs := by
  have hall : ∀ levels : Columns, (∀ level ∈ levels, level ∈ s.levels) →
      ∃ items, levels.mapM (fun level => level.2.expr.aliased (s.levelName level.1)) = .ok items ∧
        List.Forall₂ s.Selects items (levels.map fun level => level.2.expr) := by
    intro levels hlevels
    induction levels with
    | nil => exact ⟨[], rfl, .nil⟩
    | cons first rest ih =>
      obtain ⟨hfirst, hrest⟩ := List.forall_mem_cons.mp hlevels
      obtain ⟨item, hitem⟩ := first.2.expr.exists_aliased (s.levelName first.1)
      obtain ⟨items, hitems, hselects⟩ := ih hrest
      refine ⟨item :: items, ?_, .cons (.level hfirst hitem) hselects⟩
      rw [List.mapM_cons, hitem, Outcome.ok_bind, hitems]
      rfl
  exact hall s.levels fun _ => id

/-- So can the series itself. -/
theorem exists_selectItem {s : Series} (hsingle : s.isComposite = false) :
    ∃ item, s.selectItem = .ok item ∧ s.Selects item s.expr := by
  rw [selectItem]
  split
  · next hcolumn => exact ⟨s.expr, rfl, .column hsingle hcolumn⟩
  · obtain ⟨item, hitem⟩ := s.expr.exists_aliased s.name
    exact ⟨item, hitem, .aliased hsingle hitem⟩

/-- Every series can be selected level by level. -/
theorem exists_ownItems (s : Series) :
    ∃ items, s.ownItems false = .ok items ∧ List.Forall₂ s.Selects items s.groupExprs := by
  rw [ownItems, Bool.not_false, Bool.and_true, groupExprs]
  split
  · exact s.exists_levelItems
  · next hsingle =>
    obtain ⟨item, hitem, hselects⟩ := exists_selectItem (Bool.eq_false_iff.mpr hsingle)
    rw [hitem]
    exact ⟨[item], rfl, .cons hselects .nil⟩

/-- **The select list of some series** goes along with the expressions that they are grouped on,
one item for each, in order. -/
theorem exists_selectItems (columns : List Series) :
    ∃ items, selectItems false columns = .ok items ∧
      List.Forall₂ (fun item e => ∃ s ∈ columns, s.Selects item e) items
        (columns.flatMap groupExprs) := by
  induction columns with
  | nil => exact ⟨[], rfl, .nil⟩
  | cons s rest ih =>
    obtain ⟨own, hown, hselects⟩ := s.exists_ownItems
    obtain ⟨others, hothers, hrest⟩ := ih
    refine ⟨own ++ others, ?_, ?_⟩
    · rw [selectItems_cons, hown, Outcome.ok_bind, hothers]
      rfl
    · rw [List.flatMap_cons]
      refine List.rel_append (hselects.imp fun item e h => ?_) (hrest.imp fun item e h => ?_)
      · exact ⟨s, List.mem_cons_self .., h⟩
      · obtain ⟨other, hother, h⟩ := h
        exact ⟨other, List.mem_cons_of_mem _ hother, h⟩

/-- A select list of two groups of series consists of a list for each. -/
theorem selectItems_append {whole : Bool} {left right : List Series} {items others : List Expr}
    (hleft : selectItems whole left = .ok items) (hright : selectItems whole right = .ok others) :
    selectItems whole (left ++ right) = .ok (items ++ others) := by
  induction left generalizing items with
  | nil =>
    obtain rfl := Except.ok.inj hleft
    exact hright
  | cons s rest ih =>
    rw [selectItems_cons] at hleft
    obtain ⟨own, hown, h⟩ := Outcome.bind_eq_ok hleft
    obtain ⟨more, hmore, h⟩ := Outcome.bind_eq_ok h
    rw [List.cons_append, selectItems_cons, hown, Outcome.ok_bind, ih hmore,
      ← Outcome.pure_eq_ok h, List.append_assoc]
    rfl

end Series

/-! ## Merged columns -/

namespace Partition

variable {children : List Partition} {columns : Columns}

/-- **The names of a list of groupings** are those of its members. -/
theorem mem_keys_mergedColumns (hchildren : ∀ child ∈ children, child.Formed)
    (h : mergedColumns children = .ok columns) {name : String} :
    name ∈ Keyed.keys columns ↔ ∃ child ∈ children, name ∈ Keyed.keys child.columns := by
  have hsettled := fun child hchild => (hchildren child hchild).settled
  have hkeys : Keyed.keys (children.flatMap Partition.columns) =
      children.flatMap fun child => Keyed.keys child.columns := by
    rw [Keyed.keys, List.map_flatMap]
    rfl
  rw [mergedColumns_eq_union hsettled h, Keyed.mem_keys_union, hkeys, List.mem_flatMap]
  simp

/-- **The columns of a list of groupings** are grouped on as columns of some member are. -/
theorem mem_columns_of_mergedColumns (h : mergedColumns children = .ok columns)
    {entry : String × Series} (hentry : entry ∈ columns) :
    ∃ child ∈ children, ∃ own ∈ child.columns, own.2.groupExprs = entry.2.groupExprs := by
  obtain ⟨merged, hgroup, hmem⟩ := mergedColumns_eq_ok h
  obtain ⟨own, hown, -, rfl⟩ := Columns.mem_of_group hgroup hentry
  obtain ⟨child, hchild, key, hkey⟩ := hmem own hown
  exact ⟨child, hchild, (key, own), hkey, rfl⟩

/-- What a list of groupings groups on, some member groups on. -/
theorem exists_child_of_mem_groupExprs (h : mergedColumns children = .ok columns) {e : Expr}
    (he : e ∈ Columns.groupExprs columns) : ∃ child ∈ children, e ∈ child.groupExprs := by
  obtain ⟨entry, hentry, he⟩ := (@mem_groupExprs ⟨columns, .plain⟩ e).mp he
  obtain ⟨child, hchild, own, hown, heq⟩ := mem_columns_of_mergedColumns h hentry
  refine ⟨child, hchild, mem_groupExprs.mpr ⟨own, hown, ?_⟩⟩
  rw [heq]
  exact he

/-! ## Both directions -/

/-- If each member groups on what its columns are grouped on, some member groups on what the columns
of a list are grouped on. -/
theorem exists_child_of_mergedColumns
    (hchildren : ∀ child ∈ children, child.isWindow = false →
      ∀ e ∈ child.groupExprs, e ∈ child.leafExprs)
    (h : mergedColumns children = .ok columns) :
    ∀ e ∈ Columns.groupExprs columns, ∃ child ∈ children, e ∈ child.leafExprs := by
  intro e he
  obtain ⟨child, hchild, hown⟩ := exists_child_of_mem_groupExprs h he
  exact ⟨child, hchild, hchildren child hchild (isWindow_of_mergedColumns h child hchild) e hown⟩

/-- **Whatever the columns are grouped on is an element of the clause.** -/
theorem Formed.grouped {p : Partition} (h : p.Formed) (hgroups : p.isWindow = false) :
    ∀ e ∈ p.groupExprs, e ∈ p.leafExprs := by
  induction h with
  | plain | cube | rollup => exact fun e => id
  | @lists children _ _ hmerged ih | @sets children _ _ hmerged ih =>
    intro e he
    have hsome := exists_child_of_mergedColumns ih hmerged e he
    rw [← List.mem_flatMap, ← allLeafExprs_eq_flatMap] at hsome
    exact hsome
  | window => cases hgroups

/-- For a list or set of groupings it is one of some member. -/
theorem Formed.member_grouped {p : Partition} (h : p.Formed) {children : List Partition}
    (hshape : p.shape = .lists children ∨ p.shape = .sets children) :
    ∀ e ∈ p.groupExprs, ∃ child ∈ children, e ∈ child.leafExprs := by
  obtain ⟨hchildren, hmerged⟩ : (∀ child ∈ children, child.Formed) ∧
      mergedColumns children = .ok p.columns := by
    cases h with
    | lists hchildren hmerged | sets hchildren hmerged =>
      rcases hshape with hshape | hshape <;> cases hshape
      exact ⟨hchildren, hmerged⟩
    | _ => rcases hshape with hshape | hshape <;> cases hshape
  exact exists_child_of_mergedColumns (fun child hchild => (hchildren child hchild).grouped) hmerged

/-- The partition itself, its members, the members of those, and so on. -/
def Within : Partition → Partition → Prop :=
  Relation.ReflTransGen fun p child => child ∈ p.children

/-- **Whatever is an element of the clause belongs to a name among the columns**: it is what some
column of that name is grouped on, in the partition or within. -/
theorem Formed.named {p : Partition} (h : p.Formed) :
    ∀ e ∈ p.leafExprs, ∃ member, p.Within member ∧ ∃ entry ∈ member.columns,
      e ∈ entry.2.groupExprs ∧ entry.1 ∈ Keyed.keys p.columns := by
  have hown : ∀ {p : Partition}, ∀ e ∈ p.groupExprs, ∃ member, p.Within member ∧
      ∃ entry ∈ member.columns, e ∈ entry.2.groupExprs ∧ entry.1 ∈ Keyed.keys p.columns := by
    intro p e he
    obtain ⟨entry, hentry, he⟩ := mem_groupExprs.mp he
    exact ⟨p, .refl, entry, hentry, he, List.mem_map_of_mem hentry⟩
  have hlists : ∀ {p : Partition}, (∀ child ∈ p.children, child.Formed) →
      (∀ child ∈ p.children, ∀ e ∈ child.leafExprs, ∃ member, child.Within member ∧
        ∃ entry ∈ member.columns,
          e ∈ entry.2.groupExprs ∧ entry.1 ∈ Keyed.keys child.columns) →
      mergedColumns p.children = .ok p.columns →
      ∀ e ∈ allLeafExprs p.children, ∃ member, p.Within member ∧ ∃ entry ∈ member.columns,
        e ∈ entry.2.groupExprs ∧ entry.1 ∈ Keyed.keys p.columns := by
    intro p hchildren ih hmerged e he
    rw [allLeafExprs_eq_flatMap] at he
    obtain ⟨child, hchild, he⟩ := List.mem_flatMap.mp he
    obtain ⟨member, hwithin, entry, hentry, he, hname⟩ := ih child hchild e he
    exact ⟨member, .head hchild hwithin, entry, hentry, he,
      (mem_keys_mergedColumns hchildren hmerged).mpr ⟨child, hchild, hname⟩⟩
  induction h with
  | @plain columns => exact @hown ⟨columns, .plain⟩
  | @cube columns => exact @hown ⟨columns, .cube⟩
  | @rollup columns => exact @hown ⟨columns, .rollup⟩
  | @lists children columns hchildren hmerged ih =>
    exact @hlists ⟨columns, .lists children⟩ hchildren ih hmerged
  | @sets children columns hchildren hmerged ih =>
    exact @hlists ⟨columns, .sets children⟩ hchildren ih hmerged
  | window => exact List.forall_mem_nil _

/-- The select list of a partition and the clause that groups by it fit together. -/
structure Agrees (p : Partition) (items : List Expr) (clause : Option Expr) : Prop where
  /-- each expression of the columns is selected, in order, as it is or under a name -/
  selected : List.Forall₂
    (fun item e => ∃ entry ∈ p.columns, entry.1 = entry.2.name ∧ entry.2.Selects item e)
    items p.groupExprs
  /-- each expression of the columns is an element of the clause -/
  grouped : ∀ e ∈ p.groupExprs, e ∈ (clause.getD .empty).elements
  /-- for a list or set of groupings, each is an element of the clause of some member -/
  member : ∀ children, p.shape = .lists children ∨ p.shape = .sets children →
    ∀ e ∈ p.groupExprs, ∃ child ∈ children, ∃ own, child.clause = .ok own ∧
      e ∈ (own.getD .empty).elements
  /-- each element of the clause belongs to a column of a name that the partition has -/
  named : ∀ e ∈ (clause.getD .empty).elements, ∃ member, p.Within member ∧
    ∃ entry ∈ member.columns, e ∈ entry.2.groupExprs ∧ entry.1 ∈ Keyed.keys p.columns

/-- Each item shows an element of the clause. -/
theorem Agrees.shows {p : Partition} {items : List Expr} {clause : Option Expr}
    (h : p.Agrees items clause) {item : Expr} (hitem : item ∈ items) :
    ∃ e ∈ (clause.getD .empty).elements, item = e ∨ ∃ name, e.aliased name = .ok item := by
  obtain ⟨e, he, entry, -, -, hselects⟩ := Outcome.exists_of_forall₂ h.selected.flip hitem
  exact ⟨e, h.grouped e he, hselects.shows⟩

/-- **Select list and clause of a formed partition agree**, unless it is a window. -/
theorem Formed.agrees {p : Partition} (h : p.Formed) (hgroups : p.isWindow = false) :
    ∃ items clause, p.selectItems false = .ok items ∧ p.clause = .ok clause ∧
      p.Agrees items clause := by
  obtain ⟨items, hitems, hselected⟩ := Series.exists_selectItems (Keyed.values p.columns)
  obtain ⟨clause, hclause, helements⟩ := p.exists_clause
  refine ⟨items, clause, hitems, hclause, hselected.imp fun item e hitem => ?_, ?_,
    fun children hshape e he => ?_, ?_⟩
  · obtain ⟨column, hcolumn, hitem⟩ := hitem
    obtain ⟨key, hentry⟩ := Keyed.mem_values.mp hcolumn
    have hname := ((Columns.settled_iff.mp h.settled).1 _ hentry).name
    exact ⟨(key, column), hentry, hname, hitem⟩
  · rw [helements]
    exact h.grouped hgroups
  · obtain ⟨child, hchild, he⟩ := h.member_grouped hshape e he
    obtain ⟨own, hown, hsame⟩ := child.exists_clause
    rw [← hsame] at he
    exact ⟨child, hchild, own, hown, he⟩
  · rw [helements]
    exact h.named

end Partition

/-! ## Grouped dataframes -/

namespace DataFrame

/-- Whatever a call asks for is built out of series. -/
theorem built_of_partitionFor {df : DataFrame} {call : Grouping} {p : Partition}
    (h : df.partitionFor call = .ok p) : p.Built fun _ => True := by
  have hwindow : ∀ {keys frame minValues}, df.windowFor keys frame minValues = .ok p →
      p.Built fun _ => True := by
    intro keys frame minValues h
    obtain ⟨columns, window, -, hmake, rfl⟩ := windowFor_eq_ok h
    exact .window (fun _ _ => trivial) hmake
  have hlists : ∀ {lists children}, df.resolveLists lists = .ok children →
      ∀ child ∈ children, child.Built fun _ => True := by
    intro lists children hresolve child hchild
    obtain ⟨keys, -, columns, -, hgroup⟩ := mem_of_resolveLists hresolve hchild
    exact .groupBy (fun _ _ => trivial) hgroup
  cases call with
  | groupBy keys =>
    obtain ⟨columns, -, h⟩ := Outcome.bind_eq_ok h
    exact .groupBy (fun _ _ => trivial) h
  | cube keys =>
    obtain ⟨columns, -, h⟩ := Outcome.bind_eq_ok h
    exact .cube (fun _ _ => trivial) h
  | rollup keys =>
    obtain ⟨columns, -, h⟩ := Outcome.bind_eq_ok h
    exact .rollup (fun _ _ => trivial) h
  | groupingSets sets =>
    obtain ⟨children, hresolve, h⟩ := Outcome.bind_eq_ok h
    exact .groupingSet (hlists hresolve) h
  | groupingLists lists =>
    obtain ⟨children, hresolve, h⟩ := Outcome.bind_eq_ok h
    exact .groupingList (hlists hresolve) h
  | window keys frame minValues => exact hwindow h
  | rolling size minPeriods centred => exact hwindow (windowFor_of_rolling h)
  | expanding minPeriods => exact hwindow h

/-- What a step does to the partition: nothing, or a call has asked for the new one. -/
theorem Step.partition_cases {df next : DataFrame} (h : Step df next) :
    next.partition = df.partition ∨
      ∃ call p, df.partitionFor call = .ok p ∧ next.partition = some p := by
  cases h with
  | get h =>
    rw [(select_eq_ok (get_labels_eq_ok h)).2]
    exact .inl rfl
  | select h =>
    rw [(select_eq_ok h).2]
    exact .inl rfl
  | sortBy h =>
    rw [sortBy_eq_ok h]
    exact .inl rfl
  | @partitioned call _ h =>
    obtain ⟨p, hp, happly⟩ := partitioned_eq_ok h
    obtain ⟨-, ⟨-, rfl⟩ | ⟨-, rfl⟩⟩ := applyPartition_eq_ok happly
    · exact .inr ⟨call, p, hp, rfl⟩
    · exact .inr ⟨call, p, hp, rfl⟩

/-- **The partition of a dataframe** is built out of series. -/
theorem Reachable.built {df : DataFrame} (h : df.Reachable) :
    ∀ p, df.partition = some p → p.Built fun _ => True := by
  refine @Reachable.holds (fun df => ∀ p, df.partition = some p → p.Built fun _ => True) ?_ ?_ df h
  · rintro relation settings index data p ⟨⟩
  intro df next ih hstep p hp
  rcases hstep.partition_cases with hsame | ⟨call, other, hother, hnext⟩
  · rw [hsame] at hp
    exact ih p hp
  · rw [hnext] at hp
    rw [← Option.some.inj hp]
    exact built_of_partitionFor hother

/-- The select list of a dataframe starts with its index. -/
theorem exists_selectItems_index (df : DataFrame) {items : List Expr}
    (h : Series.selectItems false (Keyed.values df.index) = .ok items) :
    ∃ others, df.selectItems = .ok (items ++ others) := by
  obtain ⟨others, hothers, -⟩ := Series.exists_selectItems (Keyed.values df.data)
  exact ⟨others, Series.selectItems_append h hothers⟩

end DataFrame

/-- **Rows are selected by what they are grouped on.** Select list and clause agree for every
partition that can be built, unless it is a window, and the select list of a grouped dataframe
starts with the items of its partition: each shows an element of the clause of the dataframe. -/
theorem selectItems_agree_with_clause :
    (∀ (C : Series → Prop) (p : Partition), p.Built C → p.isWindow = false →
      ∃ items clause, p.selectItems false = .ok items ∧ p.clause = .ok clause ∧
        p.Agrees items clause) ∧
    ∀ (df : DataFrame) (p : Partition), df.Reachable → df.partition = some p →
      p.isWindow = false →
      ∃ items others clause, p.selectItems false = .ok items ∧
        df.selectItems = .ok (items ++ others) ∧ df.groupClause = .ok clause ∧
        p.Agrees items clause ∧
        ∀ item ∈ items, ∃ e ∈ (clause.getD .empty).elements,
          item = e ∨ ∃ name, e.aliased name = .ok item := by
  refine ⟨fun C p hp hgroups => hp.formed.agrees hgroups, fun df p hdf hp hgroups => ?_⟩
  obtain ⟨items, clause, hitems, hclause, hagrees⟩ := (hdf.built p hp).formed.agrees hgroups
  obtain ⟨hindex, -⟩ := hdf.coherent.grouped p hp hgroups
  have hown : Series.selectItems false (Keyed.values df.index) = .ok items := by
    rw [hindex]
    exact hitems
  obtain ⟨others, hothers⟩ := df.exists_selectItems_index hown
  refine ⟨items, others, clause, hitems, hothers, ?_, hagrees, fun item => hagrees.shows⟩
  rw [DataFrame.groupClause, hp]
  exact hclause

/-- Grouping sets over `a`, and over a cube of a series that is called `a` but computed from `b`
and of an interval. The first `a` is selected, and both are grouped on. -/
theorem selectItems_agree_with_clause_nested :
    let a := Sample.series Sample.relation "a"
    let b := Sample.series Sample.relation "b"
    let renamed : Series := { a with expr := b.expr }
    let pair : Series := { a with
      name := "pair"
      expr := ⟨.regular, [.raw "(", a.expr.token, .raw ", ", b.expr.token, .raw ")"]⟩
      levels := [("a", a), ("b", b)] }
    let first : Partition := ⟨[("a", a)], .plain⟩
    let second : Partition := ⟨[("a", renamed), ("pair", pair)], .cube⟩
    let p : Partition := ⟨[("a", a), ("pair", pair)], .sets [⟨[("a", a)], .lists [first]⟩, second]⟩
    p.Built (fun _ => True) ∧ p.groupExprs = [a.expr, a.expr, b.expr] ∧
      (∃ items clause, p.selectItems false = .ok items ∧ p.clause = .ok clause ∧
        p.Agrees items clause ∧
        (clause.getD .empty).elements = [a.expr, b.expr, a.expr, b.expr]) ∧
      ∃ df q items others clause,
        (Sample.dataFrame [] ["a", "b"]).groupBy [.label "a", .series renamed] = .ok df ∧
        df.partition = some q ∧ q.groupExprs = [b.expr] ∧
        df.selectItems = .ok (items ++ others) ∧ df.groupClause = .ok clause ∧
        q.Agrees items clause := by
  intro a b renamed pair first second p
  have hfirst : first.Built fun _ => True :=
    @Partition.Built.groupBy _ [a] _ (fun _ _ => trivial) (by decide +kernel)
  have hlist : Partition.Built (fun _ => True) ⟨[("a", a)], .lists [first]⟩ :=
    @Partition.Built.groupingList _ [first] _ (List.forall_mem_singleton.mpr hfirst)
      (by decide +kernel)
  have hsecond : second.Built fun _ => True :=
    @Partition.Built.cube _ [renamed, pair] _ (fun _ _ => trivial) (by decide +kernel)
  have hp : p.Built fun _ => True :=
    @Partition.Built.groupingSet _ [⟨[("a", a)], .lists [first]⟩, second] _
      (List.forall_mem_cons.mpr ⟨hlist, List.forall_mem_singleton.mpr hsecond⟩) (by decide +kernel)
  obtain ⟨items, clause, hitems, hclause, hagrees⟩ :=
    selectItems_agree_with_clause.1 _ p hp rfl
  obtain ⟨other, hother, helements⟩ := p.exists_clause
  obtain rfl : clause = other := Except.ok.inj (hclause.symm.trans hother)
  let q : Partition := ⟨[("a", renamed)], .plain⟩
  let df : DataFrame := { Sample.dataFrame [] ["a", "b"] with
    index := q.columns
    data := [("b", { b with index := q.columns, partition := some q })]
    partition := some q }
  have hdf : (Sample.dataFrame [] ["a", "b"]).groupBy [.label "a", .series renamed] = .ok df := rfl
  have hreach : df.Reachable := ⟨_, _, _, _, .single (@DataFrame.Step.partitioned _
    (.groupBy [.label "a", .series renamed]) _ hdf)⟩
  obtain ⟨shown, others, groups, -, hselect, hgroups, hfits, -⟩ :=
    selectItems_agree_with_clause.2 df _ hreach rfl rfl
  exact ⟨hp, by decide +kernel, ⟨items, clause, hitems, hclause, hagrees, helements⟩, df, _, shown,
    others, groups, hdf, rfl, by decide +kernel, hselect, hgroups, hfits⟩

end QueryFrame
