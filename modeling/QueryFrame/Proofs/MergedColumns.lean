import QueryFrame.Error.Wording
import QueryFrame.Proofs.SelectList
import QueryFrame.Sample

/-!
# The columns of nested groupings

A list or set of groupings merges the columns of its members, of which some have merged the columns
of theirs. The columns that were given to begin with are those of the *leaves*, the partitions
without members (`Partition.leafColumns`). However the leaves are nested, the outcome is what comes
of adding their columns one after another without replacing any (`Partition.Formed.columns_eq`).
So merging keeps every name and the first column of each.

Two things hold this up. Adding to what was added is adding (`Keyed.union_union`), so it does not
matter how far the columns were merged before. And what the members have is settled, so the check
that follows a merge finds no fault and no name twice (`Partition.mergedColumns_eq`). The only way
to fail is a window among the members (`Partition.mergedColumns_of_window`).

For lists and sets alike this is `Partition.groupingList_collects`.
-/

namespace QueryFrame

namespace Partition

variable {children : List Partition}

/-! ## Leaves -/

mutual

/-- The columns of the leaves, from the first leaf to the last. -/
def leafColumns : Partition → Columns
  | ⟨columns, .plain⟩ | ⟨columns, .cube⟩ | ⟨columns, .rollup⟩ | ⟨columns, .window _⟩ => columns
  | ⟨_, .lists children⟩ | ⟨_, .sets children⟩ => allLeafColumns children

/-- The columns of the leaves of all members. -/
def allLeafColumns : List Partition → Columns
  | [] => []
  | child :: rest => leafColumns child ++ allLeafColumns rest

end

theorem allLeafColumns_eq_flatMap (children : List Partition) :
    allLeafColumns children = children.flatMap leafColumns := by
  induction children with
  | nil => rfl
  | cons child rest ih => rw [allLeafColumns, ih, List.flatMap_cons]

/-- It does not matter whether each member was merged before. -/
theorem union_flatMap_leafColumns
    (h : ∀ child ∈ children, child.columns = Keyed.union [] child.leafColumns) (found : Columns) :
    Keyed.union found (children.flatMap columns) =
      Keyed.union found (children.flatMap leafColumns) := by
  induction children generalizing found with
  | nil => rfl
  | cons child rest ih =>
    obtain ⟨hchild, hrest⟩ := List.forall_mem_cons.mp h
    rw [List.flatMap_cons, List.flatMap_cons, Keyed.union_append, Keyed.union_append, hchild,
      Keyed.union_union, Keyed.union_nil, ih hrest]

/-- **The columns of a formed partition are those of its leaves, added up**, to whatever depth it is
nested. The induction is on how it is formed. -/
theorem Formed.columns_eq {p : Partition} (h : p.Formed) :
    p.columns = Keyed.union [] p.leafColumns := by
  have hleaf : ∀ {columns : Columns}, Columns.Settled columns →
      columns = Keyed.union [] columns := fun {columns} h =>
    (@Keyed.union_of_nodup Series [] columns (Columns.settled_iff.mp h).2).symm
  have hmerged : ∀ {children : List Partition} {columns : Columns},
      (∀ child ∈ children, child.Formed) → mergedColumns children = .ok columns →
      (∀ child ∈ children, child.columns = Keyed.union [] child.leafColumns) →
      columns = Keyed.union [] (allLeafColumns children) := by
    intro children columns hchildren hmerged ih
    have hsettled := fun child hchild => (hchildren child hchild).settled
    rw [mergedColumns_eq_union hsettled hmerged, union_flatMap_leafColumns ih,
      allLeafColumns_eq_flatMap]
  induction h with
  | plain h | cube h _ | rollup h _ | window h => exact hleaf h
  | lists hchildren h ih | sets hchildren h ih => exact hmerged hchildren h ih

/-! ## Members -/

/-- The members of a formed partition are formed, and group rows. -/
theorem Formed.of_mem_children {p child : Partition} (h : p.Formed) (hchild : child ∈ p.children) :
    child.Formed ∧ child.isWindow = false := by
  cases h with
  | lists hchildren hmerged | sets hchildren hmerged =>
    exact ⟨hchildren child hchild, isWindow_of_mergedColumns hmerged child hchild⟩
  | _ => cases hchild

/-- So there is no window anywhere within, unless the partition is one itself. -/
theorem Formed.of_within {p member : Partition} (h : p.Formed) (hgroups : p.isWindow = false)
    (hwithin : p.Within member) : member.Formed ∧ member.isWindow = false := by
  induction hwithin with
  | refl => exact ⟨h, hgroups⟩
  | tail _ hmember ih => exact ih.1.of_mem_children hmember

/-- The columns of a list or set of groupings are those of its members, added up. -/
theorem Formed.columns_eq_children {p : Partition} (h : p.Formed) {inner : List Partition}
    (hshape : p.shape = .lists inner ∨ p.shape = .sets inner) :
    p.children = inner ∧ p.columns = Keyed.union [] (inner.flatMap columns) := by
  have hchildren : p.children = inner := by
    rw [children]
    rcases hshape with hshape | hshape <;> rw [hshape] <;> rfl
  have hmerged : mergedColumns inner = .ok p.columns := by
    cases h with
    | lists _ hmerged | sets _ hmerged =>
      obtain rfl := hchildren
      exact hmerged
    | _ => rcases hshape with hshape | hshape <;> cases hshape
  have hsettled : ∀ child ∈ inner, Columns.Settled child.columns := fun child hchild =>
    (h.of_mem_children (hchildren ▸ hchild)).1.settled
  exact ⟨hchildren, mergedColumns_eq_union hsettled hmerged⟩

/-- **A nested list can be dissolved.** Merging its members in its place comes to the same, faults
included. -/
theorem mergedColumns_dissolve {before after inner : List Partition} {nested : Partition}
    (h : ∀ child ∈ before ++ nested :: after, child.Formed)
    (hshape : nested.shape = .lists inner ∨ nested.shape = .sets inner) :
    mergedColumns (before ++ nested :: after) = mergedColumns (before ++ inner ++ after) := by
  have hnested : nested.Formed := h nested (List.mem_append_right _ (List.mem_cons_self ..))
  have hgroups : nested.isWindow = false := by
    rw [isWindow]
    rcases hshape with hshape | hshape <;> rw [hshape] <;> rfl
  obtain ⟨hchildren, hcolumns⟩ := hnested.columns_eq_children hshape
  have hinner : ∀ child ∈ inner, child.Formed ∧ child.isWindow = false := fun child hchild =>
    hnested.of_mem_children (hchildren ▸ hchild)
  -- neither the nested list nor a member of it is a window
  have hsame : (∃ child ∈ before ++ nested :: after, child.isWindow = true) ↔
      ∃ child ∈ before ++ inner ++ after, child.isWindow = true := by
    grind
  by_cases hwindow : ∃ child ∈ before ++ nested :: after, child.isWindow = true
  · rw [mergedColumns_of_window hwindow, mergedColumns_of_window (hsame.mp hwindow)]
  · have hnone : ∀ {list : List Partition}, (¬ ∃ child ∈ list, child.isWindow = true) →
        ∀ child ∈ list, child.isWindow = false := fun hlist child hchild =>
      Bool.eq_false_iff.mpr fun htrue => hlist ⟨child, hchild, htrue⟩
    have hformed : ∀ child ∈ before ++ inner ++ after, child.Formed := by
      grind
    rw [mergedColumns_eq (fun child hchild => (h child hchild).settled) (hnone hwindow),
      mergedColumns_eq (fun child hchild => (hformed child hchild).settled)
        (hnone fun hother => hwindow (hsame.mpr hother))]
    simp only [List.flatMap_append, List.flatMap_cons, Keyed.union_append]
    rw [hcolumns, Keyed.union_union, Keyed.union_nil]

/-! ## Lists and sets of groupings -/

/-- What collecting the members of a list or set of groupings comes to. -/
structure Collects (form : List Partition → Outcome Partition) (shape : List Partition → Shape)
    (children : List Partition) : Prop where
  /-- it is refused exactly if there is a window among the members -/
  refused : (∃ fault, form children = .error fault) ↔ ∃ child ∈ children, child.isWindow = true
  /-- and for no other reason -/
  reason : ∀ fault, form children = .error fault →
    fault = .grouping (.notGrouping "window") ∧ fault.code = "GROUP_007"
  /-- otherwise the members are kept as they are -/
  kept : ∀ p, form children = .ok p → p.shape = shape children ∧ p.children = children
  /-- the names are those of the leaves, where they first occur -/
  names : ∀ p, form children = .ok p →
    Keyed.keys p.columns = (Keyed.keys p.leafColumns).eraseDups
  /-- each stands for the column of the first leaf that has it, and of the first member -/
  first : ∀ p, form children = .ok p → ∀ name,
    Keyed.find? name p.columns = Keyed.find? name p.leafColumns ∧
      Keyed.find? name p.columns = children.findSome? fun child => Keyed.find? name child.columns
  /-- no window is anywhere within -/
  grouped : ∀ p, form children = .ok p → ∀ member, p.Within member → member.isWindow = false
  /-- a member that is a list or set itself can be dissolved without a change to the columns -/
  dissolved : ∀ before nested after inner, children = before ++ nested :: after →
    nested.shape = .lists inner ∨ nested.shape = .sets inner →
    (form children).map columns = (form (before ++ inner ++ after)).map columns

/-- Whichever of the two it is, the columns are merged. -/
theorem Collects.of_mergedColumns {form : List Partition → Outcome Partition}
    {shape : List Partition → Shape}
    (hform : ∀ list, form list = (mergedColumns list).map fun columns => ⟨columns, shape list⟩)
    (hformed : ∀ {columns}, mergedColumns children = .ok columns →
      (⟨columns, shape children⟩ : Partition).Formed)
    (hshape : shape children = .lists children ∨ shape children = .sets children)
    (h : ∀ child ∈ children, child.Formed) : Collects form shape children := by
  have hleaves : ∀ columns, (⟨columns, shape children⟩ : Partition).leafColumns =
      allLeafColumns children := by
    intro columns
    rcases hshape with hshape | hshape <;> rw [hshape] <;> rfl
  have hwindow : ∀ columns, (⟨columns, shape children⟩ : Partition).isWindow = false := by
    intro columns
    rcases hshape with hshape | hshape <;> rw [isWindow, hshape] <;> rfl
  have hok : ∀ {p}, form children = .ok p →
      p = ⟨p.columns, shape children⟩ ∧ mergedColumns children = .ok p.columns ∧ p.Formed := by
    intro p hp
    rw [hform] at hp
    obtain ⟨columns, hcolumns, rfl⟩ := Outcome.map_eq_ok hp
    exact ⟨rfl, hcolumns, hformed hcolumns⟩
  have hfault : ∀ {fault}, form children = .error fault →
      (∃ child ∈ children, child.isWindow = true) ∧
        fault = .grouping (.notGrouping "window") := by
    intro fault hfault
    rw [hform, Outcome.map_eq_error_iff] at hfault
    by_cases hany : ∃ child ∈ children, child.isWindow = true
    · rw [mergedColumns_of_window hany] at hfault
      exact ⟨hany, (Except.error.inj hfault).symm⟩
    · have hgroups : ∀ child ∈ children, child.isWindow = false := fun child hchild =>
        Bool.eq_false_iff.mpr fun htrue => hany ⟨child, hchild, htrue⟩
      rw [mergedColumns_eq (fun child hchild => (h child hchild).settled) hgroups] at hfault
      cases hfault
  refine ⟨⟨?_, ?_⟩, ?_, ?_, ?_, ?_, ?_, ?_⟩
  · rintro ⟨fault, hrefused⟩
    exact (hfault hrefused).1
  · intro hany
    rw [hform, mergedColumns_of_window hany]
    exact ⟨_, rfl⟩
  · intro fault hrefused
    rw [(hfault hrefused).2]
    exact ⟨rfl, rfl⟩
  · intro p hp
    obtain ⟨hpartition, -, hown⟩ := hok hp
    have hkept : p.shape = shape children := congrArg Partition.shape hpartition
    refine ⟨hkept, ?_⟩
    rw [Partition.children, hkept]
    rcases hshape with hshape | hshape <;> rw [hshape] <;> rfl
  · intro p hp
    rw [(hok hp).2.2.columns_eq, Keyed.keys_union_nil]
  · intro p hp name
    obtain ⟨hpartition, hmerged, hown⟩ := hok hp
    have hsettled := fun child hchild => (h child hchild).settled
    refine ⟨?_, ?_⟩
    · rw [hown.columns_eq, Keyed.find?_union]
      rfl
    · rw [mergedColumns_eq_union hsettled hmerged, Keyed.find?_union, Keyed.find?_flatMap]
      rfl
  · intro p hp member hwithin
    obtain ⟨hpartition, -, hown⟩ := hok hp
    have hgroups : p.isWindow = false := by
      rw [hpartition]
      exact hwindow _
    exact (hown.of_within hgroups hwithin).2
  · rintro before nested after inner rfl hnested
    rw [hform, hform, mergedColumns_dissolve h hnested]
    cases mergedColumns (before ++ inner ++ after) <;> rfl

/-- **Merging loses nothing and makes nothing up.** Members that are built by constructors, nested
to any depth, can be collected to a list or a set of groupings unless one of them is a window. -/
theorem groupingList_collects {C : Series → Prop} (h : ∀ child ∈ children, child.Built C) :
    Collects groupingList .lists children ∧ Collects groupingSet .sets children := by
  have hformed : ∀ child ∈ children, child.Formed := fun child hchild => (h child hchild).formed
  have hmap : ∀ shape : List Partition → Shape, ∀ list,
      (mergedColumns list >>= fun columns => pure (⟨columns, shape list⟩ : Partition)) =
        (mergedColumns list).map fun columns => ⟨columns, shape list⟩ := by
    intro shape list
    cases mergedColumns list <;> rfl
  exact ⟨.of_mergedColumns (hmap .lists) (.lists hformed) (.inl rfl) hformed,
    .of_mergedColumns (hmap .sets) (.sets hformed) (.inr rfl) hformed⟩

/-- A list with a set in it, where the first leaf says what `b` is. The set can be dissolved. With a
window at the end nothing is collected. -/
theorem groupingList_collects_nested :
    let a := Sample.series Sample.relation "a"
    let b := Sample.series Sample.relation "b"
    let c := Sample.series Sample.relation "c"
    let lowered := { b with expr := ⟨.regular, [.raw "lower(", .column "b", .raw ")"]⟩ }
    let first : Partition := ⟨[("b", lowered)], .plain⟩
    let cube : Partition := ⟨[("c", c), ("b", b)], .cube⟩
    let set : Partition := ⟨[("b", lowered), ("c", c)], .sets [first, cube]⟩
    let rollup : Partition := ⟨[("a", a), ("b", b)], .rollup⟩
    let children := [set, rollup, .all]
    (∀ child ∈ children, child.Built fun _ => True) ∧
      (∃ p, groupingList children = .ok p ∧ p.children = children ∧
        Keyed.keys p.columns = ["b", "c", "a"] ∧ Keyed.find? "b" p.columns = some lowered ∧
        (groupingList [first, cube, rollup, .all]).map columns = .ok p.columns) ∧
      groupingSet (children ++ [Sample.window.partition]) =
        .error (.grouping (.notGrouping "window")) := by
  intro a b c lowered first cube set rollup children
  have hfirst : first.Built fun _ => True :=
    .groupBy (fun _ _ => trivial) (show groupBy [lowered] = .ok first by decide +kernel)
  have hcube : cube.Built fun _ => True :=
    .cube (fun _ _ => trivial) (show Partition.cube [c, b] = .ok cube by decide +kernel)
  have hset : set.Built fun _ => True :=
    .groupingSet (List.forall_mem_cons.mpr ⟨hfirst, List.forall_mem_singleton.mpr hcube⟩)
      (by decide +kernel)
  have hrollup : rollup.Built fun _ => True :=
    .rollup (fun _ _ => trivial) (show Partition.rollup [a, b] = .ok rollup by decide +kernel)
  have hchildren : ∀ child ∈ children, child.Built fun _ => True :=
    List.forall_mem_cons.mpr ⟨hset, List.forall_mem_cons.mpr
      ⟨hrollup, List.forall_mem_singleton.mpr .all⟩⟩
  have hwindow : Sample.window.partition.Built fun _ => True :=
    .window (fun _ _ => trivial)
      (show Window.make [b] Sample.window.spec.order Sample.window.spec.frame (some 2) =
        .ok Sample.window by decide +kernel)
  refine ⟨hchildren, ?_, ?_⟩
  · obtain ⟨p, hp⟩ : ∃ p, groupingList children = .ok p := ⟨_, rfl⟩
    have hlist := (groupingList_collects hchildren).1
    have hleaves : p.leafColumns = [("b", lowered), ("c", c), ("b", b), ("a", a), ("b", b)] := by
      rw [← Except.ok.inj hp]
      rfl
    refine ⟨p, hp, (hlist.kept p hp).2, ?_, ?_, ?_⟩
    · rw [hlist.names p hp, hleaves]
      decide +kernel
    · rw [(hlist.first p hp "b").1, hleaves]
      rfl
    · have hdissolved := hlist.dissolved [] set [rollup, .all] [first, cube] rfl (.inr rfl)
      rw [hp] at hdissolved
      exact hdissolved.symm
  · have hall : ∀ child ∈ children ++ [Sample.window.partition], child.Built fun _ => True := by
      rw [List.forall_mem_append]
      exact ⟨hchildren, List.forall_mem_singleton.mpr hwindow⟩
    have hset := (groupingList_collects hall).2
    obtain ⟨fault, hfault⟩ := hset.refused.mpr
      ⟨_, List.mem_append_right _ (List.mem_singleton_self _), rfl⟩
    rw [hfault, (hset.reason fault hfault).1]

end Partition

end QueryFrame
