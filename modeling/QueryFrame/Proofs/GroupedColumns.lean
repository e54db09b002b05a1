import QueryFrame.Error.Wording
import QueryFrame.Proofs.Formed
import QueryFrame.Proofs.GroupKeys
import QueryFrame.Proofs.Grouped

/-!
# What becomes of the columns that are grouped on

A series that cannot be grouped on may have several faults, and one of them is reported: of the
levels the first that is constant, and otherwise the first kind of fault that the series as a whole
has (`Series.FirstFault`). Of several series at fault it is the first one that is reported.

If no series is at fault, the names stand in the order in which they first occur, and each has the
last series of its name. Both are known from the list alone (`Partition.groupBy_fails_or_collects`).
So a series at fault is reported even where a later one would have taken its place.
-/

namespace QueryFrame

namespace Series

variable {s : Series} {fault : GroupingFault}

/-! ## Faults of a series -/

/-- The fault that is reported of a series, and its code. Each kind is only reported of a series
that has none of the kinds before it. -/
inductive FirstFault (s : Series) : GroupingFault → String → Prop
  /-- the first level that is constant -/
  | constantLevel {before after : Columns} {level : String × Series}
      (hlevels : s.levels = before ++ level :: after)
      (hbefore : ∀ other ∈ before, other.2.expr.isConstant = false)
      (hconstant : level.2.expr.isConstant = true) :
      FirstFault s (.constantLevel s.name level.1) "GROUP_001"
  /-- the series is constant, but no level is -/
  | constantSeries (hlevels : ∀ level ∈ s.levels, level.2.expr.isConstant = false)
      (hconstant : s.expr.isConstant = true) :
      FirstFault s (.constantSeries s.name) "GROUP_002"
  /-- nothing is constant, but there is a window function -/
  | windowFunction (hlevels : ∀ level ∈ s.levels, level.2.expr.isConstant = false)
      (hconstant : s.expr.isConstant = false) (hwindow : s.expr.hasWindow = true) :
      FirstFault s (.windowFunction s.name) "GROUP_003"
  /-- nothing is constant and there is no window function, but an aggregate -/
  | aggregateFunction (hlevels : ∀ level ∈ s.levels, level.2.expr.isConstant = false)
      (hconstant : s.expr.isConstant = false) (hwindow : s.expr.hasWindow = false)
      (haggregate : s.expr.hasAggregate = true) :
      FirstFault s (.aggregateFunction s.name) "GROUP_004"

/-- The code is the one that the fault is reported with. -/
theorem FirstFault.code_eq {code : String} (h : s.FirstFault fault code) :
    (Error.grouping fault).code = code := by
  cases h <;> rfl

/-- The check reports what is to be reported. -/
theorem FirstFault.groupingFault?_eq {code : String} (h : s.FirstFault fault code) :
    s.groupingFault? = some fault := by
  cases h with
  | @constantLevel before after level hlevels hbefore hconstant =>
    have hfind : (s.levels.find? fun level => level.2.expr.isConstant) = some level := by
      refine List.find?_eq_some_iff_append.mpr ⟨hconstant, before, after, hlevels, ?_⟩
      intro other hother
      rw [hbefore other hother]
      rfl
    rw [groupingFault?, hfind]
  | constantSeries hlevels hconstant =>
    rw [groupingFault?_of_levels hlevels, if_pos hconstant]
  | windowFunction hlevels hconstant hwindow =>
    simp [groupingFault?_of_levels hlevels, hconstant, hwindow]
  | aggregateFunction hlevels hconstant hwindow haggregate =>
    simp [groupingFault?_of_levels hlevels, hconstant, hwindow, haggregate]

/-- And nothing else. -/
theorem firstFault_of_groupingFault? (h : s.groupingFault? = some fault) :
    ∃ code, s.FirstFault fault code := by
  by_cases hlevels : ∀ level ∈ s.levels, level.2.expr.isConstant = false
  · rw [groupingFault?_of_levels hlevels] at h
    split at h
    · next hconstant =>
      obtain rfl := Option.some.inj h
      exact ⟨_, .constantSeries hlevels hconstant⟩
    · next hconstant =>
      have hconstant := Bool.eq_false_iff.mpr hconstant
      split at h
      · next hwindow =>
        obtain rfl := Option.some.inj h
        exact ⟨_, .windowFunction hlevels hconstant hwindow⟩
      · next hwindow =>
        have hwindow := Bool.eq_false_iff.mpr hwindow
        split at h
        · next haggregate =>
          obtain rfl := Option.some.inj h
          exact ⟨_, .aggregateFunction hlevels hconstant hwindow haggregate⟩
        · cases h
  · rw [groupingFault?] at h
    split at h
    · next name level hfind =>
      obtain ⟨hconstant, before, after, hsplit, hbefore⟩ := List.find?_eq_some_iff_append.mp hfind
      obtain rfl := Option.some.inj h
      refine ⟨_, .constantLevel hsplit (fun other hother => ?_) hconstant⟩
      exact Bool.not_eq_eq_eq_not.mp (hbefore other hother)
    · next hnone =>
      refine absurd (fun level hlevel => ?_) hlevels
      exact Bool.eq_false_iff.mpr (List.find?_eq_none.mp hnone level hlevel)

end Series

/-! ## Columns -/

namespace Columns

variable {columns : List Series}

/-- **Of several series at fault the first is reported**, whatever follows. -/
theorem group_eq_error_iff {fault : Error} :
    group columns = .error fault ↔ ∃ before s after own code, columns = before ++ s :: after ∧
      (∀ other ∈ before, other.Groupable) ∧ s.FirstFault own code ∧
      fault = .grouping own ∧ fault.code = code := by
  have hfound : group columns = .error fault ↔
      ∃ own, columns.findSome? Series.groupingFault? = some own ∧ fault = .grouping own := by
    rw [group]
    cases columns.findSome? Series.groupingFault? <;> simp [eq_comm]
  rw [hfound]
  constructor
  · rintro ⟨own, hown, rfl⟩
    obtain ⟨before, s, after, hsplit, hfault, hbefore⟩ := List.findSome?_eq_some_iff.mp hown
    obtain ⟨code, hfirst⟩ := Series.firstFault_of_groupingFault? hfault
    refine ⟨before, s, after, own, code, hsplit, fun other hother => ?_, hfirst, rfl,
      hfirst.code_eq⟩
    exact Series.groupingFault?_eq_none_iff.mp (hbefore other hother)
  · rintro ⟨before, s, after, own, code, hsplit, hbefore, hfirst, rfl, -⟩
    refine ⟨own, List.findSome?_eq_some_iff.mpr ⟨before, s, after, hsplit, ?_, ?_⟩, rfl⟩
    · exact hfirst.groupingFault?_eq
    · exact fun other hother => Series.groupingFault?_eq_none_iff.mpr (hbefore other hother)

/-- Columns are refused exactly if one of them cannot be grouped on. -/
theorem exists_group_eq_error_iff :
    (∃ fault, group columns = .error fault) ↔ ∃ s ∈ columns, ¬ s.Groupable := by
  constructor
  · rintro ⟨fault, h⟩
    obtain ⟨column, hcolumn, own, hfault, -⟩ := group_eq_error h
    refine ⟨column, hcolumn, fun hgroupable => ?_⟩
    rw [Series.groupingFault?_eq_none_iff.mpr hgroupable] at hfault
    cases hfault
  · rintro ⟨s, hs, hnot⟩
    cases h : group columns with
    | error fault => exact ⟨fault, rfl⟩
    | ok grouped =>
      exact absurd (Series.groupingFault?_eq_none_iff.mp ((group_eq_ok h).1 s hs)) hnot

/-- The names of the columns, in the order in which they first occur. -/
theorem keys_of_group {grouped : Columns} (h : group columns = .ok grouped) :
    Keyed.keys grouped = (columns.map Series.name).eraseDups := by
  rw [(group_eq_ok h).2, Keyed.keys_ofList, Keyed.keys_map]

/-- **The last series of each name** becomes a column, and no other. -/
theorem mem_group_iff {grouped : Columns} (h : group columns = .ok grouped)
    {entry : String × Series} :
    entry ∈ grouped ↔ ∃ before s after, columns = before ++ s :: after ∧
      (∀ later ∈ after, later.name ≠ s.name) ∧ entry = (s.name, s.asKey) := by
  rw [(group_eq_ok h).2, Keyed.mem_ofList_map_iff]

end Columns

namespace Partition

/-- **What grouping on a list of series gives.** It is refused exactly if some series of the list
cannot be grouped on, and then the first of these is reported with its first fault. Otherwise the
names are those of the series, each where it first occurs, and the column of a name is the last
series that has it, as a key. Grouping on these columns again changes nothing. -/
theorem groupBy_fails_or_collects (columns : List Series) :
    ((∃ fault, groupBy columns = .error fault) ↔ ∃ s ∈ columns, ¬ s.Groupable) ∧
    (∀ fault, groupBy columns = .error fault ↔
      ∃ before s after own code, columns = before ++ s :: after ∧
        (∀ other ∈ before, other.Groupable) ∧ s.FirstFault own code ∧
        fault = .grouping own ∧ fault.code = code) ∧
    ∀ p, groupBy columns = .ok p →
      p.shape = .plain ∧
      Keyed.keys p.columns = (columns.map Series.name).eraseDups ∧
      (∀ entry, entry ∈ p.columns ↔ ∃ before s after, columns = before ++ s :: after ∧
        (∀ later ∈ after, later.name ≠ s.name) ∧ entry = (s.name, s.asKey)) ∧
      groupBy (Keyed.values p.columns) = .ok p := by
  have herror : ∀ fault, groupBy columns = .error fault ↔ Columns.group columns = .error fault :=
    fun _ => Outcome.bind_eq_error_iff fun _ => ⟨_, rfl⟩
  refine ⟨?_, fun fault => ?_, fun p h => ?_⟩
  · rw [← Columns.exists_group_eq_error_iff]
    exact exists_congr herror
  · rw [herror, Columns.group_eq_error_iff]
  · obtain ⟨hgroup, hshape⟩ := groupBy_eq_ok h
    refine ⟨hshape, Columns.keys_of_group hgroup, fun entry => Columns.mem_group_iff hgroup, ?_⟩
    have hsettled : Columns.group (Keyed.values p.columns) = .ok p.columns :=
      Columns.settled_of_group hgroup
    rw [groupBy, hsettled, Outcome.ok_bind, ← hshape]
    cases p
    rfl

/-- Of two columns of one name the second is grouped on, in the place of the first. -/
theorem groupBy_duplicate_name :
    let b := Sample.series Sample.relation "b"
    let c := Sample.series Sample.relation "c"
    let lowered := { b with expr := ⟨.regular, [.raw "lower(", .column "b", .raw ")"]⟩ }
    let p : Partition := ⟨[("b", lowered), ("c", c)], .plain⟩
    groupBy [b, c, lowered] = .ok p ∧ Keyed.keys p.columns = ["b", "c"] ∧
      groupBy [lowered, c] = .ok p ∧
      groupBy [{ b with expr := .constant "1" }, b] = .error (.grouping (.constantSeries "b")) := by
  intro b c lowered p
  have hp : groupBy [b, c, lowered] = .ok p := by decide +kernel
  obtain ⟨-, hkeys, -, hagain⟩ := (groupBy_fails_or_collects [b, c, lowered]).2.2 p hp
  refine ⟨hp, hkeys, hagain, ?_⟩
  refine ((groupBy_fails_or_collects [{ b with expr := .constant "1" }, b]).2.1 _).mpr ?_
  refine ⟨[], _, [b], _, _, rfl, List.forall_mem_nil _, ?_, rfl, rfl⟩
  exact .constantSeries (List.forall_mem_nil _) (by decide)

end Partition

end QueryFrame
