import QueryFrame.Proofs.FrameRules
import QueryFrame.Proofs.GroupedColumns
import QueryFrame.Proofs.Projection

/-!
# The first fault of a grouping call

A call that puts a dataframe under a partition reads its keys from left to right, list by list. For
each list it looks up all keys before it asks whether rows can be grouped on any of them, and it is
done with one list before it turns to the next. What else can be wrong, an empty cube, an empty
rollup or a frame, comes after the keys. `DataFrame.FirstFault` says which of the faults of a call
is the first, with its code.

That fault is what the call reports (`DataFrame.partitionFor_eq_error_iff`). Only where there is
none does it matter whether the dataframe is under a partition already
(`DataFrame.partitioned_reports_first_fault`). The windows of rolling and expanding calls have no
keys and frames that always mean something (`DataFrame.exists_check_rollingFrame`).
-/

namespace QueryFrame

namespace DataFrame

variable {df : DataFrame}

/-! ## Keys -/

/-- The first fault of a list of keys, and its code. -/
inductive FirstKeyFault (df : DataFrame) (keys : List GroupKey) : Error → String → Prop
  /-- the first key that stands for nothing, whatever can be grouped on -/
  | unresolved {before after : List GroupKey} {key : GroupKey} {fault : Error} {code : String}
      (hkeys : keys = before ++ key :: after)
      (hbefore : ∀ other ∈ before, ∃ s, df.StandsFor other s) (h : df.Unresolved key fault code) :
      FirstKeyFault df keys fault code
  /-- if all stand for something, the first that rows cannot be grouped on -/
  | ungroupable {columns before after : List Series} {s : Series} {fault : GroupingFault}
      {code : String} (hkeys : List.Forall₂ df.StandsFor keys columns)
      (hcolumns : columns = before ++ s :: after) (hbefore : ∀ other ∈ before, other.Groupable)
      (h : s.FirstFault fault code) : FirstKeyFault df keys (.grouping fault) code

/-- Whether nothing is wrong with a list of keys. -/
def Sound (df : DataFrame) (keys : List GroupKey) : Prop :=
  ∃ columns, List.Forall₂ df.StandsFor keys columns ∧ ∀ s ∈ columns, s.Groupable

/-- The first fault of several lists of keys: that of the first list that has one. -/
def FirstListFault (df : DataFrame) (lists : List (List GroupKey)) (fault : Error)
    (code : String) : Prop :=
  ∃ before keys after, lists = before ++ keys :: after ∧ (∀ other ∈ before, df.Sound other) ∧
    df.FirstKeyFault keys fault code

/-- The first fault of a call, and its code. -/
inductive FirstFault (df : DataFrame) : Grouping → Error → String → Prop
  /-- a rolling window without rows -/
  | emptyRolling {minPeriods : Option UInt32} {centred : Bool} :
      FirstFault df (.rolling 0 minPeriods centred) (.frame .emptyRolling) "WINDOW_009"
  /-- the first fault of the keys -/
  | keys {call : Grouping} {fault : Error} {code : String}
      (h : df.FirstListFault call.keyLists fault code) : FirstFault df call fault code
  /-- a cube of nothing -/
  | emptyCube : FirstFault df (.cube []) (.grouping .emptyCube) "GROUP_005"
  /-- a rollup of nothing -/
  | emptyRollup : FirstFault df (.rollup []) (.grouping .emptyRollup) "GROUP_006"
  /-- if nothing is wrong with the keys of a window, what its frame is refused for: the code is that
  of the first rule that the frame breaks -/
  | frame {keys : List GroupKey} {given : Option Frame} {minValues : Option UInt32}
      {rule : FrameRule} {fault : FrameFault} (hkeys : df.Sound keys)
      (hrule : FrameRule.firstBroken? (given.getD df.settings.window) = some rule)
      (hcheck : (given.getD df.settings.window).check = .error (.frame fault)) :
      FirstFault df (.window keys given minValues) (.frame fault) rule.code

/-! ### Looking up -/

theorem resolve_eq_ok_iff {keys : List GroupKey} {columns : List Series} :
    df.resolve keys = .ok columns ↔ List.Forall₂ df.StandsFor keys columns := by
  constructor
  · exact fun h => (Outcome.mapM_eq_ok h).imp fun _ _ => resolveKey_eq_ok_iff.mp
  · exact fun h => Outcome.mapM_of_forall₂ (h.imp fun _ _ => resolveKey_eq_ok_iff.mpr)

theorem resolve_eq_error_iff {keys : List GroupKey} {fault : Error} :
    df.resolve keys = .error fault ↔ ∃ before key after, keys = before ++ key :: after ∧
      (∀ other ∈ before, ∃ s, df.StandsFor other s) ∧ ∃ code, df.Unresolved key fault code := by
  simp only [← resolveKey_eq_ok_iff, ← resolveKey_eq_error_iff]
  exact Outcome.mapM_eq_error_iff

/-- **A list of keys is refused for its first fault.** -/
theorem keyColumns_eq_error_iff {keys : List GroupKey} {fault : Error} :
    df.keyColumns keys = .error fault ↔ ∃ code, df.FirstKeyFault keys fault code := by
  rw [keyColumns, Outcome.bind_eq_error_iff_or, resolve_eq_error_iff]
  constructor
  · rintro (⟨before, key, after, hkeys, hbefore, code, h⟩ | ⟨columns, hcolumns, h⟩)
    · exact ⟨code, .unresolved hkeys hbefore h⟩
    · obtain ⟨before, s, after, own, code, hsplit, hbefore, hfault, rfl, -⟩ :=
        Columns.group_eq_error_iff.mp h
      exact ⟨code, .ungroupable (resolve_eq_ok_iff.mp hcolumns) hsplit hbefore hfault⟩
  · rintro ⟨code, h⟩
    cases h with
    | unresolved hkeys hbefore h => exact .inl ⟨_, _, _, hkeys, hbefore, code, h⟩
    | ungroupable hkeys hcolumns hbefore h =>
      refine .inr ⟨_, resolve_eq_ok_iff.mpr hkeys, Columns.group_eq_error_iff.mpr ?_⟩
      exact ⟨_, _, _, _, code, hcolumns, hbefore, h, rfl, h.code_eq⟩

/-- And has columns exactly if nothing is wrong with it. -/
theorem exists_keyColumns_iff_sound {keys : List GroupKey} :
    (∃ columns, df.keyColumns keys = .ok columns) ↔ df.Sound keys := by
  constructor
  · rintro ⟨columns, h⟩
    obtain ⟨found, hfound, hgroup⟩ := Outcome.bind_eq_ok h
    refine ⟨found, resolve_eq_ok_iff.mp hfound, fun s hs => ?_⟩
    exact Series.groupingFault?_eq_none_iff.mp ((Columns.group_eq_ok hgroup).1 s hs)
  · rintro ⟨found, hfound, hgroupable⟩
    rw [keyColumns, resolve_eq_ok_iff.mpr hfound, Outcome.ok_bind, Columns.group_of_valid
      fun s hs => Series.groupingFault?_eq_none_iff.mpr (hgroupable s hs)]
    exact ⟨_, rfl⟩

/-- Only no keys have no columns. -/
theorem keyColumns_eq_ok_nil_iff {keys : List GroupKey} :
    df.keyColumns keys = .ok [] ↔ keys = [] := by
  cases keys with
  | nil => exact iff_of_true rfl rfl
  | cons key rest =>
    refine iff_of_false (fun h => ?_) (List.cons_ne_nil _ _)
    obtain ⟨found, hfound, hgroup⟩ := Outcome.bind_eq_ok h
    cases Outcome.mapM_eq_ok hfound with
    | cons => exact Keyed.ofList_ne_nil (List.cons_ne_nil _ _) (Columns.group_eq_ok hgroup).2.symm

/-- The code is the one that the fault is reported with. -/
theorem FirstKeyFault.code_eq {keys : List GroupKey} {fault : Error} {code : String}
    (h : df.FirstKeyFault keys fault code) : fault.code = code := by
  cases h with
  | unresolved _ _ h => cases h <;> rfl
  | ungroupable _ _ _ h => exact h.code_eq

/-! ### Lists of keys -/

/-- A single list of keys has the faults of its keys. -/
theorem firstListFault_singleton {keys : List GroupKey} {fault : Error} {code : String} :
    df.FirstListFault [keys] fault code ↔ df.FirstKeyFault keys fault code := by
  constructor
  · rintro ⟨before, own, after, hsplit, -, h⟩
    obtain ⟨rfl, hrest⟩ | ⟨more, rfl, hrest⟩ := List.cons_eq_append_iff.mp hsplit
    · obtain rfl := (List.cons.inj hrest).1
      exact h
    · cases more <;> cases hrest
  · exact fun h => ⟨[], keys, [], rfl, List.forall_mem_nil _, h⟩

/-- Where there is no list, there is no fault. -/
theorem not_firstListFault_nil {fault : Error} {code : String} :
    ¬ df.FirstListFault [] fault code := by
  rintro ⟨before, keys, after, hsplit, -, -⟩
  cases before <;> cases hsplit

theorem resolve_groupBy (df : DataFrame) (keys : List GroupKey) :
    (df.resolve keys >>= Partition.groupBy) =
      (df.keyColumns keys).map fun columns => ⟨columns, .plain⟩ := by
  rw [keyColumns]
  cases df.resolve keys with
  | error fault => rfl
  | ok columns =>
    rw [Outcome.ok_bind, Outcome.ok_bind, Partition.groupBy]
    cases Columns.group columns <;> rfl

/-- **Of several lists the first with a fault is reported**, whatever follows. -/
theorem resolveLists_eq_error_iff {lists : List (List GroupKey)} {fault : Error} :
    df.resolveLists lists = .error fault ↔ ∃ code, df.FirstListFault lists fault code := by
  -- each list is a request of its own, and has an answer if nothing is wrong with its keys
  have hlists : df.resolveLists lists = lists.mapM fun keys =>
      (df.keyColumns keys).map fun columns => (⟨columns, .plain⟩ : Partition) :=
    Outcome.mapM_congr fun keys _ => df.resolve_groupBy keys
  have hsound : ∀ keys, (∃ p, ((df.keyColumns keys).map
      fun columns => (⟨columns, .plain⟩ : Partition)) = .ok p) ↔ df.Sound keys := fun keys =>
    (Outcome.exists_ok_iff fun _ => Outcome.map_eq_error_iff).trans exists_keyColumns_iff_sound
  simp only [hlists, Outcome.mapM_eq_error_iff, hsound, Outcome.map_eq_error_iff,
    keyColumns_eq_error_iff]
  constructor
  · rintro ⟨before, keys, after, hsplit, hbefore, code, h⟩
    exact ⟨code, before, keys, after, hsplit, hbefore, h⟩
  · rintro ⟨code, before, keys, after, hsplit, hbefore, h⟩
    exact ⟨before, keys, after, hsplit, hbefore, code, h⟩

/-- What was looked up can be put together: all of it groups rows. -/
theorem exists_mergedColumns_of_resolveLists {lists : List (List GroupKey)}
    {children : List Partition} (h : df.resolveLists lists = .ok children) :
    ∃ columns, Partition.mergedColumns children = .ok columns := by
  have hplain : ∀ child ∈ children, Columns.Settled child.columns ∧ child.isWindow = false := by
    intro child hchild
    obtain ⟨keys, -, columns, -, hgroup⟩ := mem_of_resolveLists h hchild
    obtain ⟨hcolumns, hshape⟩ := Partition.groupBy_eq_ok hgroup
    refine ⟨Columns.settled_of_group hcolumns, ?_⟩
    rw [Partition.isWindow, hshape]
    rfl
  exact ⟨_, Partition.mergedColumns_eq (fun child hchild => (hplain child hchild).1)
    fun child hchild => (hplain child hchild).2⟩

/-- So nothing more can be wrong with several lists. -/
theorem merged_eq_error_iff {lists : List (List GroupKey)} {shape : List Partition → Shape}
    {fault : Error} :
    (df.resolveLists lists >>= fun children => do
      let columns ← Partition.mergedColumns children
      pure (⟨columns, shape children⟩ : Partition)) = .error fault ↔
      ∃ code, df.FirstListFault lists fault code := by
  rw [Outcome.bind_eq_error_iff_or, resolveLists_eq_error_iff, or_iff_left]
  rintro ⟨children, hchildren, h⟩
  obtain ⟨columns, hcolumns⟩ := exists_mergedColumns_of_resolveLists hchildren
  rw [hcolumns] at h
  cases h

/-! ## Windows -/

/-- The columns of a window come before its frame. -/
theorem windowFor_eq_error_iff {keys : List GroupKey} {given : Option Frame}
    {minValues : Option UInt32} {fault : Error} :
    df.windowFor keys given minValues = .error fault ↔
      df.keyColumns keys = .error fault ∨
        (df.Sound keys ∧ (given.getD df.settings.window).check = .error fault) := by
  rw [windowFor_eq_keyColumns, Outcome.bind_eq_error_iff_or, ← exists_keyColumns_iff_sound]
  simp only [Outcome.map_eq_error_iff, exists_and_right]

/-- The number of rows on one side of a rolling window is not negative. -/
theorem not_ofNat_neg (n : UInt32) : ¬ Int64.ofNat n.toNat < 0 := by
  have hlt := n.toNat_lt
  rw [Int64.lt_iff_toInt_lt, Int64.toInt_ofNat_of_lt (by omega), Int64.toInt_zero]
  omega

/-- A frame that counts rows from before the current one up to it, or to some after it, means
something. -/
theorem exists_check_rows {before : Int64} {stop : Bound} (hbefore : ¬ before < 0)
    (hstop : stop = .currentRow ∨ ∃ after : Int64, ¬ after < 0 ∧ stop = .following after) :
    ∃ checked, (Frame.rows (.preceding before) stop).check = .ok checked := by
  rw [FrameRule.exists_check_iff]
  intro rule
  -- no rule looks further than the sides of the bounds and the signs of their offsets
  rcases hstop with rfl | ⟨after, hafter, rfl⟩ <;> cases rule <;>
    simp_all [FrameRule.Broken, Frame.rows, Frame.bounds, Bound.preceding, Bound.currentRow,
      Bound.following, Bound.Misplaced, Bound.After, Boundary.rank]

/-- **The frame of a rolling window means something**, whatever its size. -/
theorem exists_check_rollingFrame (size : UInt32) (centred : Bool) :
    ∃ checked, (rollingFrame size centred).check = .ok checked := by
  rw [rollingFrame]
  refine exists_check_rows (not_ofNat_neg _) ?_
  split
  · exact .inl rfl
  · exact .inr ⟨_, not_ofNat_neg _, rfl⟩

/-- So does that of an expanding one. -/
theorem exists_check_expandingFrame :
    ∃ checked, (Frame.rows .unboundedPreceding .currentRow).check = .ok checked :=
  ⟨_, rfl⟩

/-- A window without keys is only refused for its frame. -/
theorem not_windowFor_eq_error {frame : Frame} (hframe : ∃ checked, frame.check = .ok checked)
    {minValues : Option UInt32} {fault : Error} :
    ¬ df.windowFor [] (some frame) minValues = .error fault := by
  obtain ⟨checked, hchecked⟩ := hframe
  rw [windowFor_eq_keyColumns, Option.getD_some, hchecked]
  rintro ⟨⟩

/-! ## Calls -/

/-- Columns that there have to be are asked for once the keys are known to be sound. -/
theorem nonempty_eq_error_iff {keys : List GroupKey} {empty : GroupingFault} {shape : Shape}
    {fault : Error} :
    (df.resolve keys >>= fun columns => do
      let columns ← Columns.group columns
      if columns.isEmpty then .error (.grouping empty) else pure (⟨columns, shape⟩ : Partition)) =
        .error fault ↔
      (∃ code, df.FirstKeyFault keys fault code) ∨ (keys = [] ∧ fault = .grouping empty) := by
  rw [← bind_assoc]
  change (df.keyColumns keys >>= _) = _ ↔ _
  rw [Outcome.bind_eq_error_iff_or, keyColumns_eq_error_iff]
  refine or_congr_right ⟨?_, ?_⟩
  · rintro ⟨columns, hcolumns, h⟩
    split at h
    · next hempty =>
      obtain rfl := List.isEmpty_iff.mp hempty
      exact ⟨keyColumns_eq_ok_nil_iff.mp hcolumns, (Except.error.inj h).symm⟩
    · cases h
  · rintro ⟨rfl, rfl⟩
    exact ⟨[], rfl, rfl⟩

/-- **A call is refused for its first fault**, before anything is said about the dataframe. -/
theorem partitionFor_eq_error_iff {call : Grouping} {fault : Error} :
    df.partitionFor call = .error fault ↔ ∃ code, df.FirstFault call fault code := by
  cases call with
  | groupBy keys =>
    rw [partitionFor, resolve_groupBy, Outcome.map_eq_error_iff, keyColumns_eq_error_iff]
    refine exists_congr fun code => ⟨fun h => .keys (firstListFault_singleton.mpr h), fun h => ?_⟩
    cases h with
    | keys h => exact firstListFault_singleton.mp h
  | cube keys =>
    refine nonempty_eq_error_iff.trans ⟨?_, ?_⟩
    · rintro (⟨code, h⟩ | ⟨rfl, rfl⟩)
      · exact ⟨code, .keys (firstListFault_singleton.mpr h)⟩
      · exact ⟨_, .emptyCube⟩
    · rintro ⟨code, h⟩
      cases h with
      | keys h => exact .inl ⟨code, firstListFault_singleton.mp h⟩
      | emptyCube => exact .inr ⟨rfl, rfl⟩
  | rollup keys =>
    refine nonempty_eq_error_iff.trans ⟨?_, ?_⟩
    · rintro (⟨code, h⟩ | ⟨rfl, rfl⟩)
      · exact ⟨code, .keys (firstListFault_singleton.mpr h)⟩
      · exact ⟨_, .emptyRollup⟩
    · rintro ⟨code, h⟩
      cases h with
      | keys h => exact .inl ⟨code, firstListFault_singleton.mp h⟩
      | emptyRollup => exact .inr ⟨rfl, rfl⟩
  | groupingSets lists | groupingLists lists =>
    refine merged_eq_error_iff.trans (exists_congr fun code => ⟨fun h => .keys h, fun h => ?_⟩)
    cases h with
    | keys h => exact h
  | window keys given minValues =>
    rw [partitionFor, windowFor_eq_error_iff, keyColumns_eq_error_iff]
    constructor
    · rintro (⟨code, h⟩ | ⟨hkeys, hcheck⟩)
      · exact ⟨code, .keys (firstListFault_singleton.mpr h)⟩
      · obtain ⟨rule, own, hrule, rfl⟩ := Frame.firstBroken?_of_check hcheck
        exact ⟨_, .frame hkeys hrule hcheck⟩
    · rintro ⟨code, h⟩
      cases h with
      | keys h => exact .inl ⟨code, firstListFault_singleton.mp h⟩
      | frame hkeys _ hcheck => exact .inr ⟨hkeys, hcheck⟩
  | rolling size minPeriods centred =>
    -- there are no keys, so it is the number of rows or nothing
    rw [partitionFor]
    split
    · next hsize =>
      subst hsize
      constructor
      · rintro ⟨⟩
        exact ⟨_, .emptyRolling⟩
      · rintro ⟨code, h⟩
        cases h with
        | emptyRolling => rfl
        | keys h => exact absurd h not_firstListFault_nil
    · next hsize =>
      refine iff_of_false (not_windowFor_eq_error (exists_check_rollingFrame size centred)) ?_
      rintro ⟨code, h⟩
      cases h with
      | emptyRolling => exact hsize rfl
      | keys h => exact not_firstListFault_nil h
  | expanding minPeriods =>
    refine iff_of_false (not_windowFor_eq_error exists_check_expandingFrame) ?_
    rintro ⟨code, h⟩
    cases h with
    | keys h => exact not_firstListFault_nil h

/-- The code is the one that the fault is reported with. -/
theorem FirstFault.code_eq {call : Grouping} {fault : Error} {code : String}
    (h : df.FirstFault call fault code) : fault.code = code := by
  cases h with
  | emptyRolling | emptyCube | emptyRollup => rfl
  | keys h =>
    obtain ⟨-, keys, -, -, -, h⟩ := h
    exact h.code_eq
  | frame hkeys hrule hcheck =>
    obtain ⟨own, hown, hcode⟩ := (FrameRule.reports_check _).eq_some_iff.mp hrule
    rw [Except.error.inj (hcheck.symm.trans hown)]
    exact hcode

/-- A call without a fault has a partition to apply. -/
theorem exists_partitionFor_iff {call : Grouping} :
    (∃ p, df.partitionFor call = .ok p) ↔ ∀ fault code, ¬ df.FirstFault call fault code := by
  rw [Outcome.exists_ok_iff_ne_error]
  simp only [ne_eq, partitionFor_eq_error_iff, not_exists]

/-- **A call for a partition reports its first fault.** Nothing else is reported where there is no
partition so far, and then a call without a fault succeeds. Where there is one, no call succeeds: a
call without a fault is refused for the partition that is there, which is named by its kind. -/
theorem partitioned_reports_first_fault (df : DataFrame) (call : Grouping) :
    (∀ fault code, df.FirstFault call fault code → fault.code = code) ∧
    (df.partition = none →
      (∀ fault, df.partitioned call = .error fault ↔ ∃ code, df.FirstFault call fault code) ∧
      ((∃ next, df.partitioned call = .ok next) ↔ ∀ fault code, ¬ df.FirstFault call fault code)) ∧
    ∀ current, df.partition = some current →
      (∀ next, df.partitioned call ≠ .ok next) ∧
      ∀ fault, df.partitioned call = .error fault ↔
        (∃ code, df.FirstFault call fault code) ∨
        ((∀ own code, ¬ df.FirstFault call own code) ∧
          fault = .dataFrame (.alreadyGrouped current.kind) ∧ fault.code = "FRAME_005" ∧
          fault.diagnostic.message = "DataFrame is already grouped by a " ++ current.kind) := by
  refine ⟨fun fault code h => h.code_eq, fun hungrouped => ?_, fun current hcurrent => ?_⟩
  · -- any partition can be applied, so what matters is whether there is one
    have herror (fault : Error) :
        df.partitioned call = .error fault ↔ df.partitionFor call = .error fault := by
      rw [partitioned_eq]
      exact Outcome.bind_eq_error_iff (exists_applyPartition hungrouped)
    refine ⟨fun fault => (herror fault).trans partitionFor_eq_error_iff, ?_⟩
    rw [Outcome.exists_ok_iff herror, exists_partitionFor_iff]
  · -- no partition can be applied, but the call has to come up with one first
    have happly (p : Partition) :
        df.applyPartition p = .error (.dataFrame (.alreadyGrouped current.kind)) := by
      rw [applyPartition, hcurrent]
    refine ⟨fun next hnext => ?_, fun fault => ?_⟩
    · obtain ⟨p, -, h⟩ := partitioned_eq_ok hnext
      rw [happly] at h
      cases h
    · rw [partitioned_eq, Outcome.bind_eq_error_iff_or, partitionFor_eq_error_iff,
        ← exists_partitionFor_iff]
      simp only [happly]
      refine or_congr_right ⟨?_, ?_⟩
      · rintro ⟨p, hp, h⟩
        obtain rfl := Except.error.inj h
        exact ⟨⟨p, hp⟩, rfl, rfl, rfl⟩
      · rintro ⟨⟨p, hp⟩, rfl, -, -⟩
        exact ⟨p, hp, rfl⟩

/-- Several faults at once. A constant in an earlier list goes before an unknown name in a later
one, but a foreign series goes before a constant of the same list, and an unknown name before a
frame without a mode. Under a partition an empty cube is still an empty cube, and it is a window
without a fault that meets the partition. -/
theorem partitioned_reports_first_fault_coinciding :
    let df := Sample.dataFrame ["a"] ["b"]
    let one : Series := { Sample.series Sample.relation "one" with expr := .constant "1" }
    let foreign := Sample.series (.ofName "other") "c"
    ∃ grouped, df.partitioned (.groupBy [.label "a"]) = .ok grouped ∧
      df.partitioned (.groupingSets [[.label "b", .series one], [.label "d"]]) =
        .error (.grouping (.constantSeries "one")) ∧
      df.partitioned (.groupBy [.series one, .series foreign, .label "d"]) =
        .error (.dataFrame (.foreignKey "c")) ∧
      df.partitioned (.window [.label "d"] (some ⟨none, none, none⟩) none) =
        .error (.dataFrame (.unknownColumn "d")) ∧
      grouped.partitioned (.cube []) = .error (.grouping .emptyCube) ∧
      grouped.partitioned (.expanding none) = .error (.dataFrame (.alreadyGrouped "group by")) := by
  intro df one foreign
  have hungrouped (call : Grouping) := ((partitioned_reports_first_fault df call).2.1 rfl).1
  obtain ⟨b, hb, hgroupable⟩ : ∃ b, df.StandsFor (.label "b") b ∧ b.Groupable :=
    ⟨_, .data rfl, Series.groupingFault?_eq_none_iff.mp rfl⟩
  have hone : df.StandsFor (.series one) one := .series rfl
  have hd : df.Unresolved (.label "d") (.dataFrame (.unknownColumn "d")) "FRAME_001" :=
    .unknown (by decide) (by decide)
  have hconstant : one.FirstFault (.constantSeries "one") "GROUP_002" :=
    .constantSeries (List.forall_mem_nil _) (by decide)
  refine ⟨_, rfl, ?_, ?_, ?_, ?_, ?_⟩
  · have hkeys : df.FirstKeyFault [.label "b", .series one] (.grouping (.constantSeries "one"))
        "GROUP_002" :=
      @FirstKeyFault.ungroupable df _ _ [_] [] one _ _ (.cons hb (.cons hone .nil)) rfl
        (List.forall_mem_singleton.mpr hgroupable) hconstant
    exact (hungrouped _ _).mpr ⟨_, .keys ⟨[], _, _, rfl, List.forall_mem_nil _, hkeys⟩⟩
  · have hforeign : df.Unresolved (.series foreign) (.dataFrame (.foreignKey "c")) "FRAME_004" :=
      .foreign (by decide)
    have hkeys := @FirstKeyFault.unresolved df _ [.series one] [.label "d"] _ _ _ rfl
      (List.forall_mem_singleton.mpr ⟨one, hone⟩) hforeign
    exact (hungrouped _ _).mpr ⟨_, .keys (firstListFault_singleton.mpr hkeys)⟩
  · have hkeys := @FirstKeyFault.unresolved df _ [] [] _ _ _ rfl (List.forall_mem_nil _) hd
    exact (hungrouped _ _).mpr ⟨_, .keys (firstListFault_singleton.mpr hkeys)⟩
  · exact (((partitioned_reports_first_fault _ _).2.2 _ rfl).2 _).mpr (.inl ⟨_, .emptyCube⟩)
  · refine (((partitioned_reports_first_fault _ _).2.2 _ rfl).2 _).mpr (.inr ⟨?_, rfl, rfl, rfl⟩)
    intro own code h
    cases h with
    | keys h => exact not_firstListFault_nil h

end DataFrame

end QueryFrame
