import QueryFrame.Error.Wording
import QueryFrame.Proofs.GroupKeys
import QueryFrame.Proofs.OverClauses
import QueryFrame.Proofs.Projection

/-!
# Sorting

A dataframe is sorted by the names of columns, with a flag for each of them or one for all. The
number of flags is looked at before the names, and of the names the first that no column has is at
fault (`DataFrame.SortFault`). What comes of names and flags that are not at fault is an order with
a key for each name, at the same place (`DataFrame.SortedBy`).

That order is written in two clauses: in the one that orders the rows of the query, and in the
`over` clause of a window that the dataframe is put under afterwards. Both say the same about it
(`SortKey.listing`), and nothing if there are no names. Any other partition makes an end of the
order (`DataFrame.sortBy_orders_clauses`).
-/

namespace QueryFrame

/-- What an order says: its columns one after another, each with its direction. -/
def SortKey.listing (target : Target) (order : List SortKey) : String :=
  ", ".intercalate (order.map fun key =>
    key.expr.text target ++ if key.ascending then " asc" else " desc")

/-- A window says its order, if it has one. -/
theorem Window.orderText_eq (w : Window) (target : Target) :
    w.orderText target =
      if w.spec.order.isEmpty then "" else "order by " ++ SortKey.listing target w.spec.order := rfl

namespace DataFrame

variable {df sorted : DataFrame} {names : List String} {flags : List Bool}

/-- The flag for the column at a place: the only one, or its own. -/
def flagAt (flags : List Bool) (place : ℕ) : Option Bool :=
  if flags.length = 1 then flags.head? else flags[place]?

/-- Whether there are as many flags as there have to be. -/
def Flagged (names : List String) (flags : List Bool) : Prop :=
  flags.length = 1 ∨ flags.length = names.length

instance : Decidable (Flagged names flags) :=
  inferInstanceAs (Decidable (_ ∨ _))

/-- Why a dataframe cannot be sorted by some names with some flags, and the code of that. -/
inductive SortFault (df : DataFrame) (names : List String) (flags : List Bool) :
    Error → String → Prop
  /-- neither one flag nor one for each name, whatever the names are -/
  | flags (h : ¬ Flagged names flags) :
      SortFault df names flags (.dataFrame (.flagCount names.length flags.length)) "FRAME_003"
  /-- otherwise the first name that no column has -/
  | unknown {before after : List String} {name : String} (h : Flagged names flags)
      (hnames : names = before ++ name :: after)
      (hbefore : ∀ other ∈ before, ∃ s, df.StandsFor (.label other) s)
      (hdata : name ∉ Keyed.keys df.data) (hindex : name ∉ Keyed.keys df.index) :
      SortFault df names flags (.dataFrame (.unknownColumn name)) "FRAME_001"

/-- What a dataframe is when it has been sorted by some names with some flags. -/
structure SortedBy (df : DataFrame) (names : List String) (flags : List Bool)
    (sorted : DataFrame) : Prop where
  /-- nothing has changed but the order -/
  next : sorted = { df with order := sorted.order }
  /-- it has a key for each name -/
  count : sorted.order.length = names.length
  /-- which is the column of that name, with the flag for its place -/
  key : ∀ {place : ℕ} {name : String}, names[place]? = some name →
    ∃ s flag, df.StandsFor (.label name) s ∧ flagAt flags place = some flag ∧
      sorted.order[place]? = some ⟨s.expr, flag⟩

/-! ## Flags and names -/

theorem length_spreadFlags (h : Flagged names flags) :
    (spreadFlags names.length flags).length = names.length := by
  rcases flags with - | ⟨flag, - | ⟨next, rest⟩⟩
  · exact h.resolve_left Nat.zero_ne_one
  · exact List.length_replicate
  · exact h.resolve_left (by simp)

/-- Flags are spread so that each place has its flag. -/
theorem getElem?_spreadFlags {place : ℕ} (hplace : place < names.length) :
    (spreadFlags names.length flags)[place]? = flagAt flags place := by
  rcases flags with - | ⟨flag, - | ⟨next, rest⟩⟩
  · rfl
  · exact List.getElem?_replicate_of_lt hplace
  · exact (if_neg (by simp)).symm

/-- The flags are counted before any name is looked up. -/
theorem sortBy_of_not_flagged (h : ¬ Flagged names flags) :
    df.sortBy names flags = .error (.dataFrame (.flagCount names.length flags.length)) := by
  rw [Flagged, not_or] at h
  rw [sortBy, if_pos]
  simpa using h

/-- With enough flags it is the names that matter. -/
theorem sortBy_of_flagged (h : Flagged names flags) :
    df.sortBy names flags = (names.mapM df.column).map fun columns => { df with
      order := (columns.zip (spreadFlags names.length flags)).map fun (column, flag) =>
        ⟨column.expr, flag⟩ } := by
  rw [sortBy, if_neg]
  · cases names.mapM df.column <;> rfl
  · rcases h with h | h <;> simp [h]

/-! ## Faults -/

/-- **A dataframe is not sorted** exactly if flags or names are at fault. The fault is the first. -/
theorem sortBy_eq_error_iff {fault : Error} :
    df.sortBy names flags = .error fault ↔ ∃ code, df.SortFault names flags fault code := by
  have hcolumn {name : String} : (∃ s, df.column name = .ok s) ↔
      ∃ s, df.StandsFor (.label name) s :=
    exists_congr fun s => @resolveKey_eq_ok_iff df (.label name) s
  by_cases hflags : Flagged names flags
  · rw [sortBy_of_flagged hflags, Outcome.map_eq_error_iff, Outcome.mapM_eq_error_iff]
    simp only [hcolumn, column_eq_error_iff]
    constructor
    · rintro ⟨before, name, after, hnames, hbefore, hdata, hindex, rfl⟩
      exact ⟨_, .unknown hflags hnames hbefore hdata hindex⟩
    · rintro ⟨code, h⟩
      cases h with
      | flags h => exact absurd hflags h
      | unknown _ hnames hbefore hdata hindex =>
        exact ⟨_, _, _, hnames, hbefore, hdata, hindex, rfl⟩
  · rw [sortBy_of_not_flagged hflags]
    constructor
    · rintro ⟨⟩
      exact ⟨_, .flags hflags⟩
    · rintro ⟨code, h⟩
      cases h with
      | flags => rfl
      | unknown h => exact absurd h hflags

/-- The code is the one that the fault is reported with. -/
theorem SortFault.code_eq {fault : Error} {code : String}
    (h : df.SortFault names flags fault code) : fault.code = code := by
  cases h <;> rfl

/-! ## Orders -/

/-- **A dataframe is sorted** name by name. -/
theorem sortedBy_of_sortBy (h : df.sortBy names flags = .ok sorted) :
    df.SortedBy names flags sorted := by
  have hflags : Flagged names flags := by
    by_contra hnot
    rw [sortBy_of_not_flagged hnot] at h
    cases h
  have hnext := sortBy_eq_ok h
  rw [sortBy_of_flagged hflags] at h
  obtain ⟨columns, hcolumns, rfl⟩ := Outcome.map_eq_ok h
  have hfound := Outcome.mapM_eq_ok hcolumns
  have hlength := hfound.length_eq
  refine ⟨hnext, ?_, fun {place name} hname => ?_⟩
  · rw [List.length_map, List.length_zip, length_spreadFlags hflags, ← hlength, min_self]
  · obtain ⟨hplace, rfl⟩ := List.getElem?_eq_some_iff.mp hname
    have hplace' : place < (spreadFlags names.length flags).length := by
      rwa [length_spreadFlags hflags]
    refine ⟨columns[place], (spreadFlags names.length flags)[place], ?_, ?_, ?_⟩
    · exact resolveKey_eq_ok_iff.mp (hfound.get hplace (hlength ▸ hplace))
    · rw [← getElem?_spreadFlags hplace, List.getElem?_eq_getElem hplace']
    · have hpair : (columns.zip (spreadFlags names.length flags))[place]? =
          some (columns[place], (spreadFlags names.length flags)[place]) :=
        List.getElem?_zip_eq_some.mpr
          ⟨List.getElem?_eq_getElem _, List.getElem?_eq_getElem hplace'⟩
      rw [List.getElem?_map, hpair]
      rfl

/-- Only no names leave no order. -/
theorem SortedBy.order_eq_nil_iff (h : df.SortedBy names flags sorted) :
    sorted.order = [] ↔ names = [] := by
  rw [← List.length_eq_zero_iff, h.count, List.length_eq_zero_iff]

/-! ## Clauses -/

/-- **The clause that orders the rows** lists the columns of the order, if there are any. -/
theorem orderClause_says (df : DataFrame) :
    (df.order = [] → df.orderClause = .ok none) ∧
      (df.order ≠ [] → ∃ e, df.orderClause = .ok (some e) ∧
        ∀ target, e.text target = SortKey.listing target df.order) := by
  refine ⟨fun hnil => ?_, fun hne => ?_⟩
  · rw [orderClause, hnil]
    rfl
  · obtain ⟨e, he⟩ := SortKey.exists_order (.inl rfl) hne
    refine ⟨e, ?_, fun target => ?_⟩
    · rw [orderClause, if_neg (fun hempty => hne (List.isEmpty_iff.mp hempty)),
        ← String.empty_append (s := SortKey.templates df.order), he]
      rfl
    · rw [SortKey.text_of_construct List.not_mem_nil hne he, String.empty_append]
      rfl

/-- **A call that keeps the rows** makes a window in the order of the dataframe. -/
theorem window_of_partitioned {next : DataFrame} {call : Grouping} (hcall : call.keepsRows = true)
    (h : df.partitioned call = .ok next) :
    ∃ w : Window, next.partition = some w.partition ∧ w.spec.order = df.order ∧
      next.order = df.order := by
  obtain ⟨p, hp, happly⟩ := partitioned_eq_ok h
  have hwindow : ∃ keys frame minValues, df.windowFor keys frame minValues = .ok p := by
    cases call with
    | window keys frame minValues => exact ⟨keys, frame, minValues, hp⟩
    | rolling size minPeriods centred => exact ⟨_, _, _, windowFor_of_rolling hp⟩
    | expanding minPeriods => exact ⟨_, _, _, hp⟩
    | _ => cases hcall
  obtain ⟨keys, frame, minValues, hp⟩ := hwindow
  obtain ⟨columns, w, -, hw, rfl⟩ := windowFor_eq_ok hp
  obtain ⟨-, ⟨-, rfl⟩ | ⟨hgroups, -⟩⟩ := applyPartition_eq_ok happly
  · exact ⟨w, rfl, (Window.make_eq_ok hw).2.1, rfl⟩
  · cases hgroups

/-- **Any other call** makes an end of the order. -/
theorem order_of_partitioned {next : DataFrame} {call : Grouping} (hcall : call.keepsRows = false)
    (h : df.partitioned call = .ok next) : next.order = [] := by
  obtain ⟨p, hp, happly⟩ := partitioned_eq_ok h
  obtain ⟨-, ⟨hwindow, -⟩ | ⟨-, rfl⟩⟩ := applyPartition_eq_ok happly
  · rw [isWindow_of_partitionFor hp, hcall] at hwindow
    cases hwindow
  · rfl

/-- **Sorting orders the clauses.** A dataframe is sorted by any names with any flags unless these
are at fault, first the number of flags and then a name that no column has. What it is then differs
in the order alone, which has a key for each name. Without names there is no clause for it.
Otherwise the clause is a list of the columns in the order of their names, each with its direction,
in every known dialect and for any alias of the table. A window made from the dataframe is in this
order and has the same list in its `over` clause, while any other partition leaves no order. -/
theorem sortBy_orders_clauses (df : DataFrame) (names : List String) (flags : List Bool) :
    (∀ fault, df.sortBy names flags = .error fault ↔
      ∃ code, df.SortFault names flags fault code) ∧
    (∀ fault code, df.SortFault names flags fault code → fault.code = code) ∧
    ∀ sorted, df.sortBy names flags = .ok sorted →
      df.SortedBy names flags sorted ∧
      (names = [] → sorted.orderClause = .ok none) ∧
      (names ≠ [] → ∃ e, sorted.orderClause = .ok (some e) ∧
        ∀ d family table, d.family = .ok family →
          e.toSql d table = .ok (SortKey.listing ⟨family, table⟩ sorted.order)) ∧
      ∀ call next, sorted.partitioned call = .ok next →
        (call.keepsRows = true → ∃ w clause, next.partition = some (Window.partition w) ∧
          w.spec.order = sorted.order ∧ next.order = sorted.order ∧ w.over = .ok clause ∧
          ∀ d family table, d.family = .ok family → clause.toSql d table = .ok ("over (" ++
            " ".intercalate ([w.partitionText ⟨family, table⟩,
              if names = [] then ""
              else "order by " ++ SortKey.listing ⟨family, table⟩ sorted.order,
              w.spec.clause].filter (· ≠ "")) ++ ")")) ∧
        (call.keepsRows = false → next.order = [] ∧ next.orderClause = .ok none) := by
  refine ⟨fun fault => sortBy_eq_error_iff, fun fault code h => h.code_eq, fun sorted h => ?_⟩
  have hsorted := sortedBy_of_sortBy h
  refine ⟨hsorted, fun hnames => ?_, fun hnames => ?_, fun call next hnext => ⟨fun hcall => ?_,
    fun hcall => ?_⟩⟩
  · exact sorted.orderClause_says.1 (hsorted.order_eq_nil_iff.mpr hnames)
  · obtain ⟨e, he, htext⟩ :=
      sorted.orderClause_says.2 fun hnil => hnames (hsorted.order_eq_nil_iff.mp hnil)
    exact ⟨e, he, fun d family table hd => by rw [e.toSql_eq hd, htext]⟩
  · obtain ⟨w, hpartition, hspec, horder⟩ := window_of_partitioned hcall hnext
    obtain ⟨clause, hclause, htext, -⟩ := w.over_says
    refine ⟨w, clause, hpartition, hspec, horder, hclause, fun d family table hd => ?_⟩
    rw [clause.toSql_eq hd, htext, Window.overText, Window.orderText_eq, hspec,
      if_congr (List.isEmpty_iff.trans hsorted.order_eq_nil_iff) rfl rfl]
  · have hnone := order_of_partitioned hcall hnext
    exact ⟨hnone, next.orderClause_says.1 hnone⟩

/-- A name that is given twice is listed twice, each time with its own direction. Too many flags are
at fault before a name is. -/
theorem sortBy_orders_clauses_repeated :
    let df := Sample.dataFrame ["a"] ["b", "c"]
    let sorted := { df with
      order := [⟨.column "c", false⟩, ⟨.column "a", true⟩, ⟨.column "c", true⟩] }
    let call := Grouping.window [.label "b"] (some ⟨some .rows, none, none⟩) none
    df.sortBy ["c", "a", "c"] [false, true, true] = .ok sorted ∧
      (∃ e, sorted.orderClause = .ok (some e) ∧
        e.toSql .bigQuery (some "t") = .ok "`t`.`c` desc, `t`.`a` asc, `t`.`c` asc") ∧
      (∃ windowed w clause, sorted.partitioned call = .ok windowed ∧
        windowed.partition = some (Window.partition w) ∧ w.over = .ok clause ∧
        clause.toSql .postgres none =
          .ok "over (partition by \"b\" order by \"c\" desc, \"a\" asc, \"c\" asc)") ∧
      (∃ grouped, sorted.partitioned (.groupBy [.label "b"]) = .ok grouped ∧
        grouped.orderClause = .ok none) ∧
      df.sortBy ["d", "a"] [true, false, true] = .error (.dataFrame (.flagCount 2 3)) ∧
      df.sortBy ["a", "e", "d"] [true] = .error (.dataFrame (.unknownColumn "e")) := by
  intro df sorted call
  have hsorted : df.sortBy ["c", "a", "c"] [false, true, true] = .ok sorted := rfl
  obtain ⟨-, -, he, hcalls⟩ := (sortBy_orders_clauses df _ _).2.2 sorted hsorted
  obtain ⟨e, he, htext⟩ := he (List.cons_ne_nil _ _)
  refine ⟨hsorted, ⟨e, he, ?_⟩, ?_, ⟨_, rfl, ((hcalls (.groupBy [.label "b"]) _ rfl).2 rfl).2⟩,
    ?_, ?_⟩
  · rw [htext _ _ _ rfl]
    decide +kernel
  · obtain ⟨w, clause, hw, -, -, hover, hclause⟩ := (hcalls call _ rfl).1 rfl
    refine ⟨_, w, clause, rfl, hw, hover, ?_⟩
    have hconcrete : _ = w := Option.some.inj (congrArg (Option.bind · Partition.window?) hw)
    rw [hclause _ _ _ rfl, ← hconcrete]
    decide +kernel
  · exact ((sortBy_orders_clauses df _ _).1 _).mpr ⟨_, .flags (by decide)⟩
  · have ha : df.StandsFor (.label "a") (Sample.series Sample.relation "a") :=
      .index (by decide) rfl
    have hfault := @SortFault.unknown df _ [true] ["a"] ["d"] "e" (.inl rfl) rfl
      (List.forall_mem_singleton.mpr ⟨_, ha⟩) (by decide) (by decide)
    exact ((sortBy_orders_clauses df _ _).1 _).mpr ⟨_, hfault⟩

end DataFrame

end QueryFrame
