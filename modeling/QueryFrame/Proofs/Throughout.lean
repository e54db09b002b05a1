import QueryFrame.Proofs.Artifact

/-!
# What holds throughout an artifact

Artifacts hold artifacts: a series its levels, its index and its partition, a partition its columns
and members, and so on down. `Throughout S E` says that `S` holds of every series and `E` of every
expression on the way, that every column of a partition has passed the check for grouping, and that
every window has a frame that was checked.

`Kept` is the list of what has to be shown of `S` and `E` for that to hold of everything that can be
obtained. Most operations only move parts about, and the proof for those is the same for every `S`
and `E`. Here it is done for series, operation by operation.
-/

namespace QueryFrame

/-- What a window computes with: expressions of a kind, and a frame that was checked. -/
structure WindowSpec.Uses (E : Expr → Prop) (spec : WindowSpec) : Prop where
  /-- the expressions that the rows are ordered by -/
  order : ∀ key ∈ spec.order, E key.expr
  /-- the frame, if there is one -/
  clause : spec.clause = "" ∨ ∃ frame mode, Frame.check frame = .ok (mode, spec.clause)

/-- `S` holds of every series in an artifact, and `E` of every expression. -/
inductive Throughout (S : Series → Prop) (E : Expr → Prop) : Artifact → Prop
  | expr {e : Expr} (h : E e) : Throughout S E (.expr e)
  | series {s : Series} (own : S s) (expr : E s.expr)
      (levels : ∀ entry ∈ s.levels, Throughout S E (.series entry.2))
      (index : ∀ entry ∈ s.index, Throughout S E (.series entry.2))
      (partition : ∀ p, s.partition = some p → Throughout S E (.partition p)) :
      Throughout S E (.series s)
  | partition {p : Partition} (valid : ∀ entry ∈ p.columns, entry.2.groupingFault? = none)
      (columns : ∀ entry ∈ p.columns, Throughout S E (.series entry.2))
      (children : ∀ child ∈ p.children, Throughout S E (.partition child))
      (spec : ∀ spec, p.shape = .window spec → spec.Uses E) : Throughout S E (.partition p)
  | dataFrame {df : DataFrame} (index : ∀ entry ∈ df.index, Throughout S E (.series entry.2))
      (data : ∀ entry ∈ df.data, Throughout S E (.series entry.2))
      (order : ∀ key ∈ df.order, E key.expr)
      (partition : ∀ p, df.partition = some p → Throughout S E (.partition p)) :
      Throughout S E (.dataFrame df)

/-- What has to be shown of `S` and `E` so that they hold throughout whatever can be obtained. -/
structure Kept (supply : Supply) (S : Series → Prop) (E : Expr → Prop) : Prop where
  /-- an expression from elsewhere -/
  sql : ∀ {e}, supply.sql e → E e
  /-- a column -/
  column : ∀ {name}, supply.text name → E (.column name)
  /-- a literal -/
  literal : ∀ {value : Literal} {e}, (∀ text ∈ value.texts, supply.text text) →
    value.expr = .ok e → E e
  /-- a count as an argument -/
  count : ∀ n, E (WindowCall.countArg n)
  /-- the call of an aggregate -/
  aggregate : ∀ {f : Aggregate} {e call}, E e →
    Expr.construct .aggregate f.template [e] = .ok call → E call
  /-- the call of a window function -/
  call : ∀ {f : WindowFunction} {args e}, (∀ arg ∈ args, E arg) → f.call args = .ok e → E e
  /-- a call over a window -/
  apply : ∀ {w : Window} {call e}, Throughout S E (.partition w.partition) → E call →
    w.apply call = .ok e → E e
  /-- a comparison -/
  compared : ∀ {op : Comparison} {left right e}, E left → E right →
    Expr.construct .regular ("(" ++ slot ++ ") " ++ op.symbol ++ " (" ++ slot ++ ")")
      [left, right] = .ok e → E e
  /-- what an artifact makes on request -/
  given : ∀ {a : Artifact} {e}, Throughout S E a → a.Gives e → E e
  /-- only what a series shows of itself matters -/
  face : ∀ {s t : Series}, s.face = t.face → S s → S t
  /-- a series on its own -/
  single : ∀ {relation name dtype e}, supply.text name → E e → S (.single relation name dtype e)
  /-- a series with levels -/
  composite : ∀ {relation name dtype levels s}, supply.text name →
    (∀ level ∈ levels, S level ∧ E level.expr) →
    Series.composite relation name dtype levels = .ok s → S s ∧ E s.expr
  /-- a new name -/
  renamed : ∀ {s : Series} {name}, S s → supply.text name → S { s with name := name }
  /-- another expression, one that may be put in or one that needs the old one to be rowwise -/
  replaced : ∀ {s : Series} {e}, S s → E e →
    supply.replaceable s e ∨ (e.Rowwise → s.expr.Rowwise) → S { s with expr := e }

variable {supply : Supply} {S : Series → Prop} {E : Expr → Prop}

/-! ## Taking parts out -/

namespace Throughout

theorem own {s : Series} (h : Throughout S E (.series s)) : S s := by
  cases h with
  | series own => exact own

/-- What holds throughout an artifact holds throughout its parts. -/
theorem part {a b : Artifact} (h : Throughout S E a) (hpart : a.Part b) : Throughout S E b := by
  cases hpart with
  | expr s =>
    cases h with
    | series _ expr => exact .expr expr
  | level hentry =>
    cases h with
    | series _ _ levels => exact levels _ hentry
  | index hentry =>
    cases h with
    | series _ _ _ index => exact index _ hentry
  | partition hp =>
    cases h with
    | series _ _ _ _ partition => exact partition _ hp
  | column hentry =>
    cases h with
    | partition _ columns => exact columns _ hentry
  | child hchild =>
    cases h with
    | partition _ _ children => exact children _ hchild
  | windowOrder hkey =>
    cases h with
    | partition _ _ _ spec => exact .expr ((spec _ rfl).order _ hkey)
  | frameIndex hentry =>
    cases h with
    | dataFrame index => exact index _ hentry
  | frameData hentry =>
    cases h with
    | dataFrame _ data => exact data _ hentry
  | frameOrder hkey =>
    cases h with
    | dataFrame _ _ order => exact .expr (order _ hkey)
  | framePartition hp =>
    cases h with
    | dataFrame _ _ _ partition => exact partition _ hp

theorem expr_of {e : Expr} (h : Throughout S E (.expr e)) : E e := by
  cases h with
  | expr h => exact h

/-- The expression of a series. -/
theorem own_expr {s : Series} (h : Throughout S E (.series s)) : E s.expr :=
  (h.part (.expr s)).expr_of

/-- A series with the levels of another one. -/
theorem series_like {s t : Series} (h : Throughout S E (.series s)) (hlevels : t.levels = s.levels)
    (hS : S t) (hE : E t.expr) (hindex : ∀ entry ∈ t.index, Throughout S E (.series entry.2))
    (hpartition : ∀ p, t.partition = some p → Throughout S E (.partition p)) :
    Throughout S E (.series t) := by
  refine .series hS hE (fun entry hentry => ?_) hindex hpartition
  rw [hlevels] at hentry
  exact h.part (.level hentry)

/-- A partition without members that keeps no rows apart. -/
theorem partition_flat {p : Partition}
    (hshape : p.shape = .plain ∨ p.shape = .cube ∨ p.shape = .rollup)
    (hcolumns : ∀ entry ∈ p.columns,
      entry.2.groupingFault? = none ∧ Throughout S E (.series entry.2)) :
    Throughout S E (.partition p) := by
  refine .partition (fun entry hentry => (hcolumns entry hentry).1)
    (fun entry hentry => (hcolumns entry hentry).2) (fun child hchild => ?_) fun spec hspec => ?_
  · rw [Partition.children] at hchild
    rcases hshape with h | h | h <;> rw [h] at hchild <;> cases hchild
  · rcases hshape with h | h | h <;> rw [h] at hspec <;> cases hspec

/-- A partition with members. -/
theorem partition_list {p : Partition} {children : List Partition}
    (hshape : p.shape = .lists children ∨ p.shape = .sets children)
    (hchildren : ∀ child ∈ children, Throughout S E (.partition child))
    (hcolumns : ∀ entry ∈ p.columns,
      entry.2.groupingFault? = none ∧ Throughout S E (.series entry.2)) :
    Throughout S E (.partition p) := by
  refine .partition (fun entry hentry => (hcolumns entry hentry).1)
    (fun entry hentry => (hcolumns entry hentry).2) (fun child hchild => ?_) fun spec hspec => ?_
  · rw [Partition.children] at hchild
    rcases hshape with h | h <;> rw [h] at hchild <;> exact hchildren child hchild
  · rcases hshape with h | h <;> rw [h] at hspec <;> cases hspec

/-- A window. -/
theorem partition_window {w : Window} (hspec : w.spec.Uses E)
    (hcolumns : ∀ entry ∈ w.columns,
      entry.2.groupingFault? = none ∧ Throughout S E (.series entry.2)) :
    Throughout S E (.partition w.partition) := by
  refine .partition (fun entry hentry => (hcolumns entry hentry).1)
    (fun entry hentry => (hcolumns entry hentry).2) (fun child hchild => ?_) fun spec hshape => ?_
  · cases hchild
  · cases hshape
    exact hspec

/-- What a window computes with. -/
theorem window_spec {w : Window} (h : Throughout S E (.partition w.partition)) : w.spec.Uses E := by
  cases h with
  | partition _ _ _ spec => exact spec _ rfl

/-- The columns of a partition. -/
theorem columns_of {p : Partition} (h : Throughout S E (.partition p)) :
    ∀ entry ∈ p.columns, entry.2.groupingFault? = none ∧ Throughout S E (.series entry.2) := by
  cases h with
  | partition valid columns => exact fun entry hentry => ⟨valid entry hentry, columns entry hentry⟩

end Throughout

/-! ## Operations on series -/

namespace Throughout

/-- A window loses its frame, and nothing that holds throughout it. -/
theorem unframed {w : Window} (h : Throughout S E (.partition w.partition)) :
    Throughout S E (.partition w.unframed.partition) :=
  .partition_window ⟨h.window_spec.order, .inl rfl⟩ h.columns_of

variable (kept : Kept supply S E)
include kept

/-- A series in other surroundings. -/
theorem surrounded {s : Series} (h : Throughout S E (.series s)) {index : Columns}
    {partition : Option Partition} {indexSorting : List Bool}
    (hindex : ∀ entry ∈ index, Throughout S E (.series entry.2))
    (hpartition : ∀ p, partition = some p → Throughout S E (.partition p)) :
    Throughout S E (.series
      { s with index := index, partition := partition, indexSorting := indexSorting }) :=
  h.series_like rfl (kept.face (s := s) rfl h.own) h.own_expr hindex hpartition

/-- A series as a column that is grouped on. -/
theorem asKey {s : Series} (h : Throughout S E (.series s)) : Throughout S E (.series s.asKey) := by
  refine surrounded kept h (fun entry hentry => ?_) fun p hp => ?_
  · cases hentry
  · cases hp

/-- A series with another expression. -/
theorem computed {s : Series} (h : Throughout S E (.series s)) {e : Expr} (he : E e)
    (hS : supply.replaceable s e ∨ (e.Rowwise → s.expr.Rowwise)) (dtype : DataType) :
    Throughout S E (.series (s.computed e dtype)) :=
  h.series_like rfl (kept.face (s := { s with expr := e }) rfl (kept.replaced h.own he hS)) he
    (fun _ hentry => h.part (.index hentry)) fun _ hp => h.part (.partition hp)

/-- A series over another relation. The induction is on the series, down its index and levels. -/
theorem rebind {s : Series} (h : Throughout S E (.series s)) (relation : Relation) :
    Throughout S E (.series (s.rebind relation)) := by
  generalize ha : Artifact.series s = a at h
  induction h generalizing s with
  | series own expr levels index partition ihlevels ihindex _ =>
    obtain rfl := Artifact.series.inj ha
    refine .series (kept.face (Series.face_rebind relation s).symm own) ?_ ?_ ?_ ?_
    · rw [Series.expr_rebind]
      exact expr
    · intro entry hentry
      rw [Series.levels_rebind] at hentry
      obtain ⟨level, hlevel, rfl⟩ := List.mem_map.mp hentry
      exact ihlevels level hlevel rfl
    · intro entry hentry
      rw [Series.index_rebind] at hentry
      obtain ⟨column, hcolumn, rfl⟩ := List.mem_map.mp hentry
      exact ihindex column hcolumn rfl
    · intro p hp
      rw [Series.partition_rebind] at hp
      exact partition p hp
  | _ => cases ha

theorem single {relation : Relation} {name : String} {dtype : DataType} {e : Expr}
    (hname : supply.text name) (he : E e) :
    Throughout S E (.series (.single relation name dtype e)) := by
  refine .series (kept.single hname he) he (fun entry hentry => ?_) (fun entry hentry => ?_)
    fun p hp => ?_
  · cases hentry
  · cases hentry
  · cases hp

theorem composite {relation : Relation} {name : String} {dtype : DataType} {levels : List Series}
    {s : Series} (hname : supply.text name)
    (hlevels : ∀ level ∈ levels, Throughout S E (.series level))
    (h : Series.composite relation name dtype levels = .ok s) : Throughout S E (.series s) := by
  obtain ⟨hS, hE⟩ := kept.composite hname
    (fun level hlevel => ⟨(hlevels level hlevel).own, (hlevels level hlevel).own_expr⟩) h
  obtain ⟨expr, -, rfl⟩ := Series.composite_eq_ok h
  refine .series hS hE (fun entry hentry => ?_) (fun entry hentry => ?_) fun p hp => ?_
  · obtain ⟨level, hlevel, rfl⟩ := List.mem_map.mp (Keyed.mem_of_mem_ofList hentry)
    exact hlevels level hlevel
  · cases hentry
  · cases hp

theorem comparedWith {s next : Series} {op : Comparison} {other : Expr}
    (hs : Throughout S E (.series s)) (hother : E other)
    (h : s.comparedWith op other = .ok next) : Throughout S E (.series next) := by
  obtain ⟨expr, hexpr, rfl⟩ := Series.comparedWith_eq_ok h
  refine computed kept hs (kept.compared hs.own_expr hother hexpr) (.inr fun hrow => ?_) .bool
  exact hrow.of_construct hexpr _ (List.mem_cons_self ..)

/-- An aggregate: over a window only the expression changes, otherwise the surroundings too. -/
theorem aggregated {s next : Series} {f : Aggregate} {partition : Option Partition}
    (hs : Throughout S E (.series s))
    (hpartition : ∀ p, partition = some p → Throughout S E (.partition p))
    (h : s.aggregate f partition = .ok next) : Throughout S E (.series next) := by
  obtain ⟨call, hcall, ⟨w, expr, hw, hexpr, rfl⟩ | ⟨p, hp, rfl⟩⟩ := Series.aggregate_eq_ok h
  · -- over a window: a value for each row
    have he := kept.apply (hpartition _ hw) (kept.aggregate hs.own_expr hcall) hexpr
    exact computed kept hs he (.inr fun hrow => absurd hrow (Window.not_rowwise_of_apply hexpr)) _
  · -- over groups: a value for each of them
    have hthroughout : Throughout S E (.partition p) := by
      rcases hp with hp | rfl
      · exact hpartition p hp
      · exact .partition_flat (.inl rfl) (List.forall_mem_nil _)
    have hcomputed := computed kept hs (kept.aggregate hs.own_expr hcall)
      (.inr fun hrow => absurd hrow (Expr.not_rowwise_of_aggregate hcall)) (f.resultType s.dtype)
    refine surrounded kept hcomputed (fun entry hentry => hthroughout.part (.column hentry))
      fun q hq => ?_
    rw [← Option.some.inj hq]
    exact hthroughout

theorem windowFunction {s next : Series} {w : Window} {f : WindowFunction} {args : List Expr}
    {dtype : DataType} {d : Dialect} (hs : Throughout S E (.series s))
    (hw : Throughout S E (.partition w.partition)) (hargs : ∀ arg ∈ args, E arg)
    (h : s.windowFunction w f args dtype d = .ok next) : Throughout S E (.series next) := by
  obtain ⟨call, expr, hcall, happly, rfl⟩ := Series.windowFunction_eq_ok h
  have hE := kept.call hargs hcall
  -- over the window with its frame, or without
  rcases happly with happly | happly
  · exact computed kept hs (kept.apply hw hE happly)
      (.inr fun hrow => absurd hrow (Window.not_rowwise_of_apply happly)) dtype
  · exact computed kept hs (kept.apply (unframed hw) hE happly)
      (.inr fun hrow => absurd hrow (Window.not_rowwise_of_apply happly)) dtype

/-- The arguments of a call that looks at another row: the series, how far away the row is, and a
default if there is one. -/
theorem shiftArgs {default : Option Literal} {own : Expr} {offset : UInt32} {rest : List Expr}
    (hown : E own)
    (htext : ∀ literal, default = some literal → ∀ text ∈ literal.texts, supply.text text)
    (h : WindowCall.defaultArg default = .ok rest) :
    ∀ arg ∈ own :: WindowCall.countArg offset :: rest, E arg := by
  refine List.forall_mem_cons.mpr ⟨hown, List.forall_mem_cons.mpr ⟨kept.count offset, ?_⟩⟩
  cases default with
  | none =>
    obtain rfl := Except.ok.inj h
    exact List.forall_mem_nil _
  | some literal =>
    obtain ⟨e, he, rfl⟩ := Outcome.map_eq_ok h
    exact List.forall_mem_singleton.mpr (kept.literal (htext literal rfl) he)

/-- The arguments of a window function are the series, counts and literals. -/
theorem args {call : WindowCall} {own : Expr} {args : List Expr} (hown : E own)
    (htext : ∀ text ∈ call.texts, supply.text text) (h : call.args own = .ok args) :
    ∀ arg ∈ args, E arg := by
  cases call with
  | firstValue | lastValue =>
    obtain rfl := Except.ok.inj h
    exact List.forall_mem_singleton.mpr hown
  | nthValue n =>
    obtain rfl := Except.ok.inj h
    exact List.forall_mem_cons.mpr ⟨hown, List.forall_mem_singleton.mpr (kept.count n)⟩
  | lead offset default | lag offset default =>
    obtain ⟨rest, hrest, h⟩ := Outcome.bind_eq_ok h
    obtain rfl := Outcome.pure_eq_ok h
    refine shiftArgs kept hown (fun literal heq => ?_) hrest
    rw [heq] at htext
    exact htext
  | rowNumber | rank | denseRank | percentRank | cumeDist =>
    obtain rfl := Except.ok.inj h
    exact List.forall_mem_nil _
  | ntile buckets =>
    obtain rfl := Except.ok.inj h
    exact List.forall_mem_singleton.mpr (kept.count buckets)

end Throughout

end QueryFrame
