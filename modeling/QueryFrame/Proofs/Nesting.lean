import QueryFrame.Proofs.Nodes
import QueryFrame.Sample

/-!
# Calls within calls

SQL has no aggregate of an aggregate or of a window function, and no window function of a window
function. This is about the series that can be computed from columns by aggregates, window functions
and comparisons, where windows are divided and ordered by rowwise expressions such as columns
(`Series.Computed`).

Aggregates keep to the rule by a check of what they are made of, and so do numbering functions,
since they take nothing from their series. Navigation functions do not: they are called with the
expression of their series and look at nothing first. So a window function within a window function
comes about when, and only when, a navigation function is called on a series that is windowed
already (`Series.Computed.nests`).
-/

namespace QueryFrame

/-! ## Windows that are made of rowwise expressions -/

/-- A window that is divided and ordered by rowwise expressions. -/
structure Window.Rowwise (w : Window) : Prop where
  /-- what the rows are divided by -/
  columns : ∀ e ∈ Columns.groupExprs w.columns, e.Rowwise
  /-- what they are ordered by -/
  order : ∀ key ∈ w.spec.order, key.expr.Rowwise

namespace Window.Rowwise

variable {w : Window}

theorem unframed (hw : w.Rowwise) : w.unframed.Rowwise :=
  ⟨hw.columns, hw.order⟩

theorem partitionPart (hw : w.Rowwise) {columns : List Expr}
    (h : w.partitionPart = .ok columns) : ∀ e ∈ columns, e.Rowwise := by
  rw [Window.partitionPart] at h
  split at h
  · obtain rfl := Except.ok.inj h
    simp
  · obtain ⟨part, hpart, rfl⟩ := Outcome.map_eq_ok h
    exact List.forall_mem_singleton.mpr (Expr.rowwise_of_construct hpart hw.columns)

theorem orderPart (hw : w.Rowwise) {order : List Expr} (h : w.orderPart = .ok order) :
    ∀ e ∈ order, e.Rowwise := by
  rw [Window.orderPart] at h
  split at h
  · obtain rfl := Except.ok.inj h
    simp
  · obtain ⟨part, hpart, rfl⟩ := Outcome.map_eq_ok h
    refine List.forall_mem_singleton.mpr (Expr.rowwise_of_construct hpart ?_)
    intro arg harg
    obtain ⟨key, hkey, rfl⟩ := List.mem_map.mp harg
    exact hw.order key hkey

theorem framePart : ∀ e ∈ w.framePart, e.Rowwise := by
  intro e he
  rw [Window.framePart] at he
  split at he
  · cases he
  · rw [List.mem_singleton.mp he]
    exact ⟨rfl, rfl⟩

/-- **The clause of such a window is rowwise** as a whole. -/
theorem overClause (hw : w.Rowwise) {clause : Expr} (h : w.over = .ok clause) :
    clause.Rowwise := by
  obtain ⟨columns, hcolumns, h⟩ := Outcome.bind_eq_ok h
  obtain ⟨order, horder, h⟩ := Outcome.bind_eq_ok h
  obtain ⟨inner, hinner, h⟩ := Outcome.bind_eq_ok h
  refine Expr.rowwise_of_construct h (List.forall_mem_singleton.mpr ?_)
  refine Expr.rowwise_of_construct hinner fun e he => ?_
  rw [List.append_assoc, List.mem_append, List.mem_append] at he
  rcases he with he | he | he
  · exact hw.partitionPart hcolumns e he
  · exact hw.orderPart horder e he
  · exact framePart e he

variable {call e : Expr} {outer inner : ExprKind}

/-- A call over such a window nests what the call nests, and whatever the call holds in the window
function that it has become. -/
theorem nests_of_apply (hw : w.Rowwise) (h : w.apply call = .ok e) (houter : outer.isCall = true)
    (hinner : inner.isCall = true) :
    e.Nests outer inner ↔ (outer = .window ∧ call.Holds inner) ∨ call.Nests outer inner := by
  obtain ⟨clause, hover, h⟩ := Outcome.bind_eq_ok h
  have hclause := hw.overClause hover
  have hholds : ¬ clause.Holds inner := clause.rowwise_iff.mp hclause inner hinner
  have hnests : ¬ clause.Nests outer inner := hclause.not_nests houter
  split at h
  all_goals
    rw [Expr.nests_of_construct h]
    simp [hholds, hnests, eq_comm]

end Window.Rowwise

/-! ## What a window function is called with -/

theorem WindowCall.rowwise_countArg (n : UInt32) : (countArg n).Rowwise :=
  ⟨rfl, rfl⟩

theorem Literal.rowwise_expr {value : Literal} {e : Expr} (h : value.expr = .ok e) : e.Rowwise := by
  cases value with
  | float x =>
    rw [Literal.expr] at h
    split at h
    · obtain rfl := Except.ok.inj h
      exact ⟨rfl, rfl⟩
    · cases h
  | bool value => cases value <;> obtain rfl := Except.ok.inj h <;> exact ⟨rfl, rfl⟩
  | int value =>
    obtain rfl := Except.ok.inj h
    exact ⟨rfl, rfl⟩
  | string value =>
    obtain rfl := Except.ok.inj h
    exact ⟨rfl, rfl⟩

/-- **Navigation functions take the expression of the series**, numbering functions do not. All
further arguments are the same for every row. -/
theorem WindowCall.args_eq_ok {call : WindowCall} {own : Expr} {args : List Expr}
    (h : call.args own = .ok args) :
    ∃ rest, (∀ e ∈ rest, e.Rowwise) ∧
      args = if call.function.family = .navigation then own :: rest else rest := by
  have hdefault : ∀ {default : Option Literal} {exprs : List Expr},
      defaultArg default = .ok exprs → ∀ e ∈ exprs, e.Rowwise := by
    intro default exprs h
    cases default with
    | none =>
      obtain rfl := Except.ok.inj h
      simp
    | some value =>
      obtain ⟨e, he, rfl⟩ := Outcome.map_eq_ok h
      exact List.forall_mem_singleton.mpr (value.rowwise_expr he)
  cases call with
  | firstValue | lastValue =>
    obtain rfl := Except.ok.inj h
    exact ⟨[], by simp, rfl⟩
  | nthValue n =>
    obtain rfl := Except.ok.inj h
    exact ⟨[countArg n], List.forall_mem_singleton.mpr (rowwise_countArg n), rfl⟩
  | lead offset default | lag offset default =>
    obtain ⟨exprs, hexprs, h⟩ := Outcome.bind_eq_ok h
    refine ⟨countArg offset :: exprs, ?_, (Outcome.pure_eq_ok h).symm⟩
    exact List.forall_mem_cons.mpr ⟨rowwise_countArg offset, hdefault hexprs⟩
  | rowNumber | rank | denseRank | percentRank | cumeDist =>
    obtain rfl := Except.ok.inj h
    exact ⟨[], by simp, rfl⟩
  | ntile buckets =>
    obtain rfl := Except.ok.inj h
    exact ⟨[countArg buckets], List.forall_mem_singleton.mpr (rowwise_countArg buckets), rfl⟩

/-- What holds of no rowwise expression holds of an argument only if it holds of the series. -/
theorem WindowCall.exists_arg_iff {call : WindowCall} {own : Expr} {args : List Expr}
    (h : call.args own = .ok args) {P : Expr → Prop} (hP : ∀ e : Expr, e.Rowwise → ¬ P e) :
    (∃ arg ∈ args, P arg) ↔ call.function.family = .navigation ∧ P own := by
  obtain ⟨rest, hrest, rfl⟩ := args_eq_ok h
  have hnone : ¬ ∃ arg ∈ rest, P arg := by
    rintro ⟨arg, harg, hholds⟩
    exact hP arg (hrest arg harg) hholds
  split
  · next hnavigation => rw [List.exists_mem_cons_iff, or_iff_left hnone, and_iff_right hnavigation]
  · next hnumbering => exact iff_of_false hnone fun h => hnumbering h.1

namespace Series

/-! ## One operation -/

section Steps

variable {s next : Series} {outer inner : ExprKind}

/-- Inversion for the check of an aggregate: it lets rowwise expressions through. -/
theorem rowwise_of_checkAggregate {f : Aggregate} (h : s.checkAggregate f = .ok ()) :
    s.expr.Rowwise := by
  rw [checkAggregate] at h
  split at h
  · cases h
  split at h
  · cases h
  · next haggregate =>
    split at h
    · cases h
    · next hwindow => exact ⟨Bool.eq_false_iff.mpr haggregate, Bool.eq_false_iff.mpr hwindow⟩

/-- Only rowwise series are aggregated. -/
theorem rowwise_of_aggregate {f : Aggregate} {partition : Option Partition}
    (h : s.aggregate f partition = .ok next) : s.expr.Rowwise := by
  obtain ⟨⟨⟩, hcheck, -⟩ := Outcome.bind_eq_ok h
  exact rowwise_of_checkAggregate hcheck

/-- **An aggregate nests nothing**, over whatever partition. -/
theorem not_nests_of_aggregate {f : Aggregate} {partition : Option Partition}
    (hw : ∀ w : Window, partition = some w.partition → w.Rowwise)
    (h : s.aggregate f partition = .ok next) (houter : outer.isCall = true)
    (hinner : inner.isCall = true) (hwindow : ¬ (outer = .window ∧ inner = .aggregate)) :
    ¬ next.expr.Nests outer inner := by
  have hrowwise := rowwise_of_aggregate h
  have hholds : ¬ s.expr.Holds inner := s.expr.rowwise_iff.mp hrowwise inner hinner
  have hnests : ¬ s.expr.Nests outer inner := hrowwise.not_nests houter
  obtain ⟨call, hcall, hnext⟩ := aggregate_eq_ok h
  have hcallNests : ¬ call.Nests outer inner := by
    rw [Expr.nests_of_construct hcall]
    simp [hholds, hnests]
  rcases hnext with ⟨w, expr, hpartition, happly, rfl⟩ | ⟨p, -, rfl⟩
  · -- the call becomes a window function, which holds the aggregate
    intro hnested
    rcases ((hw w hpartition).nests_of_apply happly houter hinner).mp hnested with hown | hnested
    · obtain ⟨rfl, hcallHolds⟩ := hown
      rcases (Expr.holds_of_construct hcall).mp hcallHolds with rfl | ⟨arg, harg, harg'⟩
      · exact hwindow ⟨rfl, rfl⟩
      · rw [List.mem_singleton.mp harg] at harg'
        exact hholds harg'
    · exact hcallNests hnested
  · exact hcallNests

/-- **A navigation function nests** what the series nests, and whatever the series holds in a window
function. A numbering function nests nothing. -/
theorem nests_of_windowed {w : Window} {call : WindowCall} {d : Dialect} (hw : w.Rowwise)
    (h : s.windowed w call d = .ok next) (houter : outer.isCall = true)
    (hinner : inner.isCall = true) :
    next.expr.Nests outer inner ↔ call.function.family = .navigation ∧
      ((outer = .window ∧ s.expr.Holds inner) ∨ s.expr.Nests outer inner) := by
  obtain ⟨args, hargs, h⟩ := windowed_eq_ok h
  obtain ⟨called, expr, hcalled, happly, rfl⟩ := windowFunction_eq_ok h
  have hkind : ∀ {kind : ExprKind}, kind.isCall = true → ExprKind.regular ≠ kind := by
    rintro kind hkind rfl
    cases hkind
  have hcalledHolds : called.Holds inner ↔
      call.function.family = .navigation ∧ s.expr.Holds inner := by
    rw [Expr.holds_of_construct hcalled, or_iff_right (hkind hinner)]
    exact WindowCall.exists_arg_iff hargs fun e he => e.rowwise_iff.mp he inner hinner
  have hcalledNests : called.Nests outer inner ↔
      call.function.family = .navigation ∧ s.expr.Nests outer inner := by
    rw [Expr.nests_of_construct hcalled, or_iff_right fun h => hkind houter h.1]
    exact WindowCall.exists_arg_iff hargs fun e he => he.not_nests houter
  have hexpr : expr.Nests outer inner ↔
      (outer = .window ∧ called.Holds inner) ∨ called.Nests outer inner := by
    rcases happly with happly | happly
    · exact hw.nests_of_apply happly houter hinner
    · exact hw.unframed.nests_of_apply happly houter hinner
  rw [hcalledHolds, hcalledNests, and_left_comm, ← and_or_left] at hexpr
  exact hexpr

/-- **A comparison nests** what either side nests. -/
theorem nests_of_comparedWith {op : Comparison} {other : Expr}
    (h : s.comparedWith op other = .ok next) (houter : outer.isCall = true) :
    next.expr.Nests outer inner ↔ s.expr.Nests outer inner ∨ other.Nests outer inner := by
  obtain ⟨expr, hexpr, rfl⟩ := comparedWith_eq_ok h
  have hkind : ExprKind.regular ≠ outer := by
    rintro rfl
    cases houter
  change expr.Nests outer inner ↔ _
  rw [Expr.nests_of_construct hexpr, or_iff_right fun h => hkind h.1]
  simp

theorem computed_self (s : Series) : s.computed s.expr s.dtype = s := by
  cases s
  rfl

/-- A numbering function does not look at what its series computes. -/
theorem windowed_computed {call : WindowCall} (h : call.function.family = .numbering) (expr : Expr)
    (dtype : DataType) (w : Window) (d : Dialect) :
    (s.computed expr dtype).windowed w call d = s.windowed w call d := by
  cases call with
  | rowNumber | rank | denseRank | percentRank | cumeDist | ntile => rfl
  | _ => cases h

end Steps

/-! ## Any number of operations -/

/-- A series that is computed from columns, by aggregates over any partition, window functions and
comparisons. Windows are rowwise, and a window function is only called where `allowed` says so. -/
inductive Computed (allowed : Series → WindowCall → Prop) : Series → Prop
  | column (relation : Relation) (name : String) (dtype : DataType) :
      Computed allowed (.ofColumn relation name dtype)
  | aggregate {s next : Series} {f : Aggregate} {partition : Option Partition}
      (hs : Computed allowed s) (hw : ∀ w : Window, partition = some w.partition → w.Rowwise)
      (h : s.aggregate f partition = .ok next) : Computed allowed next
  | windowed {s next : Series} {w : Window} {call : WindowCall} {d : Dialect}
      (hs : Computed allowed s) (hw : w.Rowwise) (hallowed : allowed s call)
      (h : s.windowed w call d = .ok next) : Computed allowed next
  | compare {s other next : Series} {op : Comparison} (hs : Computed allowed s)
      (hother : Computed allowed other) (h : s.compare op other = .ok next) : Computed allowed next
  | compareLiteral {s next : Series} {op : Comparison} {value : Literal}
      (hs : Computed allowed s) (h : s.compareLiteral op value = .ok next) : Computed allowed next

/-- Any call is allowed. -/
def anyCall (_ : Series) (_ : WindowCall) : Prop :=
  True

/-- A navigation function may not be called on what is windowed already. -/
def carefulCall (s : Series) (call : WindowCall) : Prop :=
  call.function.family = .navigation → s.expr.hasWindow = false

namespace Computed

variable {allowed : Series → WindowCall → Prop} {s : Series}

/-- **What is nested comes from navigation.** The one thing that an aggregate may bring about is the
aggregate in a window function, and a comparison brings about nothing. So if navigation is only
allowed where it does no harm, none is done. -/
theorem not_nests (h : s.Computed allowed) {outer inner : ExprKind} (houter : outer.isCall = true)
    (hinner : inner.isCall = true) (hwindow : ¬ (outer = .window ∧ inner = .aggregate))
    (hallowed : ∀ s call, allowed s call → call.function.family = .navigation →
      ¬ (outer = .window ∧ s.expr.Holds inner)) : ¬ s.expr.Nests outer inner := by
  induction h with
  | column _ name _ => exact (Expr.rowwise_column name).not_nests houter
  | aggregate _ hw h _ => exact not_nests_of_aggregate hw h houter hinner hwindow
  | @windowed s next w call d _ hw hcall h ih =>
    rw [nests_of_windowed hw h houter hinner]
    rintro ⟨hnavigation, hheld | hnests⟩
    · exact hallowed s call hcall hnavigation hheld
    · exact ih hnests
  | compare _ _ h ih ihother =>
    rw [nests_of_comparedWith (compare_eq_ok h) houter, not_or]
    exact ⟨ih, ihother⟩
  | compareLiteral _ h ih =>
    obtain ⟨other, hother, h⟩ := compareLiteral_eq_ok h
    rw [nests_of_comparedWith h houter, not_or]
    exact ⟨ih, (Literal.rowwise_expr hother).not_nests houter⟩

/-- Nothing is ever nested in an aggregate. -/
theorem not_nests_aggregate (h : s.Computed allowed) {inner : ExprKind}
    (hinner : inner.isCall = true) : ¬ s.expr.Nests .aggregate inner :=
  h.not_nests rfl hinner nofun fun _ _ _ _ => nofun

/-- A series computed with care nests no window functions. -/
theorem not_nests_window (h : s.Computed carefulCall) : ¬ s.expr.Nests .window .window := by
  refine h.not_nests rfl rfl nofun ?_
  rintro s call hcareful hnavigation ⟨-, hholds⟩
  have hwindow := s.expr.hasWindow_iff.mpr hholds
  simp [hcareful hnavigation] at hwindow

/-- **Without nested window functions, care was possible.** A numbering function forgets what its
series computed, so not every step on the way need have been careful. But apart from its expression
and type a series can always be had with care, and a numbering function looks at nothing else. -/
theorem exists_careful (h : s.Computed allowed) :
    (¬ s.expr.Nests .window .window → s.Computed carefulCall) ∧
      ∃ base : Series, base.Computed carefulCall ∧ s = base.computed s.expr s.dtype := by
  induction h with
  | column relation name dtype =>
    exact ⟨fun _ => .column relation name dtype, _, .column relation name dtype, rfl⟩
  | @aggregate s next f partition _ hw h ih =>
    have hcareful : next.Computed carefulCall :=
      .aggregate (ih.1 ((rowwise_of_aggregate h).not_nests rfl)) hw h
    exact ⟨fun _ => hcareful, next, hcareful, next.computed_self.symm⟩
  | @windowed s next w call d _ hw _ h ih =>
    obtain ⟨ihself, base, hbase, hs⟩ := ih
    have hnext : next = base.computed next.expr next.dtype := by
      obtain ⟨args, -, hcall⟩ := windowed_eq_ok h
      obtain ⟨called, expr, -, -, rfl⟩ := windowFunction_eq_ok hcall
      rw [hs]
      rfl
    refine ⟨fun hnests => ?_, base, hbase, hnext⟩
    rw [nests_of_windowed hw h rfl rfl, not_and] at hnests
    cases hfamily : call.function.family with
    | navigation =>
      have hnone := not_or.mp (hnests hfamily)
      have hwindow : s.expr.hasWindow = false := by
        rw [Bool.eq_false_iff, ne_eq, Expr.hasWindow_iff]
        exact fun hholds => hnone.1 ⟨rfl, hholds⟩
      exact .windowed (ihself hnone.2) hw (fun _ => hwindow) h
    | numbering =>
      rw [hs, windowed_computed hfamily] at h
      refine .windowed hbase hw (fun hnavigation => ?_) h
      rw [hfamily] at hnavigation
      cases hnavigation
  | @compare s other next op _ _ h ih ihother =>
    obtain ⟨ihself, base, hbase, hs⟩ := ih
    have hcompared := compare_eq_ok h
    refine ⟨fun hnests => ?_, base, hbase, ?_⟩
    · rw [nests_of_comparedWith hcompared rfl, not_or] at hnests
      exact .compare (ihself hnests.1) (ihother.1 hnests.2) h
    · obtain ⟨expr, -, rfl⟩ := comparedWith_eq_ok hcompared
      rw [hs]
      rfl
  | @compareLiteral s next op value _ h ih =>
    obtain ⟨ihself, base, hbase, hs⟩ := ih
    obtain ⟨other, -, hcompared⟩ := compareLiteral_eq_ok h
    refine ⟨fun hnests => ?_, base, hbase, ?_⟩
    · rw [nests_of_comparedWith hcompared rfl, not_or] at hnests
      exact .compareLiteral (ihself hnests.1) h
    · obtain ⟨expr, -, rfl⟩ := comparedWith_eq_ok hcompared
      rw [hs]
      rfl

/-- **Window functions nest by navigation only.** Of the series that can be computed, none has an
aggregate or a window function in an aggregate, and aggregates of windowed series are refused. A
window function in a window function is found in exactly those that cannot be computed with care: a
call makes one if it is navigation and its series is windowed already, and no call is refused for
that. -/
theorem nests_by_navigation (h : s.Computed anyCall) :
    ¬ s.expr.Nests .aggregate .aggregate ∧ ¬ s.expr.Nests .aggregate .window ∧
      (s.expr.hasWindow = true → ∀ f partition, ∃ fault, s.aggregate f partition = .error fault) ∧
      (¬ s.expr.Nests .window .window ↔ s.Computed carefulCall) ∧
      ∀ (w : Window) (call : WindowCall) (d : Dialect), w.Rowwise →
        (∀ next, s.windowed w call d = .ok next →
          (next.expr.Nests .window .window ↔
            call.function.family = .navigation ∧ s.expr.hasWindow = true)) ∧
        ∀ family args, d.family = .ok family → s.checkRelation w.columns = .ok () →
          call.args s.expr = .ok args → ∃ next, s.windowed w call d = .ok next := by
  refine ⟨h.not_nests_aggregate rfl, h.not_nests_aggregate rfl, fun hwindow f partition => ?_,
    ⟨h.exists_careful.1, not_nests_window⟩, fun w call d hw => ⟨fun next hnext => ?_, ?_⟩⟩
  · cases haggregate : s.aggregate f partition with
    | error fault => exact ⟨fault, rfl⟩
    | ok next => simp [(rowwise_of_aggregate haggregate).window] at hwindow
  · rw [nests_of_windowed hw hnext rfl rfl, Expr.hasWindow_iff]
    refine and_congr_right fun _ => ⟨?_, fun hholds => .inl ⟨rfl, hholds⟩⟩
    rintro (⟨-, hholds⟩ | hnests)
    · exact hholds
    · exact hnests.holds
  · exact fun family args hd hrelation hargs => exists_windowed hd hrelation hargs

/-- A value of the row before. It has been computed with care, and can be compared but not
summed. -/
theorem nests_by_navigation_lag :
    let a := Sample.series Sample.relation "a"
    let lag := a.computed (Sample.shifted "lag(" a.expr) .int64
    a.windowed Sample.ordered (.lag 1 none) .postgres = .ok lag ∧ lag.Computed anyCall ∧
      lag.Computed carefulCall ∧ lag.expr.hasWindow = true ∧
      ∀ f partition, ∃ fault, lag.aggregate f partition = .error fault := by
  intro a lag
  have hlag : a.windowed Sample.ordered (.lag 1 none) .postgres = .ok lag := by decide +kernel
  have hw : Sample.ordered.Rowwise := by
    refine ⟨nofun, List.forall_mem_singleton.mpr (Expr.rowwise_column "a")⟩
  have hcomputed : lag.Computed anyCall := .windowed (.column _ "a" .int64) hw trivial hlag
  have hwindow : lag.expr.hasWindow = true := rfl
  obtain ⟨-, -, haggregate, hcareful, -⟩ := nests_by_navigation hcomputed
  exact ⟨hlag, hcomputed, hcareful.mp (by decide +kernel), hwindow, haggregate hwindow⟩

/-- A value of the row after, of the value of the row before: it is not refused, and one window
function is within the other. A sum of the same series is refused. -/
theorem lead_of_lag_nests :
    let a := Sample.series Sample.relation "a"
    let lag := a.computed (Sample.shifted "lag(" a.expr) .int64
    let lead := a.computed (Sample.shifted "lead(" lag.expr) .int64
    a.windowed Sample.ordered (.lag 1 none) .postgres = .ok lag ∧
      lag.windowed Sample.ordered (.lead 1 none) .postgres = .ok lead ∧ lead.Computed anyCall ∧
      lead.expr.Nests .window .window ∧
      lag.aggregate .sum none = .error (.series (.alreadyWindowed "a" "sum")) := by
  intro a lag lead
  have hlag : a.windowed Sample.ordered (.lag 1 none) .postgres = .ok lag := by decide +kernel
  have hlead : lag.windowed Sample.ordered (.lead 1 none) .postgres = .ok lead := by
    decide +kernel
  have hw : Sample.ordered.Rowwise := by
    refine ⟨nofun, List.forall_mem_singleton.mpr (Expr.rowwise_column "a")⟩
  refine ⟨hlag, hlead, ?_, by decide +kernel, by decide +kernel⟩
  exact .windowed (.windowed (.column _ "a" .int64) hw trivial hlag) hw trivial hlead

end Computed

end Series

end QueryFrame
