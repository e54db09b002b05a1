import QueryFrame.Proofs.FrameRules
import QueryFrame.Proofs.SelectList

/-!
# Templates fit their arguments

A template that does not fit its arguments is a mistake of whoever wrote it. Callers may make it
with templates of their own. The library does not, whatever it is asked for (`templates_fit`):

* What it writes about columns, partitions, windows and dataframes is always written. Each template
  has a slot for each argument, and the names, numbers and operators in it hold no braces.
* Operations on series and the constructors of partitions can be refused, but for what is wrong with
  the operands. They are chains of checks, which refuse for other reasons, and of texts that are
  always written, and so `Outcome.Fits` goes through them link by link (`Outcome.Fits.bind`).
-/

namespace QueryFrame

/-- Whether a cause is a template that does not fit its arguments. -/
def Error.IsMismatch (e : Error) : Prop :=
  e.code = "EXPRESSION_001"

/-- No fault of another kind has that code. -/
theorem Error.isMismatch_iff {e : Error} : e.IsMismatch ↔ ∃ fault, e = .template fault := by
  rw [IsMismatch]
  cases e with
  | template fault =>
    refine iff_of_true ?_ ⟨fault, rfl⟩
    cases fault
    rfl
  | type fault | dialect fault | grouping fault | series fault | dataFrame fault =>
    refine iff_of_false ?_ (by rintro ⟨other, ⟨⟩⟩)
    cases fault <;> simp only [code, diagnostic, TypeFault.diagnostic, DialectFault.diagnostic,
      GroupingFault.diagnostic, SeriesFault.diagnostic, DataFrameFault.diagnostic] <;> decide
  | frame fault =>
    refine iff_of_false ?_ (by rintro ⟨other, ⟨⟩⟩)
    cases fault <;> simp only [code, diagnostic, FrameFault.diagnostic, FrameFault.code] <;> decide

/-! ## Chains of requests -/

namespace Outcome

variable {α β : Type}

/-- Whether a request is not refused for a template that does not fit. -/
def Fits (x : Outcome α) : Prop :=
  ∀ e, x = .error e → ¬ e.IsMismatch

theorem fits_ok (a : α) : Fits (.ok a) := by
  rintro e ⟨⟩

theorem fits_error {e : Error} (h : ∀ fault, e ≠ .template fault) :
    Fits (.error e : Outcome α) := by
  rintro _ ⟨⟩ hmismatch
  obtain ⟨fault, rfl⟩ := Error.isMismatch_iff.mp hmismatch
  exact h fault rfl

theorem fits_of_exists {x : Outcome α} (h : ∃ a, x = .ok a) : x.Fits := by
  obtain ⟨a, rfl⟩ := h
  exact fits_ok a

/-- **A chain fits** if its first request does and the rest of it does at every answer. -/
theorem Fits.bind {x : Outcome α} {f : α → Outcome β} (hx : x.Fits) (hf : ∀ a, (f a).Fits) :
    Fits (x >>= f) := by
  intro e h
  rcases bind_eq_error h with h | ⟨a, -, h⟩
  · exact hx e h
  · exact hf a e h

theorem Fits.map {x : Outcome α} (hx : x.Fits) (f : α → β) : Fits (x.map f) := fun e h =>
  hx e (map_eq_error_iff.mp h)

/-- **A check that is refused for something else** does no harm. -/
theorem Fits.unless {condition : Prop} [Decidable condition] {e : Error} {x : Outcome α}
    (he : ∀ fault, e ≠ .template fault) (hx : x.Fits) :
    Fits (if condition then .error e else x) := by
  split
  · exact fits_error he
  · exact hx

end Outcome

open Outcome

/-! ## What is always written -/

namespace Series

/-- Series can be put together, any number of them. -/
theorem exists_composite (relation : Relation) (name : String) (dtype : DataType)
    (levels : List Series) : ∃ s, composite relation name dtype levels = .ok s := by
  have hrow : ∃ e, Expr.construct .regular
      ("(" ++ Expr.slots (levels.map Series.expr).length ", " ++ ")") (levels.map Series.expr) =
        .ok e :=
    Expr.exists_row (.inr .opening) .comma (.inr .closing) fun _ => .inr (.fixed (by decide))
  rw [List.length_map] at hrow
  obtain ⟨expr, hexpr⟩ := hrow
  rw [composite, hexpr]
  exact ⟨_, rfl⟩

/-- Every series can be selected as a whole. -/
theorem exists_selectItem_whole (s : Series) : ∃ item, s.selectItem = .ok item := by
  rw [selectItem]
  split
  · exact ⟨_, rfl⟩
  · exact s.expr.exists_aliased s.name

/-- Series can be selected, whole or level by level. -/
theorem exists_items (whole : Bool) (columns : List Series) :
    ∃ items, selectItems whole columns = .ok items := by
  cases whole with
  | false =>
    obtain ⟨items, hitems, -⟩ := exists_selectItems columns
    exact ⟨items, hitems⟩
  | true =>
    induction columns with
    | nil => exact ⟨[], rfl⟩
    | cons s rest ih =>
      obtain ⟨item, hitem⟩ := s.exists_selectItem_whole
      obtain ⟨others, hothers⟩ := ih
      rw [selectItems_cons, ownItems, Bool.not_true, Bool.and_false, hitem, hothers]
      exact ⟨_, rfl⟩

end Series

/-- Every dataframe can be ordered. -/
theorem DataFrame.exists_orderClause (df : DataFrame) : ∃ clause, df.orderClause = .ok clause := by
  rw [orderClause]
  split
  · exact ⟨none, rfl⟩
  · next hne =>
    obtain ⟨order, horder⟩ := SortKey.exists_order (.inl rfl) fun h => hne (List.isEmpty_iff.mpr h)
    rw [String.empty_append] at horder
    exact ⟨some order, congrArg (Except.map some) horder⟩

/-- Every dataframe has a clause that groups its rows, which may be nothing. -/
theorem DataFrame.exists_groupClause (df : DataFrame) : ∃ clause, df.groupClause = .ok clause := by
  rw [groupClause]
  split
  · next p _ =>
    obtain ⟨clause, hclause, -⟩ := p.exists_clause
    exact ⟨clause, hclause⟩
  · exact ⟨none, rfl⟩

/-! ## Partitions -/

theorem Columns.fits_group (columns : List Series) : (group columns).Fits := by
  rw [group]
  split
  · exact fits_error (by rintro _ ⟨⟩)
  · exact fits_ok _

theorem Frame.fits_check (frame : Frame) : frame.check.Fits := by
  intro e h hmismatch
  obtain ⟨fault, rfl⟩ := fault_of_check h
  obtain ⟨other, ⟨⟩⟩ := Error.isMismatch_iff.mp hmismatch

namespace Partition

theorem fits_merge (found : Columns) (children : List Partition) : (merge found children).Fits := by
  induction children generalizing found with
  | nil => exact fits_ok found
  | cons child rest ih =>
    rw [merge]
    exact .unless (by rintro _ ⟨⟩) (ih _)

theorem fits_mergedColumns (children : List Partition) : (mergedColumns children).Fits :=
  (fits_merge [] children).bind fun merged => Columns.fits_group (Keyed.values merged)

theorem fits_groupBy (columns : List Series) : (groupBy columns).Fits :=
  (Columns.fits_group columns).bind fun _ => fits_ok _

theorem fits_cube (columns : List Series) : (cube columns).Fits :=
  (Columns.fits_group columns).bind fun _ => .unless (by rintro _ ⟨⟩) (fits_ok _)

theorem fits_rollup (columns : List Series) : (rollup columns).Fits :=
  (Columns.fits_group columns).bind fun _ => .unless (by rintro _ ⟨⟩) (fits_ok _)

theorem fits_groupingList (children : List Partition) : (groupingList children).Fits :=
  (fits_mergedColumns children).bind fun _ => fits_ok _

theorem fits_groupingSet (children : List Partition) : (groupingSet children).Fits :=
  (fits_mergedColumns children).bind fun _ => fits_ok _

end Partition

namespace Window

theorem fits_make (columns : List Series) (order : List SortKey) (frame : Frame)
    (minValues : Option UInt32) : (make columns order frame minValues).Fits :=
  (Columns.fits_group columns).bind fun _ => frame.fits_check.bind fun _ => fits_ok _

end Window

/-! ## Operations on series -/

theorem WindowFunction.fits_acceptsFrame (f : WindowFunction) (d : Dialect) :
    (f.acceptsFrame d).Fits := by
  cases d with
  | postgres | bigQuery => exact fits_ok _
  | other name => exact fits_error (by rintro _ ⟨⟩)

/-- A call over a window is refused for the dialect only. -/
theorem Window.fits_applyFor (w : Window) (f : WindowFunction) (args : List Expr) (d : Dialect) :
    (w.applyFor f args d).Fits := by
  have hcheck : (w.checkFrameFor f d).Fits := by
    rw [checkFrameFor]
    split
    · exact fits_ok ()
    · refine (f.fits_acceptsFrame d).bind fun accepted => ?_
      split
      · exact fits_ok ()
      · exact fits_error (by rintro _ ⟨⟩)
  exact hcheck.bind fun _ => (fits_of_exists (f.exists_call args)).bind fun call =>
    fits_of_exists (w.exists_apply call)

theorem Literal.fits_expr (value : Literal) : value.expr.Fits := by
  cases value with
  | int | string => exact fits_ok _
  | bool value => cases value <;> exact fits_ok _
  | float value =>
    rw [expr]
    split
    · exact fits_ok _
    · exact fits_error (by rintro _ ⟨⟩)

/-- The arguments of a call are refused for their literals only. -/
theorem WindowCall.fits_args (call : WindowCall) (own : Expr) : (call.args own).Fits := by
  have hdefault (default : Option Literal) : (defaultArg default).Fits := by
    cases default with
    | none => exact fits_ok []
    | some value => exact value.fits_expr.map _
  cases call with
  | lead offset default | lag offset default => exact (hdefault default).bind fun _ => fits_ok _
  | _ => exact fits_ok _

namespace Series

variable (s : Series)

theorem fits_checkRelation (columns : Columns) : (s.checkRelation columns).Fits := by
  rw [checkRelation]
  split
  · split
    · exact fits_ok ()
    · exact fits_error (by rintro _ ⟨⟩)
  · exact fits_ok ()

theorem fits_aggregate (f : Aggregate) (partition : Option Partition) :
    (s.aggregate f partition).Fits := by
  have hcheck : (s.checkAggregate f).Fits :=
    .unless (by rintro _ ⟨⟩) (.unless (by rintro _ ⟨⟩) (.unless (by rintro _ ⟨⟩) (fits_ok ())))
  refine hcheck.bind fun _ => (s.fits_checkRelation _).bind fun _ => ?_
  refine (fits_of_exists (f.exists_call s.expr)).bind fun call => ?_
  split
  · next w _ => exact (fits_of_exists (w.exists_apply call)).bind fun _ => fits_ok _
  · exact fits_ok _

theorem fits_windowFunction (w : Window) (f : WindowFunction) (args : List Expr) (dtype : DataType)
    (d : Dialect) : (s.windowFunction w f args dtype d).Fits := by
  have hcall (framed : Bool) : Fits (do
      let expr ← (if framed then w else w.unframed).applyFor f args d
      pure (s.computed expr dtype)) :=
    (Window.fits_applyFor _ f args d).bind fun _ => fits_ok _
  refine (s.fits_checkRelation w.columns).bind fun _ => ?_
  dsimp only
  split
  · exact (f.fits_acceptsFrame d).bind hcall
  · exact hcall true

theorem fits_windowed (w : Window) (call : WindowCall) (d : Dialect) :
    (s.windowed w call d).Fits :=
  (call.fits_args s.expr).bind fun _ => s.fits_windowFunction w _ _ _ d

theorem fits_checkComparable (left right : DataType) (op : Comparison) :
    (checkComparable left right op).Fits := by
  rw [checkComparable]
  split
  · exact fits_ok ()
  · exact fits_error (by rintro _ ⟨⟩)

theorem fits_compare (op : Comparison) (other : Series) : (s.compare op other).Fits := by
  refine (fits_checkComparable _ _ op).bind fun _ => ?_
  split
  · exact fits_of_exists (s.exists_comparedWith op other.expr)
  · exact fits_error (by rintro _ ⟨⟩)

theorem fits_compareLiteral (op : Comparison) (value : Literal) :
    (s.compareLiteral op value).Fits :=
  (fits_checkComparable _ _ op).bind fun _ => value.fits_expr.bind fun other =>
    fits_of_exists (s.exists_comparedWith op other)

end Series

/-- **The templates of the library fit their arguments.** Composite series, columns under a name,
select lists, calls, windows and the clauses of partitions and dataframes can always be written. No
partition or window is refused for a template, no call over a window, and no aggregate, window
function or comparison of a series. All this is for any number of columns, levels, members, sort
keys and arguments, and for any names and expressions. -/
theorem templates_fit :
    ((∀ relation name dtype levels, ∃ s, Series.composite relation name dtype levels = .ok s) ∧
      (∀ (e : Expr) name, ∃ item, e.aliased name = .ok item) ∧
      (∀ s : Series, (∃ item, s.selectItem = .ok item) ∧ ∃ items, s.levelItems = .ok items) ∧
      (∀ (f : WindowFunction) args, ∃ call, f.call args = .ok call) ∧
      (∀ (w : Window) call, ∃ e, w.apply call = .ok e) ∧
      (∀ p : Partition, (∃ clause, p.clause = .ok clause) ∧
        ∀ whole, ∃ items, p.selectItems whole = .ok items) ∧
      ∀ df : DataFrame, (∃ items, df.selectItems = .ok items) ∧
        (∃ clause, df.groupClause = .ok clause) ∧ ∃ clause, df.orderClause = .ok clause) ∧
    (∀ columns, (Partition.groupBy columns).Fits ∧ (Partition.cube columns).Fits ∧
      (Partition.rollup columns).Fits) ∧
    (∀ children, (Partition.groupingList children).Fits ∧ (Partition.groupingSet children).Fits) ∧
    (∀ columns order frame minValues, (Window.make columns order frame minValues).Fits) ∧
    (∀ (w : Window) f args d, (w.applyFor f args d).Fits) ∧
    ∀ s : Series, (∀ f partition, (s.aggregate f partition).Fits) ∧
      (∀ w call d, (s.windowed w call d).Fits) ∧
      (∀ w f args dtype d, (s.windowFunction w f args dtype d).Fits) ∧
      (∀ op other, (s.compare op other).Fits) ∧ ∀ op value, (s.compareLiteral op value).Fits := by
  refine ⟨⟨Series.exists_composite, Expr.exists_aliased, fun s => ⟨s.exists_selectItem_whole, ?_⟩,
    WindowFunction.exists_call, Window.exists_apply, fun p => ⟨?_, fun whole => ?_⟩,
    fun df => ⟨?_, df.exists_groupClause, df.exists_orderClause⟩⟩, ?_⟩
  · obtain ⟨items, hitems, -⟩ := s.exists_levelItems
    exact ⟨items, hitems⟩
  · obtain ⟨clause, hclause, -⟩ := p.exists_clause
    exact ⟨clause, hclause⟩
  · exact Series.exists_items whole (Keyed.values p.columns)
  · exact Series.exists_items false _
  · exact ⟨fun columns => ⟨Partition.fits_groupBy columns, Partition.fits_cube columns,
      Partition.fits_rollup columns⟩, fun children => ⟨Partition.fits_groupingList children,
      Partition.fits_groupingSet children⟩, Window.fits_make, Window.fits_applyFor, fun s =>
      ⟨s.fits_aggregate, s.fits_windowed, s.fits_windowFunction, s.fits_compare,
      s.fits_compareLiteral⟩⟩

end QueryFrame
