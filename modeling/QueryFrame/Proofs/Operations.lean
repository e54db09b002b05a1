import QueryFrame.Proofs.Columns
import QueryFrame.Series.Comparison
import QueryFrame.Series.Windowed

/-!
# What operations on series return

Every operation that computes something replaces the expression of a series and, at most, its type.
An aggregate over groups also replaces the index and the partition. The inversions below say so
operation by operation, together with how the new expression is constructed, and that is all that
later modules know of the operations.

In a known dialect a window function is accepted whatever the window is. What is left to know is
whether the function keeps the frame (`Series.windowFunction_eq`).

Moving a series or partition to another relation changes no expression (`Series.face_rebind`).
-/

namespace QueryFrame

namespace Series

/-- Inversion for a composite: its expression is made of those of the levels. -/
theorem composite_eq_ok {relation : Relation} {name : String} {dtype : DataType}
    {levels : List Series} {s : Series} (h : composite relation name dtype levels = .ok s) :
    ∃ expr, Expr.construct .regular ("(" ++ Expr.slots levels.length ", " ++ ")")
        (levels.map Series.expr) = .ok expr ∧
      s = { single relation name dtype expr with
        levels := Keyed.ofList (levels.map fun level => (level.name, level)) } := by
  obtain ⟨expr, hexpr, h⟩ := Outcome.bind_eq_ok h
  exact ⟨expr, hexpr, (Outcome.pure_eq_ok h).symm⟩

/-- The items for a single series: for each level, or for the whole. -/
def ownItems (whole : Bool) (s : Series) : Outcome (List Expr) :=
  if s.isComposite && !whole then s.levelItems else s.selectItem.map ([·])

theorem selectItems_cons (whole : Bool) (s : Series) (rest : List Series) :
    selectItems whole (s :: rest) = (do
      let own ← s.ownItems whole
      let others ← selectItems whole rest
      pure (own ++ others)) := by
  rw [selectItems, ownItems]
  split <;> rfl

/-- Inversion for a comparison with an expression. -/
theorem comparedWith_eq_ok {s next : Series} {op : Comparison} {other : Expr}
    (h : s.comparedWith op other = .ok next) :
    ∃ expr, Expr.construct .regular ("(" ++ slot ++ ") " ++ op.symbol ++ " (" ++ slot ++ ")")
        [s.expr, other] = .ok expr ∧ next = s.computed expr .bool := by
  obtain ⟨expr, hexpr, h⟩ := Outcome.bind_eq_ok h
  exact ⟨expr, hexpr, (Outcome.pure_eq_ok h).symm⟩

theorem compare_eq_ok {s other next : Series} {op : Comparison}
    (h : s.compare op other = .ok next) : s.comparedWith op other.expr = .ok next := by
  obtain ⟨-, -, h⟩ := Outcome.bind_eq_ok h
  split at h
  · exact h
  · cases h

theorem compareLiteral_eq_ok {s next : Series} {op : Comparison} {value : Literal}
    (h : s.compareLiteral op value = .ok next) :
    ∃ other, value.expr = .ok other ∧ s.comparedWith op other = .ok next := by
  obtain ⟨-, -, h⟩ := Outcome.bind_eq_ok h
  exact Outcome.bind_eq_ok h

end Series

/-- A partition that has a window is that window. -/
theorem Partition.eq_of_window? {p : Partition} {w : Window} (h : p.window? = some w) :
    p = w.partition := by
  obtain ⟨columns, shape⟩ := p
  cases shape with
  | window spec =>
    obtain rfl := Option.some.inj h
    rfl
  | _ => cases h

/-- Only a window is seen as one. -/
theorem Partition.isWindow_eq (p : Partition) : p.isWindow = p.window?.isSome := by
  obtain ⟨columns, shape⟩ := p
  cases shape <;> rfl

namespace Series

/-- Inversion for an aggregate over a partition: the checks have passed, and rows stay if the
partition is a window, or collapse if it is none. -/
theorem aggregate_some_eq_ok {s next : Series} {f : Aggregate} {p : Partition}
    (h : s.aggregate f (some p) = .ok next) :
    s.checkAggregate f = .ok () ∧
      ∃ call, Expr.construct .aggregate f.template [s.expr] = .ok call ∧
        ((∃ w expr, p.window? = some w ∧ w.apply call = .ok expr ∧
            next = s.computed expr (f.resultType s.dtype)) ∨
          (p.window? = none ∧ next = { s.computed call (f.resultType s.dtype) with
            index := p.columns, partition := some p })) := by
  obtain ⟨_, hcheck, h⟩ := Outcome.bind_eq_ok h
  obtain ⟨_, -, h⟩ := Outcome.bind_eq_ok h
  obtain ⟨call, hcall, h⟩ := Outcome.bind_eq_ok h
  refine ⟨hcheck, call, hcall, ?_⟩
  split at h
  · next w hw =>
    obtain ⟨expr, hexpr, h⟩ := Outcome.bind_eq_ok h
    exact .inl ⟨w, expr, hw, hexpr, (Outcome.pure_eq_ok h).symm⟩
  · next hnone => exact .inr ⟨hnone, (Outcome.pure_eq_ok h).symm⟩

/-- Inversion for an aggregate: over a window its value is computed for each row, over anything
else it has the columns of the partition as its index. -/
theorem aggregate_eq_ok {s next : Series} {f : Aggregate} {partition : Option Partition}
    (h : s.aggregate f partition = .ok next) :
    ∃ call, Expr.construct .aggregate f.template [s.expr] = .ok call ∧
      ((∃ (w : Window) (expr : Expr), partition = some w.partition ∧ w.apply call = .ok expr ∧
          next = s.computed expr (f.resultType s.dtype)) ∨
        ∃ p, (partition = some p ∨ p = .all) ∧
          next = { s.computed call (f.resultType s.dtype) with
            index := p.columns, partition := some p }) := by
  cases partition with
  | none =>
    obtain ⟨-, call, hcall, ⟨w, -, hw, -⟩ | ⟨-, hnext⟩⟩ := @aggregate_some_eq_ok s next f .all h
    · cases hw
    · exact ⟨call, hcall, .inr ⟨.all, .inr rfl, hnext⟩⟩
  | some p =>
    obtain ⟨-, call, hcall, ⟨w, expr, hw, hexpr, hnext⟩ | ⟨-, hnext⟩⟩ := aggregate_some_eq_ok h
    · rw [Partition.eq_of_window? hw]
      exact ⟨call, hcall, .inl ⟨w, expr, rfl, hexpr, hnext⟩⟩
    · exact ⟨call, hcall, .inr ⟨p, .inl rfl, hnext⟩⟩

end Series

/-- Inversion for a call over a window, for a dialect. -/
theorem Window.applyFor_eq_ok {w : Window} {f : WindowFunction} {args : List Expr} {d : Dialect}
    {e : Expr} (h : w.applyFor f args d = .ok e) :
    ∃ call, f.call args = .ok call ∧ w.apply call = .ok e := by
  obtain ⟨-, -, h⟩ := Outcome.bind_eq_ok h
  exact Outcome.bind_eq_ok h

namespace Series

/-- Inversion for a window function: it is called over the window, with or without its frame. -/
theorem windowFunction_eq_ok {s next : Series} {w : Window} {f : WindowFunction}
    {args : List Expr} {dtype : DataType} {d : Dialect}
    (h : s.windowFunction w f args dtype d = .ok next) :
    ∃ call expr, f.call args = .ok call ∧
      (w.apply call = .ok expr ∨ w.unframed.apply call = .ok expr) ∧
      next = s.computed expr dtype := by
  obtain ⟨-, -, h⟩ := Outcome.bind_eq_ok h
  have hframed : ∃ framed : Bool,
      ((if framed then w else w.unframed).applyFor f args d >>= fun expr =>
        pure (s.computed expr dtype)) = .ok next := by
    split at h
    · obtain ⟨framed, -, h⟩ := Outcome.bind_eq_ok h
      exact ⟨framed, h⟩
    · exact ⟨true, h⟩
  obtain ⟨framed, h⟩ := hframed
  obtain ⟨expr, hexpr, h⟩ := Outcome.bind_eq_ok h
  obtain ⟨call, hcall, happly⟩ := Window.applyFor_eq_ok hexpr
  refine ⟨call, expr, hcall, ?_, (Outcome.pure_eq_ok h).symm⟩
  cases framed with
  | true => exact .inl happly
  | false => exact .inr happly

theorem windowed_eq_ok {s next : Series} {w : Window} {call : WindowCall} {d : Dialect}
    (h : s.windowed w call d = .ok next) :
    ∃ args, call.args s.expr = .ok args ∧
      s.windowFunction w call.function args (call.resultType s.dtype) d = .ok next :=
  Outcome.bind_eq_ok h

end Series

/-! ## Window functions in a known dialect -/

/-- Whether a function keeps the frame of its window. -/
def WindowFunction.keepsFrame (f : WindowFunction) (family : Family) : Bool :=
  family = .rowStore || f.family = .navigation

/-- Row stores take a frame with every function. -/
@[simp] theorem WindowFunction.keepsFrame_rowStore (f : WindowFunction) :
    f.keepsFrame .rowStore = true := rfl

/-- Columnar engines take one with navigation functions. -/
@[simp] theorem WindowFunction.keepsFrame_columnarAnalytics (f : WindowFunction) :
    f.keepsFrame .columnarAnalytics = decide (f.family = .navigation) := rfl

section Families

variable {d : Dialect} {family : Family}

theorem WindowFunction.acceptsFrame_eq (hd : d.family = .ok family) (f : WindowFunction) :
    f.acceptsFrame d = .ok (f.keepsFrame family) := by
  rw [acceptsFrame, hd, Outcome.ok_bind]
  cases family <;> rfl

namespace Window

variable {w : Window} (f : WindowFunction) (args : List Expr)

/-- Without a frame there is nothing to ask the dialect, known or not. -/
theorem applyFor_of_unframed (hclause : w.spec.clause = "") (d : Dialect) :
    w.applyFor f args d = f.call args >>= w.apply := by
  rw [applyFor, checkFrameFor, hclause]
  rfl

/-- With a frame, the dialect is asked first. -/
theorem applyFor_of_framed (hclause : w.spec.clause ≠ "") (d : Dialect) :
    w.applyFor f args d = (do
      let accepted ← f.acceptsFrame d
      if accepted then f.call args >>= w.apply
      else .error (.dialect (.frameRefused f.name d.name w.spec.clause))) := by
  have hempty : ¬ w.spec.clause.isEmpty = true := fun h => hclause (String.isEmpty_iff.mp h)
  rw [applyFor, checkFrameFor, if_neg hempty, bind_assoc]
  refine bind_congr fun accepted => ?_
  cases accepted <;> rfl

/-- A known dialect refuses the frames that it does not take. -/
theorem applyFor_of_family (hd : d.family = .ok family) :
    w.applyFor f args d =
      if w.spec.clause = "" ∨ f.keepsFrame family then f.call args >>= w.apply
      else .error (.dialect (.frameRefused f.name d.name w.spec.clause)) := by
  by_cases hclause : w.spec.clause = ""
  · rw [applyFor_of_unframed f args hclause, if_pos (.inl hclause)]
  · rw [applyFor_of_framed f args hclause, f.acceptsFrame_eq hd, Outcome.ok_bind]
    exact if_congr (or_iff_right hclause).symm rfl rfl

/-- A window that has lost its frame where the function cannot keep it is accepted. -/
theorem applyFor_eq (hd : d.family = .ok family) (w : Window) (f : WindowFunction)
    (args : List Expr) :
    (if f.keepsFrame family then w else w.unframed).applyFor f args d =
      f.call args >>= (if f.keepsFrame family then w else w.unframed).apply := by
  cases hkeeps : f.keepsFrame family with
  | true => exact (applyFor_of_family f args hd).trans (if_pos (.inr hkeeps))
  | false => exact applyFor_of_unframed f args rfl d

end Window

/-- **A window function in a known dialect** is called once the relation has been checked, over the
window as it is or without its frame. -/
theorem Series.windowFunction_eq (hd : d.family = .ok family) (s : Series) (w : Window)
    (f : WindowFunction) (args : List Expr) (dtype : DataType) :
    s.windowFunction w f args dtype d = (do
      s.checkRelation w.columns
      let call ← f.call args
      let expr ← (if f.keepsFrame family then w else w.unframed).apply call
      pure (s.computed expr dtype)) := by
  have hcall : ((if f.keepsFrame family then w else w.unframed).applyFor f args d >>=
      fun expr => pure (s.computed expr dtype)) = (do
        let call ← f.call args
        let expr ← (if f.keepsFrame family then w else w.unframed).apply call
        pure (s.computed expr dtype)) := by
    rw [Window.applyFor_eq hd, bind_assoc]
  rw [windowFunction]
  refine bind_congr fun _ => ?_
  split
  · rw [f.acceptsFrame_eq hd]
    exact hcall
  · next hfamily =>
    have hkeeps : f.keepsFrame family = true := by
      rw [WindowFunction.keepsFrame, Bool.or_eq_true, decide_eq_true_iff, decide_eq_true_iff]
      cases hf : f.family with
      | navigation => exact .inr rfl
      | numbering => exact absurd hf hfamily
    rw [hkeeps] at hcall ⊢
    exact hcall

end Families

namespace Series

/-! ## Moving to another relation -/

/-- What a series shows of itself in a query: its name, its expression, and the names and
expressions of its levels. -/
def face (s : Series) : String × Expr × List (String × Expr) :=
  (s.name, s.expr, s.levels.map fun level => (level.1, level.2.expr))

theorem expr_rebind (relation : Relation) (s : Series) : (s.rebind relation).expr = s.expr := by
  rw [rebind_eq]

theorem partition_rebind (relation : Relation) (s : Series) :
    (s.rebind relation).partition = s.partition := by
  rw [rebind_eq]

/-- A series that is moved takes its index along. -/
theorem index_rebind (relation : Relation) (s : Series) :
    (s.rebind relation).index = s.index.map fun entry => (entry.1, entry.2.rebind relation) := by
  rw [rebind_eq]
  exact rebindAll_eq_map relation s.index

/-- And its levels. -/
theorem levels_rebind (relation : Relation) (s : Series) :
    (s.rebind relation).levels = s.levels.map fun entry => (entry.1, entry.2.rebind relation) := by
  rw [rebind_eq]
  exact rebindAll_eq_map relation s.levels

/-- **A series shows the same over another relation.** -/
theorem face_rebind (relation : Relation) (s : Series) : (s.rebind relation).face = s.face := by
  have hname : (s.rebind relation).name = s.name := by rw [rebind_eq]
  rw [face, face, hname, expr_rebind, levels_rebind, List.map_map]
  congr 2
  refine List.map_congr_left fun level _ => ?_
  rw [Function.comp, expr_rebind]

end Series

namespace Partition

/-- Each member of a list that is moved is moved by itself. -/
theorem mem_of_rebindAll {relation : Relation} {children moved : List Partition}
    (h : rebindAll relation children = .ok moved) {q : Partition} (hq : q ∈ moved) :
    ∃ child ∈ children, child.rebind relation = .ok q := by
  induction children generalizing moved with
  | nil =>
    rw [rebindAll, Except.ok.injEq] at h
    rw [← h] at hq
    cases hq
  | cons child rest ih =>
    rw [rebindAll] at h
    obtain ⟨first, hfirst, h⟩ := Outcome.bind_eq_ok h
    obtain ⟨others, hothers, h⟩ := Outcome.bind_eq_ok h
    rw [← Outcome.pure_eq_ok h] at hq
    rcases List.mem_cons.mp hq with rfl | hq
    · exact ⟨child, List.mem_cons_self .., hfirst⟩
    · obtain ⟨other, hother, hmoved⟩ := ih hothers hq
      exact ⟨other, List.mem_cons_of_mem _ hother, hmoved⟩

/-- The members of a list contribute their clauses, or nothing. -/
theorem mem_of_clauses {children : List Partition} {exprs : List Expr}
    (h : clauses children = .ok exprs) {e : Expr} (he : e ∈ exprs) :
    e = .empty ∨ ∃ child ∈ children, child.clause = .ok (some e) := by
  induction children generalizing exprs with
  | nil =>
    rw [clauses, Except.ok.injEq] at h
    rw [← h] at he
    cases he
  | cons child rest ih =>
    rw [clauses] at h
    obtain ⟨first, hfirst, h⟩ := Outcome.bind_eq_ok h
    obtain ⟨others, hothers, h⟩ := Outcome.bind_eq_ok h
    rw [← Outcome.pure_eq_ok h] at he
    rcases List.mem_cons.mp he with rfl | he
    · cases first with
      | none => exact .inl rfl
      | some clause => exact .inr ⟨child, List.mem_cons_self .., hfirst⟩
    · rcases ih hothers he with hempty | ⟨other, hother, hclause⟩
      · exact .inl hempty
      · exact .inr ⟨other, List.mem_cons_of_mem _ hother, hclause⟩

end Partition

end QueryFrame
