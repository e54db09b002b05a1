import QueryFrame.Proofs.Parts
import QueryFrame.Proofs.Rendering
import QueryFrame.Sample

/-!
# What a call over a window says

The `over` clause of a window and the calls over it are put together from templates. Here is what
they say, as texts made of the texts of the expressions in them (`Window.overText`,
`Window.callText`). These know no templates, only which parts there are and what stands between
them: a window without columns says nothing about dividing rows, one without an order nothing about
ordering them, and with a least number of rows the clause is said twice.

Every call over every window has the text that is laid down so, in either dialect, and refers to the
columns in the order of that text (`Window.toSql_apply`).
-/

namespace QueryFrame

/-- The keys of an order are written one after another. -/
theorem SortKey.filled_texts (target : Target) (head : String) :
    (order : List SortKey) → order ≠ [] →
      Template.filled head (texts order) (order.map fun key => key.expr.text target) =
        head ++ ", ".intercalate (order.map fun key => key.expr.text target ++ key.suffix)
  | [], h => absurd rfl h
  | [key], _ => by
    rw [texts, List.map_singleton, List.map_singleton, String.intercalate_singleton,
      ← String.append_assoc]
    rfl
  | key :: next :: rest, _ => by
    have ih := filled_texts target (key.suffix ++ ", ") (next :: rest) (List.cons_ne_nil _ _)
    rw [texts, List.map_cons, Template.filled, ih]
    · simp only [List.map_cons, String.intercalate_cons_cons, String.append_assoc]
    · exact List.cons_ne_nil _ _

/-- So an order says its keys, behind the text that it begins with. -/
theorem SortKey.text_of_construct {head : String} (hhead : '{' ∉ head.toList)
    {order : List SortKey} (hne : order ≠ []) {e : Expr}
    (h : Expr.construct .regular (head ++ templates order) (order.map SortKey.expr) = .ok e)
    (target : Target) :
    e.text target = head ++ ", ".intercalate (order.map fun key => key.expr.text target ++
      if key.ascending then " asc" else " desc") := by
  rw [templates_eq_spell _ _ hne] at h
  rw [Expr.text_of_construct hhead
    (fun text htext => Expr.Safe.not_brace (.inr (Expr.Safe.word_of_mem_texts htext).1)) h,
    List.map_map]
  exact filled_texts target _ _ hne

namespace Window

variable (w : Window)

/-! ## The texts -/

/-- What the rows are divided by: the columns in order, each composite one level by level. -/
def dividers : List Expr :=
  w.columns.flatMap fun entry =>
    if entry.2.levels.isEmpty then [entry.2.expr] else entry.2.levels.map fun level => level.2.expr

/-- How the rows are divided, nothing without columns. -/
def partitionText (target : Target) : String :=
  if w.columns.isEmpty then ""
  else "partition by " ++ ", ".intercalate (w.dividers.map (Expr.text target))

/-- How the rows are ordered, nothing without an order. -/
def orderText (target : Target) : String :=
  if w.spec.order.isEmpty then ""
  else "order by " ++ ", ".intercalate (w.spec.order.map fun key =>
    key.expr.text target ++ if key.ascending then " asc" else " desc")

/-- The `over` clause: what there is to say about columns, order and frame. -/
def overText (target : Target) : String :=
  "over (" ++ " ".intercalate
    ([w.partitionText target, w.orderText target, w.spec.clause].filter (· ≠ "")) ++ ")"

/-- A call over the window. With a least number of rows it has a value only where there are as
many. -/
def callText (target : Target) (call : Expr) : String :=
  if w.spec.minValues = 0 then call.text target ++ " " ++ w.overText target
  else
    "case when (count(1) " ++ w.overText target ++ ") >= " ++ w.spec.minValues.toNat.repr ++
      " then " ++ call.text target ++ " " ++ w.overText target ++ " else NULL end"

/-- The columns in an `over` clause. -/
def overColumns : List String :=
  w.dividers.flatMap Expr.columns ++ w.spec.order.flatMap fun key => key.expr.columns

/-- The columns in a call over the window. -/
def callColumns (call : Expr) : List String :=
  if w.spec.minValues = 0 then call.columns ++ w.overColumns
  else w.overColumns ++ call.columns ++ w.overColumns

/-! ## Parts of the clause -/

/-- Whether a part of a clause, which may be missing, says a text and refers to some columns. It is
missing if there is nothing to say. -/
structure Says (part : List Expr) (text : Target → String) (columns : List String) : Prop where
  text : ∀ target, part.map (Expr.text target) = [text target].filter (· ≠ "")
  columns : part.flatMap Expr.columns = columns

/-- A part that is missing. -/
theorem Says.nothing {text : Target → String} (h : ∀ target, text target = "") :
    Says [] text [] := by
  refine ⟨fun target => ?_, rfl⟩
  rw [h]
  rfl

/-- A part that is there says something, if only the word that it begins with. -/
theorem Says.something {e : Expr} {text : Target → String} {columns : List String} {word : String}
    (hword : word ≠ "") {rest : Target → String} (h : ∀ target, text target = word ++ rest target)
    (htext : ∀ target, e.text target = text target) (hcolumns : e.columns = columns) :
    Says [e] text columns := by
  refine ⟨fun target => ?_, ?_⟩
  · have hne : text target ≠ "" := by
      rw [h, ne_eq, String.append_eq_empty_iff]
      exact fun hboth => hword hboth.1
    rw [List.map_singleton, htext, List.filter_singleton, decide_eq_true hne, cond_true]
  · rw [List.flatMap_singleton, hcolumns]

/-- A window is divided by the expressions that its columns are grouped on. -/
theorem dividers_eq : w.dividers = Columns.groupExprs w.columns := by
  rw [dividers, Columns.groupExprs, Keyed.values, List.flatMap_map]
  refine List.flatMap_congr fun entry _ => ?_
  rw [Series.groupExprs, Series.isComposite, Series.levelExprs]
  cases entry.2.levels.isEmpty <;> rfl

theorem partitionPart_says : ∃ part, w.partitionPart = .ok part ∧
    Says part w.partitionText (w.dividers.flatMap Expr.columns) := by
  obtain ⟨part, hpart⟩ := w.exists_partitionPart
  refine ⟨part, hpart, ?_⟩
  rw [partitionPart] at hpart
  split at hpart
  · next hempty =>
    obtain rfl := Except.ok.inj hpart
    have hcolumns : w.dividers.flatMap Expr.columns = [] := by
      rw [dividers, List.isEmpty_iff.mp hempty]
      rfl
    rw [hcolumns]
    exact .nothing fun target => if_pos hempty
  · next hcolumns =>
    obtain ⟨e, he, rfl⟩ := Outcome.map_eq_ok hpart
    rw [← w.dividers_eq] at he
    refine .something (by decide) (fun target => if_neg hcolumns) (fun target => ?_)
      (Expr.columns_of_construct he)
    rw [← String.append_empty (s := "partition by " ++ _)] at he
    rw [Expr.text_of_row (Expr.Safe.not_brace (.inr (.fixed (by decide))))
      (Expr.Safe.not_brace (.inr .comma)) (Expr.Safe.not_brace (.inl rfl)) he, String.append_empty,
      partitionText, if_neg hcolumns]

theorem orderPart_says : ∃ part, w.orderPart = .ok part ∧
    Says part w.orderText (w.spec.order.flatMap fun key => key.expr.columns) := by
  obtain ⟨part, hpart⟩ := w.exists_orderPart
  refine ⟨part, hpart, ?_⟩
  rw [orderPart] at hpart
  split at hpart
  · next hempty =>
    obtain rfl := Except.ok.inj hpart
    rw [List.isEmpty_iff.mp hempty]
    exact .nothing fun target => if_pos hempty
  · next horder =>
    obtain ⟨e, he, rfl⟩ := Outcome.map_eq_ok hpart
    have hne : w.spec.order ≠ [] := fun hnil => horder (List.isEmpty_iff.mpr hnil)
    refine .something (by decide) (fun target => if_neg horder) (fun target => ?_) ?_
    · rw [SortKey.text_of_construct (Expr.Safe.not_brace (.inr (.fixed (by decide)))) hne he,
        orderText, if_neg horder]
    · rw [Expr.columns_of_construct he, List.flatMap_map]

theorem framePart_says : Says w.framePart (fun _ => w.spec.clause) [] := by
  rw [framePart]
  split
  · next hempty => exact .nothing fun _ => String.isEmpty_iff.mp hempty
  · next hclause =>
    have hne : w.spec.clause ≠ "" := fun hnil => hclause (String.isEmpty_iff.mpr hnil)
    refine .something hne (fun _ => (String.append_empty).symm) (fun target => ?_) rfl
    rw [Expr.text, Expr.raw, Expr.ofTokens, Expr.render]
    simp [Token.renderAllOnto, Token.renderOnto]

/-! ## Clauses and calls -/

/-- **The clause of a window** says what there is to say, and refers to its columns in that
order. -/
theorem over_says : ∃ clause, w.over = .ok clause ∧
    (∀ target, clause.text target = w.overText target) ∧ clause.columns = w.overColumns := by
  obtain ⟨columns, hcolumns, hpartition⟩ := w.partitionPart_says
  obtain ⟨order, horder, hordered⟩ := w.orderPart_says
  have hframe := w.framePart_says
  obtain ⟨clause, hover⟩ := w.exists_over
  refine ⟨clause, hover, ?_⟩
  rw [«over», hcolumns, Outcome.ok_bind, horder, Outcome.ok_bind] at hover
  obtain ⟨inner, hinner, hclause⟩ := Outcome.bind_eq_ok hover
  refine ⟨fun target => ?_, ?_⟩
  · rw [@Expr.text_of_construct .regular [inner] clause "over (" [")"]
      (Expr.Safe.not_brace (.inr (.fixed (by decide))))
      (List.forall_mem_singleton.mpr (Expr.Safe.not_brace (.inr .closing))) hclause]
    have htexts : (columns ++ order ++ w.framePart).map (Expr.text target) =
        [w.partitionText target, w.orderText target, w.spec.clause].filter (· ≠ "") := by
      rw [List.map_append, List.map_append, hpartition.text, hordered.text, hframe.text,
        ← List.filter_append, ← List.filter_append]
      rfl
    rw [List.map_singleton, Expr.text_of_join hinner, htexts]
    rfl
  · rw [Expr.columns_of_construct hclause, List.flatMap_singleton,
      Expr.columns_of_construct hinner, List.flatMap_append, List.flatMap_append,
      hpartition.columns, hordered.columns, hframe.columns, List.append_nil, overColumns]

/-- **A call over a window** says what is laid down, and refers to columns in that order. -/
theorem apply_says (call : Expr) : ∃ e, w.apply call = .ok e ∧ e.kind = .window ∧
    (∀ target, e.text target = w.callText target call) ∧ e.columns = w.callColumns call := by
  obtain ⟨clause, hclause, htext, hcolumns⟩ := w.over_says
  obtain ⟨e, he⟩ := w.exists_apply call
  refine ⟨e, he, ?_⟩
  rw [apply, hclause, Outcome.ok_bind] at he
  split at he
  · next hnone =>
    have hspace : ∀ text ∈ [" ", ""], '{' ∉ text.toList := by decide
    refine ⟨Expr.kind_of_construct he, fun target => ?_, ?_⟩
    · rw [@Expr.text_of_construct .window [call, clause] e "" [" ", ""] List.not_mem_nil hspace he,
        callText, if_pos hnone, ← htext]
      simp [Template.filled, String.append_assoc]
    · rw [Expr.columns_of_construct he, callColumns, if_pos hnone, ← hcolumns]
      simp
  · next hleast =>
    have htails : ∀ text ∈ [threshold w.spec.minValues, " ", " else NULL end"],
        '{' ∉ text.toList := by
      refine List.forall_mem_cons.mpr ⟨Expr.Safe.not_brace (.inr (.threshold _)), ?_⟩
      decide
    refine ⟨Expr.kind_of_construct he, fun target => ?_, ?_⟩
    · rw [guardTemplate_eq_spell] at he
      rw [Expr.text_of_construct (by decide) htails he, callText, if_neg hleast, ← htext,
        ← Number.Decimal.ofNat_eq_repr]
      simp [Template.filled, threshold, String.append_assoc]
    · rw [Expr.columns_of_construct he, callColumns, if_neg hleast, ← hcolumns]
      simp

/-- **What a call over a window is.** Any call can be made over any window. It is a window function,
it refers to the columns of the call and of the clause in the order of its text, and for any alias
of the table its SQL is the text that is laid down, in either dialect. -/
theorem toSql_apply (call : Expr) : ∃ e, w.apply call = .ok e ∧ e.kind = .window ∧
    e.columns = w.callColumns call ∧
    ∀ table, e.toSql .postgres table = .ok (w.callText ⟨.rowStore, table⟩ call) ∧
      e.toSql .bigQuery table = .ok (w.callText ⟨.columnarAnalytics, table⟩ call) := by
  obtain ⟨e, he, hkind, htext, hcolumns⟩ := w.apply_says call
  refine ⟨e, he, hkind, hcolumns, fun table => ?_⟩
  rw [← htext, ← htext]
  exact ⟨e.toSql_eq rfl table, e.toSql_eq rfl table⟩

/-- The clause is said twice, and so are its columns. -/
example :
    let clause := "over (partition by \"b\" order by \"a\" asc " ++ Sample.window.spec.clause ++ ")"
    Sample.window.callText ⟨.rowStore, none⟩ (.raw "rank()") =
        "case when (count(1) " ++ clause ++ ") >= 2 then rank() " ++ clause ++ " else NULL end" ∧
      Sample.window.callColumns (.raw "rank()") = ["b", "a", "b", "a"] := by
  decide +kernel

end Window

end QueryFrame
