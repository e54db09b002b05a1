import QueryFrame.Proofs.Operations
import QueryFrame.Proofs.Safe

/-!
# The parts of an expression

The expressions that fill the slots of a template are the *parts* of what comes out, and they can be
read back from it in their order (`Expr.parts_of_construct`). So two constructions with one outcome
have the same arguments.

The second half says which constructions cannot fail. A template that is spelled with words has as
many slots as there are texts behind slots (`Expr.exists_construct_spell`), and the library writes
its rows, calls and windows with one slot for each argument. So every function can be called and
every window has a clause (`Window.exists_over`, `Window.exists_apply`), and an operation on a
series fails in its checks or not at all (`Series.exists_aggregate`,
`Series.exists_windowFunction`, `Series.exists_compare`).
-/

namespace QueryFrame

/-- The expression that a token holds, if it is no text or name. -/
def Token.part? : Token → Option Expr
  | .nested kind tokens => some ⟨kind, tokens⟩
  | _ => none

namespace Expr

/-- The expressions within, in order. -/
def parts (e : Expr) : List Expr :=
  e.tokens.filterMap Token.part?

@[simp] theorem part?_token (e : Expr) : e.token.part? = some e := rfl

/-- The parts are those that the tokens hold. -/
theorem mem_parts_iff {e part : Expr} : part ∈ e.parts ↔ part.token ∈ e.tokens := by
  rw [parts, List.mem_filterMap]
  constructor
  · rintro ⟨token, htoken, hpart⟩
    cases token with
    | nested kind inner =>
      obtain rfl := Option.some.inj hpart
      exact htoken
    | raw | column | identifier | string => cases hpart
  · exact fun htoken => ⟨_, htoken, part.part?_token⟩

theorem parts_fillTail {args : List Expr} {texts : List (List Char)}
    (h : texts.length = args.length) :
    (Template.fillTail args texts).filterMap Token.part? = args := by
  induction args generalizing texts with
  | nil => rfl
  | cons arg args ih =>
    cases texts with
    | nil => cases h
    | cons text texts =>
      have htext : (Template.rawTokens text).filterMap Token.part? = [] := by
        cases text <;> rfl
      rw [Template.fillTail, List.filterMap_cons_some (part?_token arg), List.filterMap_append,
        htext, ih (Nat.succ.inj h), List.nil_append]

/-- **The parts of a construction** are its arguments. -/
theorem parts_of_construct {kind : ExprKind} {template : String} {args : List Expr} {e : Expr}
    (h : construct kind template args = .ok e) : e.parts = args := by
  obtain ⟨hlength, rfl⟩ := construct_eq_ok h
  have htext : (Template.rawTokens (Template.parse template.toList).head).filterMap Token.part? =
      [] := by
    cases (Template.parse template.toList).head <;> rfl
  rw [parts, Template.fill, List.filterMap_append, htext, parts_fillTail hlength, List.nil_append]

/-! ## Constructions that cannot fail -/

/-- **A template spelled with words** takes one argument for each text behind a slot. -/
theorem exists_construct_spell {kind : ExprKind} {head : String} {tails : List String}
    {args : List Expr} (hhead : head = "" ∨ Word head)
    (htails : ∀ text ∈ tails, text = "" ∨ Word text) (hlength : tails.length = args.length) :
    ∃ e, construct kind (Template.spell head tails) args = .ok e := by
  have hparse := Template.parse_spell (Safe.not_brace hhead)
    fun text htext => Safe.not_brace (htails text htext)
  have hslots : (Template.parse (Template.spell head tails).toList).tail.length = args.length := by
    rw [hparse, List.length_map, hlength]
  exact ⟨_, if_pos hslots⟩

/-- A row of slots takes as many arguments as it was made for. -/
theorem exists_row {kind : ExprKind} {before separator after : String} {args : List Expr}
    (hbefore : before = "" ∨ Word before) (hseparator : Word separator)
    (hafter : after = "" ∨ Word after) (hempty : args = [] → before ++ after = "" ∨
      Word (before ++ after)) :
    ∃ e, construct kind (before ++ slots args.length separator ++ after) args = .ok e := by
  cases args with
  | nil =>
    rw [List.length_nil, slots_zero_eq_spell]
    exact exists_construct_spell (hempty rfl) (List.forall_mem_nil _) rfl
  | cons arg args =>
    rw [List.length_cons, slots_eq_spell]
    refine exists_construct_spell hbefore (forall_mem_row (.inr hseparator) hafter _) ?_
    rw [List.length_append, List.length_replicate, List.length_singleton, List.length_cons]

/-- A word has no slot in it, so it separates any number of expressions. -/
theorem exists_join {separator : String} (hseparator : Word separator) (exprs : List Expr) :
    ∃ e, join exprs separator = .ok e :=
  exists_join_iff.mpr (.inr (Template.slotless_of_not_mem (Safe.not_brace (.inr hseparator))))

end Expr

/-- The template of an aggregate has one slot, between two words. -/
theorem Aggregate.template_eq_spell (f : Aggregate) :
    ∃ head, Word head ∧ f.template = Template.spell head [")"] := by
  cases f with
  | sum => exact ⟨"sum(", .fixed (by decide), rfl⟩
  | mean => exact ⟨"avg(", .fixed (by decide), rfl⟩
  | min => exact ⟨"min(", .fixed (by decide), rfl⟩
  | max => exact ⟨"max(", .fixed (by decide), rfl⟩
  | count => exact ⟨"count(", .fixed (by decide), rfl⟩
  | nunique => exact ⟨"count(distinct ", .fixed (by decide), rfl⟩

/-- Any expression can be aggregated, as far as the text goes. -/
theorem Aggregate.exists_call (f : Aggregate) (e : Expr) :
    ∃ call, Expr.construct .aggregate f.template [e] = .ok call := by
  obtain ⟨head, hhead, hspell⟩ := f.template_eq_spell
  rw [hspell]
  exact Expr.exists_construct_spell (.inr hhead) (List.forall_mem_singleton.mpr (.inr .closing)) rfl

/-- And a window function can be called with any arguments. -/
theorem WindowFunction.exists_call (f : WindowFunction) (args : List Expr) :
    ∃ call, f.call args = .ok call :=
  Expr.exists_row (.inr (.call f)) .comma (.inr .closing) fun _ => .inr (.emptyCall f)

/-- An order can be written, with something in front of it or without. -/
theorem SortKey.exists_order {head : String} (hhead : head = "" ∨ Word head) {order : List SortKey}
    (hne : order ≠ []) :
    ∃ e, Expr.construct .regular (head ++ templates order) (order.map SortKey.expr) = .ok e := by
  rw [templates_eq_spell head order hne]
  refine Expr.exists_construct_spell hhead (fun text htext => ?_) ?_
  · exact .inr (Expr.Safe.word_of_mem_texts htext).1
  · rw [length_texts, List.length_map]

namespace Window

variable (w : Window)

theorem exists_partitionPart : ∃ columns, w.partitionPart = .ok columns := by
  rw [partitionPart]
  split
  · exact ⟨_, rfl⟩
  · have hword : Word "partition by " := .fixed (by decide)
    obtain ⟨part, hpart⟩ := @Expr.exists_row .regular "partition by " ", " ""
      (Columns.groupExprs w.columns) (.inr hword) .comma (.inl rfl) fun _ => .inr hword
    rw [String.append_empty] at hpart
    exact ⟨[part], congrArg (Except.map ([·])) hpart⟩

theorem exists_orderPart : ∃ order, w.orderPart = .ok order := by
  rw [orderPart]
  split
  · exact ⟨_, rfl⟩
  · next hne =>
    have hword : Word "order by " := .fixed (by decide)
    obtain ⟨part, hpart⟩ := SortKey.exists_order (.inr hword)
      fun hnil => hne (List.isEmpty_iff.mpr hnil)
    exact ⟨[part], congrArg (Except.map ([·])) hpart⟩

/-- **Every window has a clause.** -/
theorem exists_over : ∃ clause, w.over = .ok clause := by
  obtain ⟨columns, hcolumns⟩ := w.exists_partitionPart
  obtain ⟨order, horder⟩ := w.exists_orderPart
  obtain ⟨inner, hinner⟩ := Expr.exists_join .space (columns ++ order ++ w.framePart)
  have hclosing : ∀ text ∈ [")"], text = "" ∨ Word text :=
    List.forall_mem_singleton.mpr (.inr .closing)
  obtain ⟨clause, hclause⟩ := @Expr.exists_construct_spell .regular "over (" [")"] [inner]
    (.inr (.fixed (by decide))) hclosing rfl
  refine ⟨clause, ?_⟩
  rw [«over», hcolumns, Outcome.ok_bind, horder, Outcome.ok_bind, hinner, Outcome.ok_bind]
  exact hclause

/-- **Every call can be made over every window**, guarded or not. -/
theorem exists_apply (call : Expr) : ∃ e, w.apply call = .ok e := by
  obtain ⟨clause, hclause⟩ := w.exists_over
  rw [apply, hclause, Outcome.ok_bind]
  split
  · have hspace : ∀ text ∈ [" ", ""], text = "" ∨ Word text :=
      List.forall_mem_cons.mpr ⟨.inr .space, List.forall_mem_singleton.mpr (.inl rfl)⟩
    exact @Expr.exists_construct_spell .window "" [" ", ""] [call, clause] (.inl rfl) hspace rfl
  · have hend : Word " else NULL end" := .fixed (by decide)
    rw [guardTemplate_eq_spell]
    refine Expr.exists_construct_spell (.inr (.fixed (by decide))) ?_ rfl
    exact List.forall_mem_cons.mpr ⟨.inr (.threshold _), List.forall_mem_cons.mpr
      ⟨.inr .space, List.forall_mem_singleton.mpr (.inr hend)⟩⟩

/-- A window tells its parts in its clause: what divides the rows, their order, and the frame. -/
theorem parts_of_over {w : Window} {clause : Expr} (h : w.over = .ok clause) :
    ∃ inner columns order, w.partitionPart = .ok columns ∧ w.orderPart = .ok order ∧
      clause.parts = [inner] ∧ inner.parts = columns ++ order ++ w.framePart := by
  obtain ⟨columns, hcolumns, h⟩ := Outcome.bind_eq_ok h
  obtain ⟨order, horder, h⟩ := Outcome.bind_eq_ok h
  obtain ⟨inner, hinner, h⟩ := Outcome.bind_eq_ok h
  exact ⟨inner, columns, order, hcolumns, horder, Expr.parts_of_construct h,
    Expr.parts_of_construct hinner⟩

end Window

namespace Series

/-- **An aggregate that is not refused succeeds**, over whatever partition. -/
theorem exists_aggregate {s : Series} {f : Aggregate} {partition : Option Partition}
    (hcheck : s.checkAggregate f = .ok ())
    (hrelation : s.checkRelation (partition.getD .all).columns = .ok ()) :
    ∃ next, s.aggregate f partition = .ok next := by
  obtain ⟨call, hcall⟩ := f.exists_call s.expr
  rw [aggregate, hcheck, Outcome.ok_bind]
  dsimp only
  rw [hrelation, Outcome.ok_bind, hcall, Outcome.ok_bind]
  split
  · next w _ =>
    obtain ⟨expr, hexpr⟩ := w.exists_apply call
    rw [hexpr]
    exact ⟨_, rfl⟩
  · exact ⟨_, rfl⟩

/-- **So does a window function** in a known dialect. -/
theorem exists_windowFunction {d : Dialect} {family : Family} (hd : d.family = .ok family)
    {s : Series} {w : Window} (hrelation : s.checkRelation w.columns = .ok ()) (f : WindowFunction)
    (args : List Expr) (dtype : DataType) :
    ∃ next, s.windowFunction w f args dtype d = .ok next := by
  obtain ⟨call, hcall⟩ := f.exists_call args
  obtain ⟨expr, hexpr⟩ := (if f.keepsFrame family then w else w.unframed).exists_apply call
  rw [windowFunction_eq hd, hrelation, Outcome.ok_bind, hcall, Outcome.ok_bind, hexpr]
  exact ⟨_, rfl⟩

/-- Whatever the series computes: only the arguments have to be all right. -/
theorem exists_windowed {d : Dialect} {family : Family} (hd : d.family = .ok family)
    {s : Series} {w : Window} (hrelation : s.checkRelation w.columns = .ok ()) {call : WindowCall}
    {args : List Expr} (hargs : call.args s.expr = .ok args) :
    ∃ next, s.windowed w call d = .ok next := by
  rw [windowed, hargs, Outcome.ok_bind]
  exact exists_windowFunction hd hrelation _ _ _

/-- Any two expressions can be compared, as far as the text goes. -/
theorem exists_comparedWith (s : Series) (op : Comparison) (other : Expr) :
    ∃ next, s.comparedWith op other = .ok next := by
  have htails : ∀ text ∈ [") " ++ op.symbol ++ " (", ")"], text = "" ∨ Word text :=
    List.forall_mem_cons.mpr ⟨.inr (.operator op), List.forall_mem_singleton.mpr (.inr .closing)⟩
  obtain ⟨expr, hexpr⟩ := @Expr.exists_construct_spell .regular "(" _ [s.expr, other]
    (.inr .opening) htails rfl
  rw [comparedWith, op.template_eq_spell, hexpr, Outcome.ok_bind]
  exact ⟨_, rfl⟩

/-- **And a comparison** of two series of one relation and partition, if their types go
together. -/
theorem exists_compare {s t : Series} (htypes : s.dtype.comparableWith t.dtype = true)
    (hrelation : s.relation = t.relation) (hpartition : s.partition = t.partition)
    (op : Comparison) : ∃ next, s.compare op t = .ok next := by
  have hsame :
      (s.relation = t.relation && Partition.sameOption s.partition t.partition) = true := by
    rw [Bool.and_eq_true, decide_eq_true_iff, Partition.sameOption_iff]
    exact ⟨hrelation, hpartition⟩
  rw [compare, checkComparable, if_pos htypes, Outcome.ok_bind, if_pos hsame]
  exact s.exists_comparedWith op t.expr

end Series

end QueryFrame
