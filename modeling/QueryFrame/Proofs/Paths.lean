import QueryFrame.Proofs.Nodes
import QueryFrame.Proofs.Rendering

/-!
# Ways down an expression

What an expression computes is decided on the way down from its root, part by part. The search for
window functions goes everywhere, the one for aggregates turns back at window functions. A way down
is an `Expr.Path`: the nodes that it passes, and the node that it ends at. A search that passes some
nodes and is after others finds something exactly if there is a path to it (`Expr.Reaches`,
`Expr.iff_reaches`). That is one induction for every search, and what is left to say of each is what
it does at one node.

So the flags of an expression tell where its calls are (`Expr.flags_by_paths`):

* one for window functions, whether there is a path to a window function at all, and paths lead to
  the nodes of the expression and nowhere else (`Expr.mem_nodes_iff`);
* one for aggregates, whether there is a path to an aggregate that passes no window function;
* and the columns are those among the leaves, in the order in which they are written.
-/

namespace QueryFrame

namespace Expr

/-! ## Paths -/

/-- A way down an expression: the nodes passed, root first, and the node at its end. -/
inductive Path : Expr → List Expr → Expr → Prop
  /-- the root is reached at once -/
  | here (e : Expr) : Path e [] e
  /-- a way down a part is one that passes the root first -/
  | down {e part node : Expr} {above : List Expr} (hpart : part ∈ e.parts)
      (h : Path part above node) : Path e (e :: above) node

/-- Whether there is a way down that passes only some nodes and ends at another one. -/
def Reaches (through goal : Expr → Prop) (e : Expr) : Prop :=
  ∃ above node, e.Path above node ∧ goal node ∧ ∀ passed ∈ above, through passed

section Reaches

variable {through goal : Expr → Prop}

/-- **The first step** of a way down, if there is any. -/
theorem reaches_iff {e : Expr} :
    e.Reaches through goal ↔ goal e ∨ through e ∧ ∃ part ∈ e.parts, part.Reaches through goal := by
  constructor
  · rintro ⟨above, node, hpath, hgoal, hthrough⟩
    cases hpath with
    | here => exact .inl hgoal
    | down hpart hpath =>
      obtain ⟨hroot, hthrough⟩ := List.forall_mem_cons.mp hthrough
      exact .inr ⟨hroot, _, hpart, _, node, hpath, hgoal, hthrough⟩
  · rintro (hgoal | ⟨hroot, part, hpart, above, node, hpath, hgoal, hthrough⟩)
    · exact ⟨[], e, .here e, hgoal, List.forall_mem_nil _⟩
    · exact ⟨e :: above, node, .down hpart hpath, hgoal, List.forall_mem_cons.mpr ⟨hroot, hthrough⟩⟩

/-- A part is smaller than what it is a part of. -/
theorem sizeOf_lt_of_mem_parts {e part : Expr} (h : part ∈ e.parts) : sizeOf part < sizeOf e := by
  have hlt := List.sizeOf_lt_of_mem (mem_parts_iff.mp h)
  cases e
  cases part
  simp only [token, Expr.mk.sizeOf_spec, Token.nested.sizeOf_spec] at hlt ⊢
  omega

/-- What holds of an expression as soon as it holds of its parts holds of every expression. -/
@[elab_as_elim]
theorem induction_parts {motive : Expr → Prop}
    (step : ∀ e, (∀ part ∈ e.parts, motive part) → motive e) (e : Expr) : motive e :=
  step e fun part _ => induction_parts step part
termination_by sizeOf e
decreasing_by exact sizeOf_lt_of_mem_parts ‹part ∈ e.parts›

/-- **A search finds what can be reached**: one that looks at a node, and at its parts unless it
turns back. -/
theorem iff_reaches {found : Expr → Prop}
    (h : ∀ e, found e ↔ goal e ∨ through e ∧ ∃ part ∈ e.parts, found part) (e : Expr) :
    found e ↔ e.Reaches through goal := by
  induction e using induction_parts with
  | step e ih =>
    rw [h, reaches_iff]
    exact or_congr_right (and_congr_right fun _ => exists_congr fun part =>
      and_congr_right fun hpart => ih part hpart)

end Reaches

/-! ## Nodes and calls -/

/-- **Paths lead to the nodes** of an expression. -/
theorem mem_nodes_iff {e node : Expr} : node ∈ e.nodes ↔ ∃ above, e.Path above node := by
  -- listing the nodes is a search that never turns back
  have hstep (e : Expr) : node ∈ e.nodes ↔
      e = node ∨ True ∧ ∃ part ∈ e.parts, node ∈ part.nodes := by
    have hnodes : e.nodes = e :: e.below := rfl
    rw [hnodes, List.mem_cons, below_eq, List.mem_flatMap, eq_comm, true_and]
  rw [iff_reaches hstep]
  constructor
  · rintro ⟨above, _, hpath, rfl, -⟩
    exact ⟨above, hpath⟩
  · rintro ⟨above, hpath⟩
    exact ⟨above, node, hpath, rfl, fun _ _ => trivial⟩

/-- Window functions are looked for everywhere. -/
theorem hasWindow_iff_path (e : Expr) :
    e.hasWindow = true ↔ ∃ above node, e.Path above node ∧ node.kind = .window := by
  rw [hasWindow_iff]
  constructor
  · rintro ⟨node, hnode, hkind⟩
    obtain ⟨above, hpath⟩ := mem_nodes_iff.mp hnode
    exact ⟨above, node, hpath, hkind⟩
  · rintro ⟨above, node, hpath, hkind⟩
    exact ⟨node, mem_nodes_iff.mpr ⟨above, hpath⟩, hkind⟩

end Expr

/-- Rows collapse in some token when they do in one of the expressions among the tokens. -/
theorem Token.anyAggregate_eq (tokens : List Token) :
    Token.anyAggregate tokens = (tokens.filterMap Token.part?).any Expr.hasAggregate := by
  induction tokens with
  | nil => rfl
  | cons token rest ih =>
    rw [Token.anyAggregate, ih]
    cases token <;> rfl

namespace Expr

/-- The search for aggregates turns back at window functions. -/
theorem hasAggregate_iff_parts (e : Expr) :
    e.hasAggregate = true ↔
      e.kind = .aggregate ∨ e.kind ≠ .window ∧ ∃ part ∈ e.parts, part.hasAggregate = true := by
  have hparts : Token.anyAggregate e.tokens = true ↔
      ∃ part ∈ e.parts, part.hasAggregate = true := by
    rw [Token.anyAggregate_eq, List.any_eq_true, parts]
  obtain ⟨kind, tokens⟩ := e
  cases kind with
  | aggregate => exact iff_of_true rfl (.inl rfl)
  | window =>
    refine iff_of_false Bool.false_ne_true ?_
    rintro (hkind | ⟨hkind, -⟩)
    · cases hkind
    · exact hkind rfl
  | regular | constant =>
    refine hparts.trans ⟨fun h => .inr ⟨?_, h⟩, ?_⟩
    · rintro ⟨⟩
    · rintro (hkind | ⟨-, h⟩)
      · cases hkind
      · exact h

/-- So it finds those that no window function is above of. -/
theorem hasAggregate_iff_path (e : Expr) :
    e.hasAggregate = true ↔ ∃ above node, e.Path above node ∧ node.kind = .aggregate ∧
      ∀ passed ∈ above, passed.kind ≠ .window :=
  iff_reaches hasAggregate_iff_parts e

end Expr

/-! ## Columns -/

/-- The name of a column. -/
def Leaf.column? : Leaf → Option String
  | .column name => some name
  | _ => none

mutual

theorem Token.columns_eq_leaves :
    (token : Token) → token.columns = token.leaves.filterMap Leaf.column?
  | .raw _ | .column _ | .identifier _ | .string _ => rfl
  | .nested _ tokens => Token.allColumns_eq_leaves tokens

theorem Token.allColumns_eq_leaves :
    (tokens : List Token) →
      Token.allColumns tokens = (Token.allLeaves tokens).filterMap Leaf.column?
  | [] => rfl
  | token :: rest => by
    rw [Token.allColumns, Token.allLeaves_cons, List.filterMap_append,
      Token.columns_eq_leaves token, Token.allColumns_eq_leaves rest]

end

/-- The columns are those among the leaves. -/
theorem Expr.columns_eq_leaves (e : Expr) : e.columns = e.leaves.filterMap Leaf.column? :=
  Token.allColumns_eq_leaves e.tokens

/-! ## What the flags say -/

namespace Expr

/-- **The flags tell where the calls are.** An expression has a window function if one of its nodes
is one, and it has an aggregate if a node is one that is below no window function. Its columns are
those among its leaves, in the order in which the leaves are written and as often.

Where a template has a slot for each argument, an expression of no particular kind that is made of
them has the calls and columns of the arguments, and one that is computed over a window has no
aggregate whatever they are. -/
theorem flags_by_paths (e : Expr) (template : String) (args : List Expr) :
    (e.hasWindow = true ↔ ∃ above node, e.Path above node ∧ node.kind = .window) ∧
    (e.hasAggregate = true ↔ ∃ above node, e.Path above node ∧ node.kind = .aggregate ∧
      ∀ passed ∈ above, passed.kind ≠ .window) ∧
    (e.columns = e.leaves.filterMap Leaf.column? ∧
      ∀ target, e.render target = Leaf.renderAll target e.leaves) ∧
    ((Template.parse template.toList).tail.length = args.length →
      (∃ whole, construct .regular template args = .ok whole ∧
        whole.hasAggregate = args.any hasAggregate ∧ whole.hasWindow = args.any hasWindow ∧
        whole.columns = args.flatMap columns) ∧
      ∃ whole, construct .window template args = .ok whole ∧ whole.hasAggregate = false) := by
  refine ⟨e.hasWindow_iff_path, e.hasAggregate_iff_path,
    ⟨e.columns_eq_leaves, fun target => e.render_eq_leaves target⟩, fun hslots => ⟨?_, ?_⟩⟩
  · obtain ⟨whole, hwhole⟩ := exists_construct_iff.mpr hslots
    exact ⟨whole, hwhole, hasAggregate_of_construct hwhole, hasWindow_of_construct hwhole,
      columns_of_construct hwhole⟩
  · obtain ⟨whole, hwhole⟩ := exists_construct_iff.mpr hslots
    exact ⟨whole, hwhole, (kinds_of_window hwhole).1⟩

/-- An aggregate over a window, which does not count as one, beside the same aggregate on its own,
which does. Both are within a constant, and fill a template. -/
theorem flags_by_paths_beside :
    let total : Expr := ⟨.aggregate, [.raw "sum(", (column "a").token, .raw ")"]⟩
    let windowed : Expr := ⟨.window, [total.token, .raw " over ()"]⟩
    let both : Expr := ⟨.constant, [windowed.token, .raw " / ", total.token]⟩
    let ratio := "\x7b\x7d / \x7b\x7d"
    (¬ ∃ above node, windowed.Path above node ∧ node.kind = .aggregate ∧
      ∀ passed ∈ above, passed.kind ≠ .window) ∧
    (∃ above node, both.Path above node ∧ node.kind = .aggregate ∧
      ∀ passed ∈ above, passed.kind ≠ .window) ∧
    (Template.parse ratio.toList).tail.length = 2 ∧
    (∃ whole, construct .regular ratio [windowed, total] = .ok whole ∧
      whole.hasAggregate = true ∧ whole.hasWindow = true ∧ whole.columns = ["a", "a"]) ∧
    ∃ whole, construct .window ratio [windowed, total] = .ok whole ∧
      whole.hasAggregate = false := by
  intro total windowed both ratio
  obtain ⟨-, hwindowed, -⟩ := flags_by_paths windowed ratio [windowed, total]
  obtain ⟨-, hboth, -, hwhole⟩ := flags_by_paths both ratio [windowed, total]
  obtain ⟨hregular, hwindow⟩ := hwhole (by decide)
  exact ⟨hwindowed.not.mp (by decide), hboth.mp (by decide), by decide, hregular, hwindow⟩

end Expr

end QueryFrame
