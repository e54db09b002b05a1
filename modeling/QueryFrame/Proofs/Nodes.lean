import QueryFrame.Proofs.Kinds
import QueryFrame.Proofs.Parts

/-!
# The nodes of an expression

An expression is a tree. Its nodes are the expression itself and those within it, at whatever depth,
and each has a kind of its own. `Expr.Holds` asks for a node of a kind, and `Expr.Nests` for a node
of one kind with a node of another kind strictly below it.

What fills a template is directly below the root and nothing else is, so both questions can be
answered from the arguments of a construction (`Expr.holds_of_construct`,
`Expr.nests_of_construct`). An expression is rowwise exactly when all its nodes are: none of them is
an aggregate or a window function (`Expr.rowwise_iff`).
-/

namespace QueryFrame

/-- Whether a value of the kind is computed from several rows, of a group or of a window. -/
def ExprKind.isCall (kind : ExprKind) : Bool :=
  kind = .aggregate || kind = .window

mutual

/-- The expressions in a token, each in front of those within it. -/
def Token.nodes : Token → List Expr
  | .nested kind tokens => ⟨kind, tokens⟩ :: Token.allNodes tokens
  | _ => []

/-- The expressions in a row of tokens. -/
def Token.allNodes : List Token → List Expr
  | [] => []
  | token :: rest => token.nodes ++ Token.allNodes rest

end

namespace Expr

/-- The expression and those within it, at whatever depth, root first. -/
def nodes (e : Expr) : List Expr :=
  e.token.nodes

/-- The expressions within, at whatever depth. -/
def below (e : Expr) : List Expr :=
  Token.allNodes e.tokens

/-- **Below an expression** are its parts, and what is below them. -/
theorem below_eq (e : Expr) : e.below = e.parts.flatMap nodes := by
  rw [below, parts]
  induction e.tokens with
  | nil => rfl
  | cons token rest ih =>
    rw [Token.allNodes, ih]
    cases token with
    | nested kind tokens => rfl
    | _ => rfl

/-- Whether there is a node of the kind. -/
def Holds (kind : ExprKind) (e : Expr) : Prop :=
  ∃ node ∈ e.nodes, node.kind = kind

/-- Whether there is a node of one kind with a node of another kind strictly below it. -/
def Nests (outer inner : ExprKind) (e : Expr) : Prop :=
  ∃ node ∈ e.nodes, node.kind = outer ∧ ∃ part ∈ node.below, part.kind = inner

instance (kind : ExprKind) (e : Expr) : Decidable (e.Holds kind) :=
  inferInstanceAs (Decidable (∃ node ∈ e.nodes, node.kind = kind))

instance (outer inner : ExprKind) (e : Expr) : Decidable (e.Nests outer inner) :=
  inferInstanceAs
    (Decidable (∃ node ∈ e.nodes, node.kind = outer ∧ ∃ part ∈ node.below, part.kind = inner))

theorem Nests.holds {outer inner : ExprKind} {e : Expr} (h : e.Nests outer inner) :
    e.Holds outer := by
  obtain ⟨node, hnode, hkind, -⟩ := h
  exact ⟨node, hnode, hkind⟩

/-! ## Nodes of constructions -/

section Constructions

variable {kind outer inner : ExprKind} {template : String} {args : List Expr} {e : Expr}

theorem mem_below_of_construct (h : construct kind template args = .ok e) {node : Expr} :
    node ∈ e.below ↔ ∃ arg ∈ args, node ∈ arg.nodes := by
  rw [below_eq, parts_of_construct h, List.mem_flatMap]

/-- **The kinds in a construction** are its own and those in its arguments. -/
theorem holds_of_construct (h : construct kind template args = .ok e) :
    e.Holds inner ↔ kind = inner ∨ ∃ arg ∈ args, arg.Holds inner := by
  have hkind := kind_of_construct h
  constructor
  · rintro ⟨node, hnode, hinner⟩
    rcases List.mem_cons.mp hnode with rfl | hnode
    · exact .inl (hkind.symm.trans hinner)
    · obtain ⟨arg, harg, hnode⟩ := (mem_below_of_construct h).mp hnode
      exact .inr ⟨arg, harg, node, hnode, hinner⟩
  · rintro (hinner | ⟨arg, harg, node, hnode, hinner⟩)
    · exact ⟨e, List.mem_cons_self .., hkind.trans hinner⟩
    · exact ⟨node, List.mem_cons_of_mem _ ((mem_below_of_construct h).mpr ⟨arg, harg, hnode⟩),
        hinner⟩

/-- **A construction nests** what its arguments nest, and whatever they hold within itself. -/
theorem nests_of_construct (h : construct kind template args = .ok e) :
    e.Nests outer inner ↔
      (kind = outer ∧ ∃ arg ∈ args, arg.Holds inner) ∨ ∃ arg ∈ args, arg.Nests outer inner := by
  have hkind := kind_of_construct h
  constructor
  · rintro ⟨node, hnode, houter, part, hpart, hinner⟩
    rcases List.mem_cons.mp hnode with rfl | hnode
    · obtain ⟨arg, harg, hpart⟩ := (mem_below_of_construct h).mp hpart
      exact .inl ⟨hkind.symm.trans houter, arg, harg, part, hpart, hinner⟩
    · obtain ⟨arg, harg, hnode⟩ := (mem_below_of_construct h).mp hnode
      exact .inr ⟨arg, harg, node, hnode, houter, part, hpart, hinner⟩
  · rintro (⟨houter, arg, harg, part, hpart, hinner⟩ | ⟨arg, harg, node, hnode, hrest⟩)
    · exact ⟨e, List.mem_cons_self .., hkind.trans houter, part,
        (mem_below_of_construct h).mpr ⟨arg, harg, hpart⟩, hinner⟩
    · exact ⟨node, List.mem_cons_of_mem _ ((mem_below_of_construct h).mpr ⟨arg, harg, hnode⟩),
        hrest⟩

end Constructions

end Expr

/-! ## Nodes and what an expression computes -/

mutual

theorem Token.hasWindow_iff : (token : Token) →
    (token.hasWindow = true ↔ ∃ node ∈ token.nodes, node.kind = .window)
  | .raw _ | .column _ | .identifier _ | .string _ => by simp [Token.hasWindow, Token.nodes]
  | .nested kind tokens => by
    simp [Token.hasWindow, Token.nodes, Token.anyWindow_iff tokens]

theorem Token.anyWindow_iff : (tokens : List Token) →
    (Token.anyWindow tokens = true ↔ ∃ node ∈ Token.allNodes tokens, node.kind = .window)
  | [] => by simp [Token.anyWindow, Token.allNodes]
  | token :: rest => by
    simp [Token.anyWindow, Token.allNodes, Token.hasWindow_iff token, Token.anyWindow_iff rest,
      or_and_right, exists_or]

end

mutual

/-- An aggregate below a window function does not count as one, and that is the only exception. -/
theorem Token.hasAggregate_iff : (token : Token) → token.hasWindow = false →
    (token.hasAggregate = true ↔ ∃ node ∈ token.nodes, node.kind = .aggregate)
  | .raw _, _ | .column _, _ | .identifier _, _ | .string _, _ => by
    simp [Token.hasAggregate, Token.nodes]
  | .nested kind tokens, h => by
    simp only [Token.hasWindow, Bool.or_eq_false_iff, decide_eq_false_iff_not] at h
    cases kind with
    | aggregate => simp [Token.hasAggregate, Token.nodes]
    | window => exact absurd rfl h.1
    | regular | constant =>
      simp [Token.hasAggregate, Token.nodes, Token.anyAggregate_iff tokens h.2]

theorem Token.anyAggregate_iff : (tokens : List Token) → Token.anyWindow tokens = false →
    (Token.anyAggregate tokens = true ↔ ∃ node ∈ Token.allNodes tokens, node.kind = .aggregate)
  | [], _ => by simp [Token.anyAggregate, Token.allNodes]
  | token :: rest, h => by
    rw [Token.anyWindow, Bool.or_eq_false_iff] at h
    simp [Token.anyAggregate, Token.allNodes, Token.hasAggregate_iff token h.1,
      Token.anyAggregate_iff rest h.2, or_and_right, exists_or]

end

namespace Expr

/-- An expression holds a window function if one of its nodes is one. -/
theorem hasWindow_iff (e : Expr) : e.hasWindow = true ↔ e.Holds .window :=
  Token.hasWindow_iff e.token

/-- **An expression is rowwise** if none of its nodes is an aggregate or a window function. -/
theorem rowwise_iff (e : Expr) : e.Rowwise ↔ ∀ kind : ExprKind, kind.isCall = true →
    ¬ e.Holds kind := by
  constructor
  · rintro ⟨haggregate, hwindow⟩ kind hcall hholds
    cases kind with
    | regular | constant => cases hcall
    | aggregate =>
      have htrue : e.hasAggregate = true := (Token.hasAggregate_iff e.token hwindow).mpr hholds
      simp [htrue] at haggregate
    | window =>
      simp [e.hasWindow_iff.mpr hholds] at hwindow
  · intro h
    have hwindow : e.hasWindow = false := by
      rw [Bool.eq_false_iff, ne_eq, hasWindow_iff]
      exact h .window rfl
    refine ⟨Bool.eq_false_iff.mpr fun haggregate => ?_, hwindow⟩
    exact h .aggregate rfl ((Token.hasAggregate_iff e.token hwindow).mp haggregate)

/-- A rowwise expression nests nothing in a call. -/
theorem Rowwise.not_nests {e : Expr} (h : e.Rowwise) {outer inner : ExprKind}
    (houter : outer.isCall = true) : ¬ e.Nests outer inner :=
  fun hnests => e.rowwise_iff.mp h outer houter hnests.holds

/-- What is constructed of rowwise expressions is rowwise. -/
theorem rowwise_of_construct {template : String} {args : List Expr} {e : Expr}
    (h : construct .regular template args = .ok e) (hargs : ∀ arg ∈ args, arg.Rowwise) :
    e.Rowwise := by
  rw [rowwise_iff]
  intro kind hcall hholds
  rcases (holds_of_construct h).mp hholds with rfl | ⟨arg, harg, hholds⟩
  · cases hcall
  · exact arg.rowwise_iff.mp (hargs arg harg) kind hcall hholds

end Expr

end QueryFrame
