import QueryFrame.Proofs.Paths

/-!
# Constant expressions

An expression of no particular kind is constant if everything in it is, and one that is a constant
by its kind is taken at its word. What it consists of is not looked at again. So that a constant
reads no column is not up to that search alone. It rests on who may call an expression a constant:
of the constructors (`Expr.Made`), those that wrap a single text and no other. Expressions in which
that is so are honest (`Expr.Honest`), and whatever the constructors make is, however they are
nested (`Expr.Made.honest`).

* An honest expression that is constant consists of texts. It reads no column, has no calls, and is
  written alike for every alias of the table (`Expr.Honest.readsNothing`).
* One that is not constant has a node that keeps it from being so (`Expr.Obstructs`), with nothing
  but expressions of no particular kind on the way there (`Expr.isConstant_eq_false_iff_path`).
-/

namespace QueryFrame

theorem Token.allConstant_eq (tokens : List Token) :
    Token.allConstant tokens = tokens.all Token.isConstant := by
  induction tokens with
  | nil => rfl
  | cons token rest ih => rw [Token.allConstant, ih, List.all_cons]

theorem Token.allLeaves_eq_flatMap (tokens : List Token) :
    Token.allLeaves tokens = tokens.flatMap Token.leaves := by
  induction tokens with
  | nil => rfl
  | cons token rest ih => rw [Token.allLeaves_cons, ih, List.flatMap_cons]

/-- The leaf as a token. -/
def Leaf.token : Leaf → Token
  | .raw sql => .raw sql
  | .column name => .column name
  | .identifier name => .identifier name
  | .string value => .string value

namespace Expr

/-- **A leaf** is one of the tokens, or a leaf of a part. -/
theorem mem_leaves_iff {e : Expr} {leaf : Leaf} :
    leaf ∈ e.leaves ↔ leaf.token ∈ e.tokens ∨ ∃ part ∈ e.parts, leaf ∈ part.leaves := by
  rw [leaves, Token.allLeaves_eq_flatMap, List.mem_flatMap]
  constructor
  · rintro ⟨token, htoken, hleaf⟩
    cases token with
    | nested kind inner => exact .inr ⟨⟨kind, inner⟩, mem_parts_iff.mpr htoken, hleaf⟩
    | raw | column | identifier | string =>
      obtain rfl := List.mem_singleton.mp hleaf
      exact .inl htoken
  · rintro (htoken | ⟨part, hpart, hleaf⟩)
    · exact ⟨leaf.token, htoken, by cases leaf <;> exact List.mem_singleton_self _⟩
    · exact ⟨part.token, mem_parts_iff.mp hpart, hleaf⟩

/-! ## What is in the way of a constant -/

/-- What keeps an expression from being constant at one of its nodes. -/
inductive Obstructs : Expr → Prop
  /-- nothing is written, so there is no value -/
  | empty : Obstructs empty
  /-- a column has another value in each row -/
  | column {tokens : List Token} {name : String} (h : .column name ∈ tokens) :
      Obstructs (ofTokens tokens)
  /-- and so may have what another name stands for -/
  | identifier {tokens : List Token} {name : String} (h : .identifier name ∈ tokens) :
      Obstructs (ofTokens tokens)
  /-- it is computed from several rows -/
  | call {e : Expr} (h : e.kind.isCall = true) : Obstructs e

theorem isConstant_ofTokens (tokens : List Token) :
    (ofTokens tokens).isConstant = (!tokens.isEmpty && tokens.all Token.isConstant) := by
  rw [isConstant, ofTokens, token, Token.isConstant, Token.allConstant_eq]

/-- An expression of no particular kind is constant unless it is empty or one of its tokens is
not. -/
theorem isConstant_ofTokens_eq_false_iff {tokens : List Token} :
    (ofTokens tokens).isConstant = false ↔
      tokens = [] ∨ ∃ token ∈ tokens, token.isConstant = false := by
  simp only [isConstant_ofTokens, Bool.and_eq_false_iff, Bool.not_eq_false', List.isEmpty_iff,
    List.all_eq_false, Bool.not_eq_true]

theorem Obstructs.isConstant_eq_false {e : Expr} (h : e.Obstructs) : e.isConstant = false := by
  cases h with
  | empty => rfl
  | column h | identifier h =>
    exact isConstant_ofTokens_eq_false_iff.mpr (.inr ⟨_, h, rfl⟩)
  | call h =>
    obtain ⟨kind, tokens⟩ := e
    cases kind with
    | regular | constant => cases h
    | aggregate | window => rfl

/-- The search for what is in the way goes down expressions of no particular kind. -/
theorem isConstant_eq_false_iff_parts (e : Expr) :
    e.isConstant = false ↔
      e.Obstructs ∨ e.kind = .regular ∧ ∃ part ∈ e.parts, part.isConstant = false := by
  constructor
  · intro h
    obtain ⟨kind, tokens⟩ := e
    cases kind with
    | constant => cases h
    | aggregate | window => exact .inl (.call rfl)
    | regular =>
      rcases isConstant_ofTokens_eq_false_iff.mp h with rfl | ⟨token, htoken, hvaries⟩
      · exact .inl .empty
      · cases token with
        | raw | string => cases hvaries
        | column name => exact .inl (.column htoken)
        | identifier name => exact .inl (.identifier htoken)
        | nested kind inner =>
          exact .inr ⟨rfl, ⟨kind, inner⟩, mem_parts_iff.mpr htoken, hvaries⟩
  · rintro (h | ⟨hkind, part, hpart, hvaries⟩)
    · exact h.isConstant_eq_false
    · obtain ⟨kind, tokens⟩ := e
      obtain rfl : kind = .regular := hkind
      exact isConstant_ofTokens_eq_false_iff.mpr (.inr ⟨_, mem_parts_iff.mp hpart, hvaries⟩)

theorem not_obstructs_of_isConstant {e : Expr} (h : e.isConstant = true) : ¬ e.Obstructs := by
  intro hobstructs
  rw [hobstructs.isConstant_eq_false] at h
  cases h

/-- The parts of a constant that is none by its kind are constant. -/
theorem isConstant_of_mem_parts {e part : Expr} (h : e.isConstant = true)
    (hkind : e.kind = .regular) (hpart : part ∈ e.parts) : part.isConstant = true := by
  by_contra hvaries
  rw [Bool.not_eq_true] at hvaries
  rw [(isConstant_eq_false_iff_parts e).mpr (.inr ⟨hkind, part, hpart, hvaries⟩)] at h
  cases h

/-- So what is in the way is below such expressions only. -/
theorem isConstant_eq_false_iff_path (e : Expr) :
    e.isConstant = false ↔ ∃ above node, e.Path above node ∧ node.Obstructs ∧
      ∀ passed ∈ above, passed.kind = .regular :=
  iff_reaches isConstant_eq_false_iff_parts e

/-! ## Who may call an expression a constant -/

/-- The expressions that constructors make of what they have made. None of them takes a template
for a constant. -/
inductive Made : Expr → Prop
  | ofTokens {tokens : List Token} (h : ∀ part ∈ (ofTokens tokens).parts, Made part) :
      Made (ofTokens tokens)
  | empty : Made empty
  | raw (sql : String) : Made (raw sql)
  | constant (sql : String) : Made (constant sql)
  | string (value : String) : Made (string value)
  | identifier (name : String) : Made (identifier name)
  | column (name : String) : Made (column name)
  | construct {kind : ExprKind} {template : String} {args : List Expr} {e : Expr}
      (hkind : kind = .regular ∨ kind.isCall = true) (hargs : ∀ arg ∈ args, Made arg)
      (h : construct kind template args = .ok e) : Made e
  | aliased {e item : Expr} {name : String} (he : Made e) (h : e.aliased name = .ok item) :
      Made item
  | join {exprs : List Expr} {separator : String} {e : Expr} (hexprs : ∀ part ∈ exprs, Made part)
      (h : join exprs separator = .ok e) : Made e

/-- A single text that is called a constant. -/
inductive IsText : Expr → Prop
  /-- SQL as it stands, such as a number -/
  | constant (sql : String) : IsText (constant sql)
  /-- a string literal -/
  | string (value : String) : IsText (string value)

/-- Whether every node that is a constant by its kind is a single text. -/
def Honest (e : Expr) : Prop :=
  ∀ node ∈ e.nodes, node.kind = .constant → node.IsText

/-- **Honesty** is up to the root and to each part. -/
theorem honest_iff {e : Expr} :
    e.Honest ↔ (e.kind = .constant → e.IsText) ∧ ∀ part ∈ e.parts, part.Honest := by
  have hnodes : e.nodes = e :: e.below := rfl
  rw [Honest, hnodes, List.forall_mem_cons, below_eq]
  simp only [List.mem_flatMap, Honest]
  exact and_congr_right fun _ => ⟨fun h part hpart node hnode => h node ⟨part, hpart, hnode⟩,
    fun h node ⟨part, hpart, hnode⟩ => h part hpart node hnode⟩

/-- What is no constant by its kind is as honest as its parts. -/
theorem honest_of_parts {e : Expr} (hkind : e.kind ≠ .constant)
    (h : ∀ part ∈ e.parts, part.Honest) : e.Honest :=
  honest_iff.mpr ⟨fun hconstant => absurd hconstant hkind, h⟩

theorem honest_of_construct {kind : ExprKind} {template : String} {args : List Expr} {e : Expr}
    (h : Expr.construct kind template args = .ok e) (hkind : kind ≠ .constant)
    (hargs : ∀ arg ∈ args, arg.Honest) : e.Honest := by
  refine honest_of_parts ?_ ?_
  · rw [kind_of_construct h]
    exact hkind
  · rw [parts_of_construct h]
    exact hargs

theorem honest_identifier (name : String) : (identifier name).Honest :=
  honest_of_parts nofun (List.forall_mem_nil _)

/-- **Constructors make honest expressions.** -/
theorem Made.honest {e : Expr} (h : e.Made) : e.Honest := by
  induction h with
  | ofTokens _ ih => exact honest_of_parts nofun ih
  | empty | raw | column => exact honest_of_parts nofun (List.forall_mem_nil _)
  | identifier name => exact honest_identifier name
  | constant sql => exact honest_iff.mpr ⟨fun _ => .constant sql, List.forall_mem_nil _⟩
  | string value => exact honest_iff.mpr ⟨fun _ => .string value, List.forall_mem_nil _⟩
  | construct hkind _ h ih =>
    refine honest_of_construct h ?_ ih
    rintro rfl
    rcases hkind with hkind | hkind <;> cases hkind
  | @aliased e item name _ h ih =>
    have hargs : ∀ arg ∈ [e, Expr.identifier name], arg.Honest :=
      List.forall_mem_cons.mpr ⟨ih, List.forall_mem_singleton.mpr (honest_identifier name)⟩
    exact honest_of_construct h nofun hargs
  | join _ h ih => exact honest_of_construct h nofun ih

/-! ## What a constant is made of -/

/-- What a constant should be: a text that depends on nothing. -/
structure ReadsNothing (e : Expr) : Prop where
  /-- something is written -/
  tokens : e.tokens ≠ []
  /-- none of it is a name -/
  leaves : ∀ name, .column name ∉ e.leaves ∧ .identifier name ∉ e.leaves
  /-- none of it is computed from several rows -/
  nodes : ∀ node ∈ e.nodes, node.kind ≠ .aggregate ∧ node.kind ≠ .window

/-- A single text reads nothing. -/
theorem IsText.readsNothing {e : Expr} (h : e.IsText) : e.ReadsNothing := by
  cases h with
  | constant | string =>
    exact ⟨nofun, fun name => ⟨nofun, nofun⟩, List.forall_mem_singleton.mpr ⟨nofun, nofun⟩⟩

/-- Nor does what is put together of parts that read nothing, with nothing in the way. -/
theorem readsNothing_of_parts {e : Expr} (hkind : e.kind = .regular) (hclear : ¬ e.Obstructs)
    (hparts : ∀ part ∈ e.parts, part.ReadsNothing) : e.ReadsNothing := by
  obtain ⟨kind, tokens⟩ := e
  obtain rfl : kind = .regular := hkind
  refine ⟨?_, fun name => ⟨fun hleaf => ?_, fun hleaf => ?_⟩, fun node hnode => ?_⟩
  · rintro rfl
    exact hclear .empty
  · rcases mem_leaves_iff.mp hleaf with htoken | ⟨part, hpart, hleaf⟩
    · exact hclear (.column htoken)
    · exact ((hparts part hpart).leaves name).1 hleaf
  · rcases mem_leaves_iff.mp hleaf with htoken | ⟨part, hpart, hleaf⟩
    · exact hclear (.identifier htoken)
    · exact ((hparts part hpart).leaves name).2 hleaf
  · rcases List.mem_cons.mp hnode with rfl | hbelow
    · exact ⟨nofun, nofun⟩
    · change node ∈ (ofTokens tokens).below at hbelow
      rw [below_eq, List.mem_flatMap] at hbelow
      obtain ⟨part, hpart, hnode⟩ := hbelow
      exact (hparts part hpart).nodes node hnode

/-- **An honest constant reads nothing.** The induction is on the parts of an expression of no
particular kind, which are constant if it is. -/
theorem Honest.readsNothing {e : Expr} (h : e.Honest) (hconstant : e.isConstant = true) :
    e.ReadsNothing := by
  induction e using induction_parts with
  | step e ih =>
    obtain ⟨hown, hhonest⟩ := honest_iff.mp h
    cases hkind : e.kind with
    | constant => exact (hown hkind).readsNothing
    | regular =>
      have hclear := not_obstructs_of_isConstant hconstant
      exact readsNothing_of_parts hkind hclear fun part hpart =>
        ih part hpart (hhonest part hpart) (isConstant_of_mem_parts hconstant hkind hpart)
    | aggregate | window =>
      refine absurd (.call ?_) (not_obstructs_of_isConstant hconstant)
      rw [hkind]
      rfl

/-- Where no column is written, the alias of the table does not matter. -/
theorem toSql_eq_of_leaves {e : Expr} (h : ∀ name, .column name ∉ e.leaves) (d : Dialect)
    (table other : Option String) : e.toSql d table = e.toSql d other := by
  cases hd : d.family with
  | error fault => rw [toSql, toSql, hd, Outcome.error_bind, Outcome.error_bind]
  | ok family =>
    have hrender : e.render ⟨family, table⟩ = e.render ⟨family, other⟩ := by
      rw [render_eq_leaves, render_eq_leaves]
      refine List.foldr_ext _ _ _ fun leaf hleaf rest => ?_
      cases leaf with
      | column name => exact absurd hleaf (h name)
      | raw | identifier | string => rfl
    rw [e.toSql_eq hd, e.toSql_eq hd, text, text, hrender]

/-- **A constant reads no column.** If an expression that is made by constructors is constant, it
has a token, no column or other name among its leaves and no call among its nodes, and the same text
for every alias of the table. If it is not constant, the way down expressions of no particular kind
leads to something that obstructs it: an empty expression, a name or a call. -/
theorem constant_reads_nothing {e : Expr} (he : e.Made) :
    (e.isConstant = true →
      e.ReadsNothing ∧ ∀ d table other, e.toSql d table = e.toSql d other) ∧
    (e.isConstant = false ↔ ∃ above node, e.Path above node ∧ node.Obstructs ∧
      ∀ passed ∈ above, passed.kind = .regular) := by
  refine ⟨fun hconstant => ?_, e.isConstant_eq_false_iff_path⟩
  have hreads := he.honest.readsNothing hconstant
  exact ⟨hreads, toSql_eq_of_leaves fun name => (hreads.leaves name).1⟩

/-- Texts within a row within a larger expression, and the same with a column in the row. -/
theorem constant_reads_nothing_nested :
    let row (last : Expr) : Expr :=
      ofTokens [(string "x'").token, .raw ", ", last.token]
    let whole (last : Expr) : Expr :=
      ofTokens [.raw "(", (row last).token, .raw ") = ", (constant "1").token]
    ((whole (raw "2")).Made ∧ (whole (raw "2")).isConstant = true ∧
      (whole (raw "2")).toSql .bigQuery none = (whole (raw "2")).toSql .bigQuery (some "t")) ∧
    (whole (column "a")).Made ∧ ∃ above node, (whole (column "a")).Path above node ∧
      node.Obstructs ∧ ∀ passed ∈ above, passed.kind = .regular := by
  intro row whole
  have hmade : ∀ {last : Expr}, last.Made → join [string "x'", last] ", " = .ok (row last) →
      construct .regular "(\x7b\x7d) = \x7b\x7d" [row last, constant "1"] = .ok (whole last) →
      (whole last).Made := by
    intro last hlast hjoin hconstruct
    have hrow : (row last).Made :=
      .join (List.forall_mem_cons.mpr ⟨.string _, List.forall_mem_singleton.mpr hlast⟩) hjoin
    exact .construct (.inl rfl)
      (List.forall_mem_cons.mpr ⟨hrow, List.forall_mem_singleton.mpr (.constant _)⟩) hconstruct
  have hsteady := hmade (.raw "2") (by decide +kernel) (by decide +kernel)
  have hvarying := hmade (.column "a") (by decide +kernel) (by decide +kernel)
  refine ⟨⟨hsteady, rfl, ?_⟩, hvarying, ?_⟩
  · exact ((constant_reads_nothing hsteady).1 rfl).2 _ _ _
  · exact (constant_reads_nothing hvarying).2.mp rfl

/-- Nobody but the constructors keeps a constant from reading a column. -/
example : (⟨.constant, [.column "a"]⟩ : Expr).isConstant = true := rfl

end Expr

end QueryFrame
