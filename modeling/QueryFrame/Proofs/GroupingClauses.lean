import QueryFrame.Proofs.Elements
import QueryFrame.Proofs.Rendering
import QueryFrame.Sample

/-!
# What the clause of a partition says

The clause of a partition is put together from templates, one inside the other as far as groupings
are nested. Here is its text, made of the texts of the expressions that are grouped on
(`Partition.clauseText`): columns stand one after another, a grouping function is called on them,
and each member of a list has its own text in parentheses, or nothing in parentheses.

* Whatever the shape and depth, the clause has that text (`Partition.text_clause`).
* A list of groupings is a row with one element for each member, in parentheses
  (`Partition.listClause_eq_ok`). What is within the parentheses is the clause of the member as a
  whole, so parentheses in it are not seen from outside.
* Only windows and partitions with nothing to group by have no clause
  (`Partition.Formed.clause_eq_none_iff`).

`Partition.clause_says` has all of this.
-/

namespace QueryFrame

/-! ## The texts -/

/-- Columns one after another, each composite level by level, and nothing without columns. -/
def Columns.clauseText (target : Target) (columns : Columns) : Option String :=
  if columns.isEmpty then none
  else some (", ".intercalate ((groupExprs columns).map (Expr.text target)))

namespace Partition

/-- The call of a grouping function, if there is something to call it on. -/
def callText (function : String) (inner : Option String) : Option String :=
  inner.map fun text => function ++ " (" ++ text ++ ")"

/-- Texts one after another, each in parentheses, and nothing without texts. -/
def listText (members : List String) : Option String :=
  if members.isEmpty then none
  else some (", ".intercalate (members.map fun text => "(" ++ text ++ ")"))

mutual

/-- What the clause of a partition says, if there is one. -/
def clauseText (target : Target) : Partition → Option String
  | ⟨columns, .plain⟩ => Columns.clauseText target columns
  | ⟨columns, .cube⟩ => callText "cube" (Columns.clauseText target columns)
  | ⟨columns, .rollup⟩ => callText "rollup" (Columns.clauseText target columns)
  | ⟨_, .lists children⟩ => listText (memberTexts target children)
  | ⟨_, .sets children⟩ => callText "grouping sets" (listText (memberTexts target children))
  | ⟨_, .window _⟩ => none

/-- What the clauses of the members say, nothing for a member without one. -/
def memberTexts (target : Target) : List Partition → List String
  | [] => []
  | child :: rest => (clauseText target child).getD "" :: memberTexts target rest

end

end Partition

/-! ## Rows in parentheses -/

/-- Whether an expression is a row of others, each in its own parentheses, and nothing else. -/
def Expr.IsRow (e : Expr) (members : List Expr) : Prop :=
  e.tokens = .raw "(" :: (members.map Expr.token).intersperse (.raw "), (") ++ [.raw ")"]

/-- Whether an expression is the call of a grouping function on another. -/
def Expr.IsCall (e : Expr) (function : String) (inner : Expr) : Prop :=
  e.tokens = [.raw (function ++ " ("), inner.token, .raw ")"]

/-- Arguments that fill a row have its separator between them. -/
theorem Template.fillTail_row {separator after : String} (hseparator : separator ≠ "")
    (hafter : after ≠ "") (first : Expr) (rest : List Expr) :
    fillTail (first :: rest)
        ((List.replicate rest.length separator ++ [after]).map String.toList) =
      ((first :: rest).map Expr.token).intersperse (.raw separator) ++ [.raw after] := by
  induction rest generalizing first with
  | nil =>
    rw [List.length_nil, List.replicate_zero, List.nil_append, List.map_singleton, fillTail,
      rawTokens_toList hafter]
    rfl
  | cons next rest ih =>
    rw [List.length_cons, List.replicate_succ, List.cons_append, List.map_cons, fillTail, ih,
      rawTokens_toList hseparator]
    rfl

/-- **A row of slots** is filled with the arguments as they are. -/
theorem Expr.tokens_of_row {kind : ExprKind} {before separator after : String} {first e : Expr}
    {rest : List Expr} (hbefore : before ≠ "" ∧ '{' ∉ before.toList)
    (hseparator : separator ≠ "" ∧ '{' ∉ separator.toList)
    (hafter : after ≠ "" ∧ '{' ∉ after.toList)
    (h : construct kind (Template.spell before (List.replicate rest.length separator ++ [after]))
      (first :: rest) = .ok e) :
    e.tokens = .raw before :: ((first :: rest).map token).intersperse (.raw separator) ++
      [.raw after] := by
  obtain ⟨-, rfl⟩ := construct_eq_ok h
  rw [Template.parse_spell hbefore.2 (forall_mem_row hseparator.2 hafter.2 _), Template.fill,
    Template.rawTokens_toList hbefore.1, Template.fillTail_row hseparator.1 hafter.1]
  rfl

/-- Parentheses belong to the members as well as to the row. -/
theorem Partition.parenthesized_eq_intercalate (first : String) (rest : List String) :
    "(" ++ "), (".intercalate (first :: rest) ++ ")" =
      ", ".intercalate ((first :: rest).map fun text => "(" ++ text ++ ")") := by
  have hbetween : "), (" = ")" ++ ", " ++ "(" := rfl
  induction rest generalizing first with
  | nil => rw [String.intercalate_singleton, List.map_singleton, String.intercalate_singleton]
  | cons next rest ih =>
    have hnext := ih next
    rw [List.map_cons] at hnext
    rw [String.intercalate_cons_cons, List.map_cons, List.map_cons, String.intercalate_cons_cons,
      ← hnext]
    simp only [hbetween, String.append_assoc]

/-! ## The parts of a clause -/

/-- The clause of columns says what is laid down. -/
theorem Columns.text_clause {columns : Columns} {clause : Option Expr}
    (h : columns.clause = .ok clause) (target : Target) :
    clause.map (Expr.text target) = clauseText target columns := by
  rw [Columns.clause] at h
  rw [clauseText]
  split at h
  · next hempty =>
    obtain rfl := Except.ok.inj h
    rw [if_pos hempty, Option.map_none]
  · next hcolumns =>
    obtain ⟨row, hrow, rfl⟩ := Outcome.map_eq_ok h
    rw [if_neg hcolumns, Option.map_some, Expr.text_of_join hrow]

namespace Partition

/-- Inversion for calling a grouping function: there is a call if there is a clause. -/
theorem wrapClause_eq_ok {function : String} (hfunction : Word (function ++ " ("))
    (hne : function ++ " (" ≠ "") {inner clause : Option Expr}
    (h : wrapClause function inner = .ok clause) :
    (inner = none ∧ clause = none) ∨
      ∃ e call, inner = some e ∧ clause = some call ∧ call.IsCall function e ∧
        ∀ target, call.text target = function ++ " (" ++ e.text target ++ ")" := by
  cases inner with
  | none => exact .inl ⟨rfl, (Except.ok.inj h).symm⟩
  | some e =>
    obtain ⟨call, hcall, rfl⟩ := Outcome.map_eq_ok h
    have hopening : '{' ∉ (function ++ " (").toList := Expr.Safe.not_brace (.inr hfunction)
    have hclosing : ∀ text ∈ [")"], '{' ∉ text.toList :=
      List.forall_mem_singleton.mpr (Expr.Safe.not_brace (.inr .closing))
    refine .inr ⟨e, call, rfl, rfl, ?_, fun target => ?_⟩
    · -- a row of one, so it does not matter what would stand between
      exact @Expr.tokens_of_row .regular _ ", " ")" e call [] ⟨hne, hopening⟩ (by decide)
        (by decide) hcall
    · exact @Expr.text_of_construct .regular [e] call (function ++ " (") [")"] hopening hclosing
        hcall target

/-- A call of a grouping function says what is laid down. -/
theorem text_wrapClause {function : String} (hfunction : Word (function ++ " ("))
    (hne : function ++ " (" ≠ "") {inner clause : Option Expr}
    (h : wrapClause function inner = .ok clause) (target : Target) :
    clause.map (Expr.text target) = callText function (inner.map (Expr.text target)) := by
  obtain ⟨rfl, rfl⟩ | ⟨e, call, rfl, rfl, -, htext⟩ := wrapClause_eq_ok hfunction hne h
  · rfl
  · rw [Option.map_some, htext]
    rfl

/-- **A list of clauses is a row** of them, each in its own parentheses, if there are any. -/
theorem listClause_eq_ok {members : List Expr} {clause : Option Expr}
    (h : listClause members = .ok clause) :
    (members = [] ∧ clause = none) ∨
      ∃ row, clause = some row ∧ row.IsRow members ∧ ∀ target,
        some (row.text target) = listText (members.map (Expr.text target)) := by
  cases members with
  | nil => exact .inl ⟨rfl, (Except.ok.inj h).symm⟩
  | cons first rest =>
    obtain ⟨row, hrow, rfl⟩ := Outcome.map_eq_ok h
    rw [List.length_cons, listTemplate_eq_spell] at hrow
    have htails : ∀ text ∈ List.replicate rest.length "), (" ++ [")"], '{' ∉ text.toList :=
      Expr.forall_mem_row (by decide) (by decide) _
    refine .inr ⟨row, rfl, ?_, fun target => ?_⟩
    · exact Expr.tokens_of_row (by decide) (by decide) (by decide) hrow
    · have hfilled := Template.filled_row "(" "), (" ")" (first.text target)
        (rest.map (Expr.text target))
      rw [List.length_map] at hfilled
      rw [Expr.text_of_construct (by decide) htails hrow, List.map_cons, hfilled,
        parenthesized_eq_intercalate]
      rfl

/-- A list of clauses says what is laid down. -/
theorem text_listClause {members : List Expr} {clause : Option Expr}
    (h : listClause members = .ok clause) (target : Target) :
    clause.map (Expr.text target) = listText (members.map (Expr.text target)) := by
  obtain ⟨rfl, rfl⟩ | ⟨row, rfl, -, htext⟩ := listClause_eq_ok h
  · rfl
  · exact htext target

/-! ## The clause of a partition -/

mutual

/-- **The clause of a partition says what is laid down**, if there is one. -/
theorem text_clause (target : Target) : (p : Partition) → {clause : Option Expr} →
    p.clause = .ok clause → clause.map (Expr.text target) = p.clauseText target
  | ⟨columns, .plain⟩, _, h => Columns.text_clause h target
  | ⟨columns, .cube⟩, _, h => by
    obtain ⟨inner, hinner, hcall⟩ := Outcome.bind_eq_ok h
    rw [text_wrapClause (.fixed (by decide)) (by decide) hcall, Columns.text_clause hinner,
      clauseText]
  | ⟨columns, .rollup⟩, _, h => by
    obtain ⟨inner, hinner, hcall⟩ := Outcome.bind_eq_ok h
    rw [text_wrapClause (.fixed (by decide)) (by decide) hcall, Columns.text_clause hinner,
      clauseText]
  | ⟨_, .lists children⟩, _, h => by
    obtain ⟨members, hmembers, hlist⟩ := Outcome.bind_eq_ok h
    rw [text_listClause hlist, texts_clauses target children hmembers, clauseText]
  | ⟨_, .sets children⟩, _, h => by
    obtain ⟨members, hmembers, h⟩ := Outcome.bind_eq_ok h
    obtain ⟨list, hlist, hcall⟩ := Outcome.bind_eq_ok h
    rw [text_wrapClause (.fixed (by decide)) (by decide) hcall, text_listClause hlist,
      texts_clauses target children hmembers, clauseText]
  | ⟨_, .window _⟩, _, h => by
    obtain rfl := Except.ok.inj h
    rfl

/-- And so do the clauses of the members, of which those that are missing are empty. -/
theorem texts_clauses (target : Target) : (children : List Partition) → {members : List Expr} →
    clauses children = .ok members → members.map (Expr.text target) = memberTexts target children
  | [], _, h => by
    obtain rfl := Except.ok.inj h
    rfl
  | child :: rest, _, h => by
    obtain ⟨first, hfirst, h⟩ := Outcome.bind_eq_ok h
    obtain ⟨others, hothers, h⟩ := Outcome.bind_eq_ok h
    obtain rfl := Except.ok.inj h
    have htext : (first.getD .empty).text target = (child.clauseText target).getD "" := by
      rw [← text_clause target child hfirst]
      cases first <;> rfl
    rw [List.map_cons, htext, texts_clauses target rest hothers, memberTexts]

end

/-- A member of a list as it stands in the clause: what groups by it, or nothing at all. -/
def IsMember (child : Partition) (member : Expr) : Prop :=
  ∃ clause, child.clause = .ok clause ∧ member = clause.getD .empty

/-- There is a clause for each member, in order. -/
theorem forall₂_clauses {children : List Partition} {members : List Expr}
    (h : clauses children = .ok members) : List.Forall₂ IsMember children members := by
  induction children generalizing members with
  | nil =>
    obtain rfl := Except.ok.inj h
    exact .nil
  | cons child rest ih =>
    obtain ⟨first, hfirst, h⟩ := Outcome.bind_eq_ok h
    obtain ⟨others, hothers, h⟩ := Outcome.bind_eq_ok h
    obtain rfl := Except.ok.inj h
    exact .cons ⟨first, hfirst, rfl⟩ (ih hothers)

/-- **Members are listed** as a row with one element for each. -/
theorem exists_isRow {children : List Partition} {members : List Expr} {clause : Option Expr}
    (hne : children ≠ []) (hmembers : clauses children = .ok members)
    (hlist : listClause members = .ok clause) :
    ∃ row, clause = some row ∧ row.IsRow members ∧ List.Forall₂ IsMember children members := by
  have hown := forall₂_clauses hmembers
  obtain ⟨rfl, -⟩ | ⟨row, rfl, hrow, -⟩ := listClause_eq_ok hlist
  · cases hown
    exact absurd rfl hne
  · exact ⟨row, rfl, hrow, hown⟩

/-- **Which partitions have no clause**: windows, and those with nothing to group by. A cube or a
rollup always has a column. -/
theorem Formed.clause_eq_none_iff {p : Partition} (h : p.Formed) {clause : Option Expr}
    (hclause : p.clause = .ok clause) :
    clause = none ↔ p.isWindow = true ∨ (p.shape = .plain ∧ p.columns = []) ∨
      p.shape = .lists [] ∨ p.shape = .sets [] := by
  -- the text is there exactly if the clause is
  rw [← Option.map_eq_none_iff, text_clause ⟨.rowStore, none⟩ p hclause]
  cases h with
  | @plain columns _ =>
    cases columns <;>
      simp [clauseText, Columns.clauseText, isWindow, Shape.isWindow]
  | cube _ hne | rollup _ hne =>
    simp [clauseText, callText, Columns.clauseText, isWindow, Shape.isWindow, hne]
  | @lists children _ _ _ | @sets children _ _ _ =>
    cases children <;>
      simp [clauseText, callText, listText, memberTexts, isWindow, Shape.isWindow]
  | window _ => simp [clauseText, isWindow, Shape.isWindow]

/-- What the clause of a partition is. -/
structure Reads (p : Partition) (clause : Option Expr) : Prop where
  /-- it is missing exactly if rows stay apart, or if there is nothing to group by -/
  missing : clause = none ↔ p.isWindow = true ∨ (p.shape = .plain ∧ p.columns = []) ∨
    p.shape = .lists [] ∨ p.shape = .sets []
  /-- it has the text that is laid down, in any known dialect and for any alias -/
  text : ∀ d family, d.family = .ok family → ∀ table,
    clause.map (fun e => e.toSql d table) = (p.clauseText ⟨family, table⟩).map Except.ok
  /-- a list is a row with one element in parentheses for each member -/
  lists : ∀ children, p.shape = .lists children → children ≠ [] →
    ∃ row members, clause = some row ∧ row.IsRow members ∧
      List.Forall₂ IsMember children members
  /-- and a set is a call on such a row -/
  sets : ∀ children, p.shape = .sets children → children ≠ [] →
    ∃ call row members, clause = some call ∧ call.IsCall "grouping sets" row ∧
      row.IsRow members ∧ List.Forall₂ IsMember children members

/-- **What the clause of a partition is**, to whatever depth it is nested. There is no partition
for which making the clause fails. -/
theorem clause_says {p : Partition} (h : p.Formed) :
    ∃ clause, p.clause = .ok clause ∧ p.Reads clause := by
  obtain ⟨clause, hclause, -⟩ := p.exists_clause
  refine ⟨clause, hclause, h.clause_eq_none_iff hclause, fun d family hd table => ?_,
    fun children hshape hne => ?_, fun children hshape hne => ?_⟩
  · rw [← text_clause _ p hclause, Option.map_map]
    refine Option.map_congr fun e _ => ?_
    exact e.toSql_eq hd table
  · obtain ⟨columns, shape⟩ := p
    obtain rfl : shape = .lists children := hshape
    obtain ⟨members, hmembers, hlist⟩ := Outcome.bind_eq_ok hclause
    obtain ⟨row, hsome, hrow⟩ := exists_isRow hne hmembers hlist
    exact ⟨row, members, hsome, hrow⟩
  · obtain ⟨columns, shape⟩ := p
    obtain rfl : shape = .sets children := hshape
    obtain ⟨members, hmembers, hclause⟩ := Outcome.bind_eq_ok hclause
    obtain ⟨list, hlist, hcall⟩ := Outcome.bind_eq_ok hclause
    obtain ⟨row, rfl, hrow⟩ := exists_isRow hne hmembers hlist
    obtain ⟨hnone, -⟩ | ⟨_, call, hinner, rfl, hwraps, -⟩ :=
      wrapClause_eq_ok (.fixed (by decide)) (by decide) hcall
    · cases hnone
    · obtain rfl := Option.some.inj hinner
      exact ⟨call, row, members, rfl, hwraps, hrow⟩

/-- Grouping sets of all rows, of nothing, of a list with a cube of an interval and all rows again,
and of a rollup. The list has a pair of parentheses of its own and one for each of its members. -/
theorem clause_says_nested :
    let a := Sample.series Sample.relation "a"
    let b := Sample.series Sample.relation "b"
    let range : Series := { a with
      name := "range"
      dtype := .numericInterval
      expr := ⟨.regular, [.raw "(", a.expr.token, .raw ", ", b.expr.token, .raw ")"]⟩
      levels := [("a", a), ("b", b)] }
    let nothing : Partition := ⟨[], .lists []⟩
    let cube : Partition := ⟨[("range", range)], .cube⟩
    let list : Partition := ⟨[("range", range)], .lists [cube, .all]⟩
    let rollup : Partition := ⟨[("b", b), ("a", a)], .rollup⟩
    let p : Partition :=
      ⟨[("range", range), ("b", b), ("a", a)], .sets [.all, nothing, list, rollup]⟩
    p.Built (fun _ => True) ∧ nothing.clause = .ok none ∧
      ∃ call row members, p.clause = .ok (some call) ∧ call.IsCall "grouping sets" row ∧
        row.IsRow members ∧ members.length = 4 ∧
        call.toSql .postgres none =
          .ok "grouping sets ((), (), ((cube (\"a\", \"b\")), ()), (rollup (\"b\", \"a\")))" ∧
        call.toSql .bigQuery (some "t") =
          .ok "grouping sets ((), (), ((cube (`t`.`a`, `t`.`b`)), ()), (rollup (`t`.`b`, `t`.`a`)))"
    := by
  intro a b range nothing cube list rollup p
  have hnothing : nothing.Built fun _ => True :=
    .groupingList (List.forall_mem_nil _) (show groupingList [] = .ok nothing from rfl)
  have hcube : cube.Built fun _ => True :=
    .cube (fun _ _ => trivial) (show Partition.cube [range] = .ok cube by decide +kernel)
  have hlist : list.Built fun _ => True :=
    .groupingList (List.forall_mem_cons.mpr ⟨hcube, List.forall_mem_singleton.mpr .all⟩)
      (by decide +kernel)
  have hrollup : rollup.Built fun _ => True :=
    .rollup (fun _ _ => trivial) (show Partition.rollup [b, a] = .ok rollup by decide +kernel)
  have hp : p.Built fun _ => True :=
    .groupingSet (List.forall_mem_cons.mpr ⟨.all, List.forall_mem_cons.mpr ⟨hnothing,
      List.forall_mem_cons.mpr ⟨hlist, List.forall_mem_singleton.mpr hrollup⟩⟩⟩) (by decide +kernel)
  refine ⟨hp, ?_, ?_⟩
  · obtain ⟨clause, hclause, hreads⟩ := clause_says hnothing.formed
    rw [hclause, hreads.missing.mpr (.inr (.inr (.inl rfl)))]
  · obtain ⟨clause, hclause, hreads⟩ := clause_says hp.formed
    obtain ⟨call, row, members, rfl, hcall, hrow, hmembers⟩ :=
      hreads.sets _ rfl (List.cons_ne_nil _ _)
    refine ⟨call, row, members, hclause, hcall, hrow, hmembers.length_eq.symm, ?_, ?_⟩
    · exact Option.some.inj ((hreads.text .postgres .rowStore rfl none).trans (by decide +kernel))
    · exact Option.some.inj
        ((hreads.text .bigQuery .columnarAnalytics rfl (some "t")).trans (by decide +kernel))

end Partition

end QueryFrame
