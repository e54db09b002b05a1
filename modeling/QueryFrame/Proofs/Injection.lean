import QueryFrame.Proofs.Obtained
import QueryFrame.Proofs.Safe

/-!
# No text of a caller becomes SQL

A caller that brings along names and strings, and nothing else, obtains safe expressions only: the
plain text in them is the library's, whatever the names and strings are. Since safe expressions can
be read back, their SQL is cut into exactly the leaves they were made of
(`Obtained.scan_toSql_of_texts`).

The invariant is that every expression inside of every artifact is safe, and that every series and
level has a name of the caller. It is kept by all operations at once, by `Obtained.throughout`. What
has to be shown here is that what artifacts make on request is safe too: select items, grouping
clauses at any depth, orders and `over` clauses.
-/

namespace QueryFrame

/-- The names in a series come from the caller. -/
structure Series.Named (U : String → Prop) (s : Series) : Prop where
  /-- its own name -/
  name : U s.name
  /-- the names of its levels -/
  levels : ∀ entry ∈ s.levels, U entry.1

/-- A caller that brings along names and strings, and nothing else. -/
def Supply.texts (U : String → Prop) : Supply :=
  ⟨U, fun _ => False, fun _ _ => False⟩

/-- Every expression in the artifact is safe, and all names come from the caller. -/
abbrev Artifact.Safe (U : String → Prop) (a : Artifact) : Prop :=
  Throughout (Series.Named U) (Expr.Safe U) a

namespace Artifact.Safe

variable {U : String → Prop}

/-! ## What a series makes -/

theorem selectItem {s : Series} (hs : Safe U (.series s)) {e : Expr} (h : s.selectItem = .ok e) :
    e.Safe U := by
  rw [Series.selectItem] at h
  split at h
  · -- the column of that name needs no alias
    obtain rfl := Except.ok.inj h
    exact hs.own_expr
  · exact .aliased hs.own_expr (.inl hs.own.name) h

/-- A level is named after its series and itself. -/
theorem levelItem {s : Series} (hs : Safe U (.series s)) {items : List Expr}
    (h : s.levelItems = .ok items) : ∀ e ∈ items, e.Safe U := by
  intro e he
  obtain ⟨level, hlevel, hitem⟩ := Outcome.mem_of_mapM_eq_ok h he
  refine .aliased (hs.part (.level hlevel)).own_expr (.inr ?_) hitem
  exact ⟨s.name, level.1, hs.own.name, hs.own.levels level hlevel, rfl⟩

theorem levelExpr {s : Series} (hs : Safe U (.series s)) : ∀ e ∈ s.levelExprs, e.Safe U := by
  intro e he
  obtain ⟨level, hlevel, rfl⟩ := List.mem_map.mp he
  exact (hs.part (.level hlevel)).own_expr

/-- The items for a series are safe, level by level or as a whole. -/
theorem ownItem {s : Series} (hs : Safe U (.series s)) {whole : Bool} {items : List Expr}
    (h : s.ownItems whole = .ok items) : ∀ e ∈ items, e.Safe U := by
  rw [Series.ownItems] at h
  split at h
  · exact hs.levelItem h
  · obtain ⟨item, hitem, rfl⟩ := Outcome.map_eq_ok h
    exact List.forall_mem_singleton.mpr (hs.selectItem hitem)

/-- The items of a select list. The induction is on the series in the list. -/
theorem selectItems {whole : Bool} {list : List Series} (hlist : ∀ s ∈ list, Safe U (.series s))
    {items : List Expr} (h : Series.selectItems whole list = .ok items) :
    ∀ e ∈ items, e.Safe U := by
  induction list generalizing items with
  | nil =>
    obtain rfl := Except.ok.inj h
    exact List.forall_mem_nil _
  | cons s rest ih =>
    obtain ⟨hs, hrest⟩ := List.forall_mem_cons.mp hlist
    rw [Series.selectItems_cons] at h
    obtain ⟨own, hown, h⟩ := Outcome.bind_eq_ok h
    obtain ⟨others, hothers, h⟩ := Outcome.bind_eq_ok h
    obtain rfl := Outcome.pure_eq_ok h
    exact List.forall_mem_append.mpr ⟨hs.ownItem hown, ih hrest hothers⟩

/-! ## What a partition makes -/

theorem groupExprs {p : Partition} (hp : Safe U (.partition p)) : ∀ e ∈ p.groupExprs, e.Safe U := by
  intro e he
  obtain ⟨s, hs, he⟩ := List.mem_flatMap.mp he
  obtain ⟨key, hentry⟩ := Keyed.mem_values.mp hs
  have hs : Safe U (.series s) := hp.part (.column hentry)
  rw [Series.groupExprs] at he
  split at he
  · exact hs.levelExpr e he
  · rw [List.mem_singleton.mp he]
    exact hs.own_expr

theorem columnsClause {p : Partition} (hp : Safe U (.partition p)) {inner : Option Expr}
    (h : Columns.clause p.columns = .ok inner) : ∀ e, inner = some e → e.Safe U := by
  intro e he
  rw [Columns.clause] at h
  split at h
  · rw [← Except.ok.inj h] at he
    cases he
  · obtain ⟨joined, hjoin, hinner⟩ := Outcome.map_eq_ok h
    rw [← hinner] at he
    obtain rfl := Option.some.inj he
    exact .join .comma (by decide) hp.groupExprs hjoin

/-- A clause inside the call of a grouping function. -/
theorem wrapClause {function : String} (hword : Word (function ++ " (")) {inner : Option Expr}
    (hinner : ∀ e, inner = some e → e.Safe U) {e : Expr}
    (h : Partition.wrapClause function inner = .ok (some e)) : e.Safe U := by
  cases inner with
  | none => cases h
  | some inner =>
    obtain ⟨call, hcall, heq⟩ := Outcome.map_eq_ok h
    obtain rfl := Option.some.inj heq
    exact .around hword .closing (hinner inner rfl) hcall

/-- Clauses side by side, each in parentheses. -/
theorem listClause {clauses : List Expr} (hclauses : ∀ e ∈ clauses, e.Safe U)
    {inner : Option Expr} (h : Partition.listClause clauses = .ok inner) :
    ∀ e, inner = some e → e.Safe U := by
  intro e he
  rw [Partition.listClause] at h
  split at h
  · rw [← Except.ok.inj h] at he
    cases he
  · next hne =>
    obtain ⟨list, hlist, hinner⟩ := Outcome.map_eq_ok h
    rw [← hinner] at he
    obtain rfl := Option.some.inj he
    cases clauses with
    | nil => exact absurd rfl hne
    | cons first rest =>
      rw [List.length_cons, Partition.listTemplate_eq_spell] at hlist
      have htails : ∀ text ∈ List.replicate rest.length "), (" ++ [")"], text = "" ∨ Word text :=
        Expr.forall_mem_row (.inr (.fixed (by decide))) (.inr .closing) _
      exact .construct (.inr .opening) htails (Expr.forall_mem_gaps (by decide) _) hclauses hlist

/-- **The clause of a partition is safe**, with the clauses of its members at any depth. The
induction is on the partition, down its members. -/
theorem clause {p : Partition} (hp : Safe U (.partition p)) {e : Expr}
    (h : p.clause = .ok (some e)) : e.Safe U := by
  have hwhole := hp
  generalize ha : Artifact.partition p = a at hp
  induction hp generalizing p e with
  | partition valid columns children spec _ ihchildren =>
    obtain rfl := Artifact.partition.inj ha
    have hmembers : ∀ {clauses : List Expr}, Partition.clauses p.children = .ok clauses →
        ∀ e ∈ clauses, e.Safe U := by
      intro clauses hclauses e he
      rcases Partition.mem_of_clauses hclauses he with rfl | ⟨child, hchild, hclause⟩
      · exact .empty
      · exact ihchildren child hchild hclause (children child hchild) rfl
    -- a clause is made of the columns or of the members, never of both
    obtain ⟨own, shape⟩ := p
    cases shape with
    | plain =>
      rw [Partition.clause] at h
      exact hwhole.columnsClause h e rfl
    | cube =>
      rw [Partition.clause] at h
      obtain ⟨inner, hinner, h⟩ := Outcome.bind_eq_ok h
      exact wrapClause (.fixed (by decide)) (hwhole.columnsClause hinner) h
    | rollup =>
      rw [Partition.clause] at h
      obtain ⟨inner, hinner, h⟩ := Outcome.bind_eq_ok h
      exact wrapClause (.fixed (by decide)) (hwhole.columnsClause hinner) h
    | lists members =>
      rw [Partition.clause] at h
      obtain ⟨clauses, hclauses, h⟩ := Outcome.bind_eq_ok h
      exact listClause (hmembers hclauses) h e rfl
    | sets members =>
      rw [Partition.clause] at h
      obtain ⟨clauses, hclauses, h⟩ := Outcome.bind_eq_ok h
      obtain ⟨inner, hinner, h⟩ := Outcome.bind_eq_ok h
      exact wrapClause (.fixed (by decide)) (listClause (hmembers hclauses) hinner) h
    | window own =>
      rw [Partition.clause] at h
      cases h
  | _ => cases ha

theorem overClause {w : Window} (hw : Safe U (.partition w.partition)) {e : Expr}
    (h : w.over = .ok e) : e.Safe U := by
  have hclause : w.spec.clause = "" ∨ Word w.spec.clause := by
    rcases hw.window_spec.clause with hempty | ⟨frame, mode, hcheck⟩
    · exact .inl hempty
    · exact .inr (.frame hcheck)
  exact .overClause hw.groupExprs hw.window_spec.order hclause h

/-! ## What a dataframe makes -/

theorem frameItem {df : DataFrame} (hdf : Safe U (.dataFrame df)) {items : List Expr}
    (h : df.selectItems = .ok items) : ∀ e ∈ items, e.Safe U := by
  refine selectItems (fun s hs => ?_) h
  rcases List.mem_append.mp hs with hs | hs
  · obtain ⟨key, hentry⟩ := Keyed.mem_values.mp hs
    exact hdf.part (.frameIndex hentry)
  · obtain ⟨key, hentry⟩ := Keyed.mem_values.mp hs
    exact hdf.part (.frameData hentry)

theorem groupClause {df : DataFrame} (hdf : Safe U (.dataFrame df)) {e : Expr}
    (h : df.groupClause = .ok (some e)) : e.Safe U := by
  rw [DataFrame.groupClause] at h
  split at h
  · next p hp => exact clause (hdf.part (.framePartition hp)) h
  · cases h

theorem orderClause {df : DataFrame} (hdf : Safe U (.dataFrame df)) {e : Expr}
    (h : df.orderClause = .ok (some e)) : e.Safe U := by
  rw [DataFrame.orderClause] at h
  split at h
  · cases h
  · next hne =>
    obtain ⟨order, horder, heq⟩ := Outcome.map_eq_ok h
    obtain rfl := Option.some.inj heq
    refine @Expr.Safe.order U df.order "" order (.inl rfl) (fun key hkey => ?_) (fun hnil => ?_) ?_
    · exact (hdf.part (.frameOrder hkey)).expr_of
    · exact hne (List.isEmpty_iff.mpr hnil)
    · rw [String.empty_append]
      exact horder

/-- **Whatever an artifact makes on request is safe.** -/
theorem given {a : Artifact} (ha : Safe U a) {e : Expr} (h : a.Gives e) : e.Safe U := by
  cases h with
  | selectItem h => exact ha.selectItem h
  | levelItem h he => exact ha.levelItem h e he
  | levelExpr he => exact ha.levelExpr e he
  | groupExpr he => exact ha.groupExprs e he
  | clause h => exact ha.clause h
  | partitionItem h he =>
    refine selectItems (fun s hs => ?_) h e he
    obtain ⟨key, hentry⟩ := Keyed.mem_values.mp hs
    exact ha.part (.column hentry)
  | overClause h => exact ha.overClause h
  | frameItem h he => exact ha.frameItem h e he
  | groupClause h => exact ha.groupClause h
  | orderClause h => exact ha.orderClause h

end Artifact.Safe

/-! ## Whatever can be obtained -/

/-- Names of the caller stay names of the caller, and safe expressions stay safe. -/
theorem Kept.safe (U : String → Prop) : Kept (.texts U) (Series.Named U) (Expr.Safe U) where
  sql h := h.elim
  column h := .column h
  literal htext h := .literal (fun text heq => htext text (by
    rw [heq]
    exact List.mem_singleton_self text)) h
  count n := .countArg n
  aggregate he h := .aggregate he h
  call hargs h := .call hargs h
  apply hw hcall h := .apply (fun hover => Artifact.Safe.overClause hw hover) hcall h
  compared hl hr h := .compared hl hr h
  given ha h := Artifact.Safe.given ha h
  face {s t} hface hs := by
    have hname : s.name = t.name := congrArg Prod.fst hface
    have hlevels : s.levels.map Prod.fst = t.levels.map Prod.fst := by
      have hmap := congrArg (fun face => face.2.2.map Prod.fst) hface
      simp only [Series.face, List.map_map] at hmap
      exact hmap
    refine ⟨hname ▸ hs.name, fun entry hentry => ?_⟩
    have hkey : entry.1 ∈ s.levels.map Prod.fst := by
      rw [hlevels]
      exact List.mem_map.mpr ⟨entry, hentry, rfl⟩
    obtain ⟨own, hown, heq⟩ := List.mem_map.mp hkey
    rw [← heq]
    exact hs.levels own hown
  single hname _ := ⟨hname, List.forall_mem_nil _⟩
  composite hname hlevels h := by
    obtain ⟨expr, hexpr, rfl⟩ := Series.composite_eq_ok h
    refine ⟨⟨hname, fun entry hentry => ?_⟩, ?_⟩
    · obtain ⟨level, hlevel, rfl⟩ := List.mem_map.mp (Keyed.mem_of_mem_ofList hentry)
      exact (hlevels level hlevel).1.name
    · rw [← List.length_map (f := Series.expr)] at hexpr
      have hempty : Word ("(" ++ ")") := .fixed (by decide)
      refine .row (.inr .opening) .comma (by decide) (.inr .closing) (fun _ => .inr hempty)
        (fun e he => ?_) hexpr
      obtain ⟨level, hlevel, rfl⟩ := List.mem_map.mp he
      exact (hlevels level hlevel).2
  renamed hs hname := ⟨hname, hs.levels⟩
  replaced hs _ _ := ⟨hs.name, hs.levels⟩

/-- **No text of a caller becomes SQL.** Whatever expression a caller obtains that brings along
names and strings only, its SQL, in every dialect that has a family and with every alias of the
table, is cut by a reader into exactly the leaves of the expression, in order. The plain ones are
words of the library. The quoted ones are texts of the caller from end to end, or the names of
levels. -/
theorem Obtained.scan_toSql_of_texts {U : String → Prop} {e : Expr}
    (h : Obtained (.texts U) (.expr e)) {d : Dialect} {family : Family}
    (hfamily : d.family = .ok family) (table : Option String) :
    (∃ sql lexemes, e.toSql d table = .ok sql ∧ scan family sql.toList = some lexemes ∧
      lexemes.flatMap Lexeme.written = sql.toList ∧
      lexemes.map Lexeme.read = e.pieces ⟨family, table⟩) ∧ ∀ leaf ∈ e.leaves, leaf.From U := by
  obtain ⟨hleaves, hapart⟩ := (h.throughout (.safe U)).expr_of
  have hread := readSql_renderAll ⟨family, table⟩
    (fun leaf hleaf => (hleaves leaf hleaf).unquoted) (fun hrow => by
      rw [show family = .rowStore from hrow]
      exact hapart)
  rw [← Expr.render_eq_leaves] at hread
  exact ⟨exists_lexemes_of_readSql hfamily hread, hleaves⟩

/-- A column, a name and a string that look like the end of a token, a slot and an escape. -/
theorem Obtained.scan_toSql_of_texts_hostile :
    let texts := ["a\"; --", "\x7b\x7d", "it's \\"]
    let compared : Expr := ⟨.regular, [.raw "(", (Expr.column "a\"; --").token, .raw ") = (",
      (Expr.string "it's \\").token, .raw ")"]⟩
    let e : Expr := ⟨.regular, [compared.token, .raw " as ", (Expr.identifier "\x7b\x7d").token]⟩
    Obtained (.texts (· ∈ texts)) (.expr e) ∧
      (∃ sql lexemes, e.toSql .bigQuery (some "t") = .ok sql ∧
        scan .columnarAnalytics sql.toList = some lexemes ∧
        lexemes.flatMap Lexeme.written = sql.toList ∧
        lexemes.map Lexeme.read = e.pieces ⟨.columnarAnalytics, some "t"⟩) ∧
      ∀ leaf ∈ e.leaves, leaf.From (· ∈ texts) := by
  intro texts compared e
  let column := Series.ofColumn Sample.relation "a\"; --" .string
  let result : Series := { column with name := "\x7b\x7d", expr := compared, dtype := .bool }
  have hcompare : Series.compareLiteral { column with name := "\x7b\x7d" } .equal
      (.string "it's \\") = .ok result := by decide +kernel
  have hitem : result.selectItem = .ok e := by decide +kernel
  have hcolumn : Obtained (.texts (· ∈ texts)) (.series column) :=
    .column (by decide : "a\"; --" ∈ texts)
  have hvalue : ∀ text ∈ (Literal.string "it's \\").texts, text ∈ texts := by decide
  have hresult : Obtained (.texts (· ∈ texts)) (.series result) :=
    .compareLiteral (hcolumn.withName (by decide : "\x7b\x7d" ∈ texts)) hvalue hcompare
  have he : Obtained (.texts (· ∈ texts)) (.expr e) := .gives hresult (.selectItem hitem)
  exact ⟨he, scan_toSql_of_texts he rfl (some "t")⟩

end QueryFrame
