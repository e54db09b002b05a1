import Mathlib.Algebra.Group.Nat.Defs
import Mathlib.Data.List.Flatten
import Mathlib.Data.List.Infix
import Mathlib.Data.List.Sublists
import QueryFrame.Proofs.GroupingClauses
import QueryFrame.Sample

/-!
# What cube and rollup group on

In SQL, `cube (…)` and `rollup (…)` stand for several groupings at once: those on each part of their
elements, and those on each run of elements from the first on. So a clause denotes sets of
expressions, and these can be read off the clause (`Expr.groupingSets?`). What is *meant* are sets
of columns, each column with all of its expressions (`GroupingFunction.meant`).

The two agree if, and only if, no column has more than one level. The levels of a column become
elements of their own, so every set that is meant is denoted, but so are others, which have some
levels of a column without the rest (`GroupingFunction.clause_denotes`). The expression of the
composite itself, as an element, would hold the levels together (`Series.together_composite`).
-/

namespace QueryFrame

/-- A function that puts several groupings together. -/
inductive GroupingFunction where
  /-- one grouping for every combination -/
  | cube
  /-- one for each run from the first on -/
  | rollup
  deriving DecidableEq

namespace GroupingFunction

/-- The name of a function in SQL. -/
def name : GroupingFunction → String
  | .cube => "cube"
  | .rollup => "rollup"

/-- The shape of partitions that call a function. -/
def shape : GroupingFunction → Shape
  | .cube => .cube
  | .rollup => .rollup

/-- How such a partition is formed. -/
def form : GroupingFunction → List Series → Outcome Partition
  | .cube => Partition.cube
  | .rollup => Partition.rollup

/-- What a call stands for: the parts of its elements that rows are grouped on. -/
def sets {α : Type} : GroupingFunction → List α → List (List α)
  | .cube, elements => elements.sublists
  | .rollup, elements => elements.inits

/-- How many groupings there are for so many elements. -/
def count : GroupingFunction → Nat → Nat
  | .cube, n => 2 ^ n
  | .rollup, n => n + 1

variable {α β : Type} (f : GroupingFunction)

theorem length_sets (elements : List α) : (f.sets elements).length = f.count elements.length := by
  cases f with
  | cube => exact List.length_sublists elements
  | rollup => exact List.length_inits elements

theorem count_injective {m n : Nat} (h : f.count m = f.count n) : m = n := by
  cases f with
  | cube => exact Nat.pow_right_injective (Nat.le_refl 2) h
  | rollup => exact Nat.succ.inj h

/-- Whatever the elements are taken for, the same of them are put together. -/
theorem sets_map (g : α → β) (elements : List α) :
    f.sets (elements.map g) = (f.sets elements).map (List.map g) := by
  cases f with
  | cube => exact List.sublists_map g elements
  | rollup =>
    rw [sets, sets]
    induction elements with
    | nil => rfl
    | cons element rest ih =>
      rw [List.map_cons, List.inits_cons, List.inits_cons, ih, List.map_cons, List.map_map,
        List.map_map]
      rfl

theorem sublist_of_mem_sets {set elements : List α} (h : set ∈ f.sets elements) :
    set.Sublist elements := by
  cases f with
  | cube => exact List.mem_sublists.mp h
  | rollup => exact ((List.mem_inits _ _).mp h).sublist

/-- Runs from the first element on are put together by either function. -/
theorem mem_sets_of_prefix {set elements : List α} (h : set <+: elements) :
    set ∈ f.sets elements := by
  cases f with
  | cube => exact List.mem_sublists.mpr h.sublist
  | rollup => exact (List.mem_inits _ _).mpr h

/-- Where elements stand for several others, these are put together as well. -/
theorem flatMap_mem_sets {set elements : List α} (h : set ∈ f.sets elements) (g : α → List β) :
    set.flatMap g ∈ f.sets (elements.flatMap g) := by
  cases f with
  | cube => exact List.mem_sublists.mpr ((List.mem_sublists.mp h).flatMap g)
  | rollup => exact (List.mem_inits _ _).mpr (((List.mem_inits _ _).mp h).flatMap g)

end GroupingFunction

/-! ## What a clause denotes -/

/-- The expressions of a row, from the tokens behind the parenthesis that opens it. -/
def Token.row? : List Token → Option (List Expr)
  | .nested kind tokens :: .raw text :: rest =>
    if text = ", " then (Token.row? rest).map (⟨kind, tokens⟩ :: ·)
    else if text = ")" && rest.isEmpty then some [⟨kind, tokens⟩]
    else none
  | _ => none

namespace Expr

/-- What an element of a grouping function groups on: the expressions of a row in parentheses, all
at once, or the element itself. -/
def together (e : Expr) : List Expr :=
  match e.tokens with
  | .raw text :: rest => if text = "(" then (Token.row? rest).getD [e] else [e]
  | _ => [e]

/-- The grouping function that a clause calls, and the elements it is called on. -/
def groupingCall? (e : Expr) : Option (GroupingFunction × List Expr) :=
  match e.tokens with
  | [.raw opening, .nested kind row, .raw closing] =>
    if closing = ")" then
      ([.cube, .rollup].find? fun f : GroupingFunction => f.name ++ " (" = opening).map fun f =>
        (f, Expr.parts ⟨kind, row⟩)
    else none
  | _ => none

/-- **What a clause denotes**: the sets of expressions that rows are grouped on. -/
def groupingSets? (e : Expr) : Option (List (List Expr)) :=
  e.groupingCall?.map fun call => (call.1.sets call.2).map (List.flatMap together)

theorem together_of_tokens {e : Expr} {row : List Token} {exprs : List Expr}
    (htokens : e.tokens = .raw "(" :: row) (hrow : Token.row? row = some exprs) :
    e.together = exprs := by
  rw [together, htokens]
  exact congrArg (Option.getD · [e]) hrow

/-- The call of a grouping function is read back. -/
theorem groupingCall?_of_isCall {f : GroupingFunction} {e row : Expr} (h : e.IsCall f.name row) :
    e.groupingCall? = some (f, row.parts) := by
  rw [groupingCall?, h]
  cases f <;> rfl

end Expr

theorem Token.row?_intersperse (first : Expr) (rest : List Expr) :
    Token.row? (((first :: rest).map Expr.token).intersperse (.raw ", ") ++ [.raw ")"]) =
      some (first :: rest) := by
  induction rest generalizing first with
  | nil => rfl
  | cons next rest ih =>
    exact congrArg (Option.map (first :: ·)) (ih next)

/-- **A composite as an element** has all of its levels grouped on at once. -/
theorem Series.together_composite {relation : Relation} {name : String} {dtype : DataType}
    {levels : List Series} {s : Series} (hne : levels ≠ [])
    (h : composite relation name dtype levels = .ok s) :
    s.expr.together = levels.map Series.expr := by
  obtain ⟨expr, hexpr, rfl⟩ := composite_eq_ok h
  obtain ⟨first, rest, rfl⟩ := List.exists_cons_of_ne_nil hne
  rw [List.length_cons, Expr.slots_eq_spell, List.map_cons,
    ← @List.length_map _ _ rest Series.expr] at hexpr
  have htokens := Expr.tokens_of_row (by decide) (by decide) (by decide) hexpr
  have hrow := Token.row?_intersperse first.expr (rest.map Series.expr)
  exact Expr.together_of_tokens htokens hrow

/-! ## Columns and their expressions -/

/-- There is an expression for each level, and one for a column without levels. -/
theorem Series.length_groupExprs (s : Series) : s.groupExprs.length = max 1 s.levels.length := by
  cases hlevels : s.levels with
  | nil => simp [groupExprs, isComposite, hlevels]
  | cons level rest => simp [groupExprs, isComposite, levelExprs, hlevels]

namespace Columns

/-- The expressions that are grouped on, each with the name of its column. -/
def labelled (columns : Columns) : List (String × Expr) :=
  columns.flatMap fun entry => entry.2.groupExprs.map fun e => (entry.1, e)

/-- Whether a set has some but not all of the expressions of a column. -/
def Splits (columns : Columns) (set : List (String × Expr)) (name : String) : Prop :=
  0 < (Keyed.keys set).count name ∧
    (Keyed.keys set).count name < (Keyed.keys (labelled columns)).count name

instance (columns : Columns) (set : List (String × Expr)) (name : String) :
    Decidable (Splits columns set name) :=
  inferInstanceAs (Decidable (_ ∧ _))

theorem labelled_append (left right : Columns) :
    labelled (left ++ right) = labelled left ++ labelled right :=
  List.flatMap_append

theorem labelled_cons (entry : String × Series) (rest : Columns) :
    labelled (entry :: rest) =
      (entry.2.groupExprs.map fun e => (entry.1, e)) ++ labelled rest :=
  List.flatMap_cons

theorem groupExprs_cons (entry : String × Series) (rest : Columns) :
    groupExprs (entry :: rest) = entry.2.groupExprs ++ groupExprs rest :=
  List.flatMap_cons

theorem values_labelled (columns : Columns) :
    Keyed.values (labelled columns) = groupExprs columns := by
  rw [labelled, Keyed.values, List.map_flatMap, groupExprs, Keyed.values, List.flatMap_map]
  refine List.flatMap_congr fun entry _ => ?_
  rw [List.map_map]
  exact List.map_id _

theorem keys_label (name : String) (exprs : List Expr) :
    Keyed.keys (exprs.map fun e => (name, e)) = List.replicate exprs.length name := by
  rw [Keyed.keys, List.map_map]
  exact List.map_const' ..

theorem count_keys_labelled_of_not_mem {columns : Columns} {name : String}
    (h : name ∉ Keyed.keys columns) : (Keyed.keys (labelled columns)).count name = 0 := by
  induction columns with
  | nil => rfl
  | cons entry rest ih =>
    rw [Keyed.keys_cons, List.mem_cons, not_or] at h
    rw [labelled_cons, Keyed.keys_append, List.count_append, keys_label, List.count_replicate,
      ih h.2, if_neg fun heq => h.1 (eq_of_beq heq).symm]

/-- A name labels as many expressions as its column has. -/
theorem count_keys_labelled {columns : Columns} (hnodup : (Keyed.keys columns).Nodup)
    {entry : String × Series} (h : entry ∈ columns) :
    (Keyed.keys (labelled columns)).count entry.1 = max 1 entry.2.levels.length := by
  obtain ⟨before, after, rfl⟩ := List.append_of_mem h
  rw [Keyed.keys_append, Keyed.keys_cons, List.nodup_middle, List.nodup_cons, List.mem_append,
    not_or] at hnodup
  obtain ⟨⟨hbefore, hafter⟩, -⟩ := hnodup
  rw [labelled_append, labelled_cons, Keyed.keys_append, Keyed.keys_append, List.count_append,
    List.count_append, count_keys_labelled_of_not_mem hbefore,
    count_keys_labelled_of_not_mem hafter, keys_label, List.count_replicate_self,
    Series.length_groupExprs, Nat.zero_add, Nat.add_zero]

/-- There are as many expressions as columns exactly if no column has several levels. -/
theorem length_groupExprs_eq_iff (columns : Columns) :
    columns.length ≤ (groupExprs columns).length ∧
      ((groupExprs columns).length = columns.length ↔
        ∀ entry ∈ columns, entry.2.levels.length ≤ 1) := by
  induction columns with
  | nil => exact ⟨Nat.le_refl _, fun _ => List.forall_mem_nil _, fun _ => rfl⟩
  | cons entry rest ih =>
    obtain ⟨hle, hiff⟩ := ih
    rw [List.forall_mem_cons, ← hiff, groupExprs_cons, List.length_append,
      Series.length_groupExprs, List.length_cons]
    omega

/-- Columns with no more than one level each have one expression each. -/
theorem exists_groupExprs_eq_map {columns : Columns}
    (h : ∀ entry ∈ columns, entry.2.levels.length ≤ 1) :
    ∃ only : String × Series → Expr, ∀ set : Columns, set.Sublist columns →
      groupExprs set = set.map only := by
  refine ⟨fun entry => entry.2.groupExprs.headD .empty, fun set hset => ?_⟩
  have hone : ∀ entry ∈ set,
      entry.2.groupExprs = [entry.2.groupExprs.headD .empty] := by
    intro entry hentry
    have hlength : entry.2.groupExprs.length = 1 := by
      rw [Series.length_groupExprs, Nat.max_eq_left (h entry (hset.subset hentry))]
    obtain ⟨e, he⟩ := List.length_eq_one_iff.mp hlength
    rw [he]
    rfl
  rw [groupExprs, Keyed.values, List.flatMap_map, List.flatMap_congr hone]
  exact (List.map_eq_flatMap ..).symm

end Columns

/-! ## What is denoted and what is meant -/

namespace GroupingFunction

variable (f : GroupingFunction) (columns : Columns)

/-- What is denoted: the function puts together expressions. -/
def denoted : List (List Expr) :=
  (f.sets (Columns.labelled columns)).map fun set => (Keyed.values set).flatMap Expr.together

/-- What is meant: the function puts together columns, each with all of its expressions. -/
def meant : List (List Expr) :=
  (f.sets columns).map fun set => (Columns.groupExprs set).flatMap Expr.together

theorem length_denoted :
    (f.denoted columns).length = f.count (Columns.groupExprs columns).length := by
  rw [denoted, List.length_map, length_sets, ← Columns.values_labelled, Keyed.values,
    List.length_map]

theorem length_meant : (f.meant columns).length = f.count columns.length := by
  rw [meant, List.length_map, length_sets]

/-- **Whatever is meant is denoted.** -/
theorem mem_denoted_of_mem_meant {set : List Expr} (h : set ∈ f.meant columns) :
    set ∈ f.denoted columns := by
  obtain ⟨part, hpart, rfl⟩ := List.mem_map.mp h
  refine List.mem_map.mpr ⟨Columns.labelled part, f.flatMap_mem_sets hpart _, ?_⟩
  rw [Columns.values_labelled]

variable {columns}

/-- Columns without several levels are denoted as they are meant. -/
theorem denoted_eq_meant (h : ∀ entry ∈ columns, entry.2.levels.length ≤ 1) :
    f.denoted columns = f.meant columns := by
  obtain ⟨only, honly⟩ := Columns.exists_groupExprs_eq_map h
  have hvalues : (f.sets (Columns.labelled columns)).map Keyed.values =
      (f.sets columns).map (List.map only) := by
    rw [← f.sets_map only, ← honly columns (List.Sublist.refl _), ← Columns.values_labelled]
    exact (f.sets_map Prod.snd _).symm
  have hdenoted : f.denoted columns =
      ((f.sets (Columns.labelled columns)).map Keyed.values).map (List.flatMap Expr.together) := by
    rw [denoted, List.map_map]
    rfl
  rw [hdenoted, hvalues, List.map_map, meant]
  refine List.map_congr_left fun set hset => ?_
  rw [honly set (f.sublist_of_mem_sets hset)]
  rfl

/-- **Exactly these are.** Otherwise there are more sets than are meant. -/
theorem denoted_perm_meant_iff :
    (f.denoted columns).Perm (f.meant columns) ↔
      ∀ entry ∈ columns, entry.2.levels.length ≤ 1 := by
  constructor
  · intro h
    have hcount := h.length_eq
    rw [length_denoted, length_meant] at hcount
    exact (Columns.length_groupExprs_eq_iff columns).2.mp (f.count_injective hcount)
  · intro h
    rw [f.denoted_eq_meant h]

/-- **A set splits a column** exactly if there is a column with several levels. -/
theorem exists_splits_iff (hnodup : (Keyed.keys columns).Nodup) :
    (∃ set ∈ f.sets (Columns.labelled columns), ∃ entry ∈ columns,
        Columns.Splits columns set entry.1) ↔
      ∃ entry ∈ columns, 2 ≤ entry.2.levels.length := by
  constructor
  · rintro ⟨set, -, entry, hentry, hsome, hnotAll⟩
    rw [Columns.count_keys_labelled hnodup hentry] at hnotAll
    exact ⟨entry, hentry, by omega⟩
  · rintro ⟨entry, hentry, hlevels⟩
    have hall := Columns.count_keys_labelled hnodup hentry
    obtain ⟨before, after, rfl⟩ := List.append_of_mem hentry
    have hbefore : entry.1 ∉ Keyed.keys before := by
      rw [Keyed.keys_append, Keyed.keys_cons, List.nodup_middle, List.nodup_cons, List.mem_append,
        not_or] at hnodup
      exact hnodup.1.1
    obtain ⟨first, rest, hexprs⟩ : ∃ first rest, entry.2.groupExprs = first :: rest := by
      have hlength := entry.2.length_groupExprs
      refine List.exists_cons_of_length_pos ?_
      omega
    -- the run that ends with the first level of the column
    have hprefix : Columns.labelled before ++ [(entry.1, first)] <+:
        Columns.labelled (before ++ entry :: after) := by
      rw [Columns.labelled_append, Columns.labelled_cons, hexprs]
      exact List.prefix_append_right_inj _ |>.mpr ⟨_, rfl⟩
    have hcount : (Keyed.keys (Columns.labelled before ++ [(entry.1, first)])).count entry.1 =
        1 := by
      rw [Keyed.keys_append, List.count_append, Columns.count_keys_labelled_of_not_mem hbefore,
        Nat.zero_add]
      exact List.count_singleton_self
    exact ⟨_, f.mem_sets_of_prefix hprefix, entry, hentry, by omega, by omega⟩

/-! ## The clauses of cubes and rollups -/

theorem form_eq_ok {given : List Series} {p : Partition} (h : f.form given = .ok p) :
    Columns.group given = .ok p.columns ∧ p.shape = f.shape ∧ p.columns ≠ [] := by
  cases f with
  | cube => exact Partition.cube_eq_ok h
  | rollup => exact Partition.rollup_eq_ok h

/-- The clause is the call of the function on the row of all expressions. -/
theorem exists_call (hne : columns ≠ []) :
    ∃ call row, Partition.clause ⟨columns, f.shape⟩ = .ok (some call) ∧ call.IsCall f.name row ∧
      row.parts = Columns.groupExprs columns ∧ ∀ target,
        call.text target =
          f.name ++ " (" ++ ", ".intercalate
            ((Columns.groupExprs columns).map (Expr.text target)) ++ ")" := by
  have hword : Word (f.name ++ " (") ∧ f.name ++ " (" ≠ "" := by
    cases f <;> exact ⟨.fixed (by decide), by decide⟩
  obtain ⟨row, hrow⟩ := Expr.exists_join .comma (Columns.groupExprs columns)
  have hcolumns : Columns.clause columns = .ok (some row) := by
    rw [Columns.clause, if_neg fun hempty => hne (List.isEmpty_iff.mp hempty), hrow]
    rfl
  have hclause : Partition.clause ⟨columns, f.shape⟩ =
      Partition.wrapClause f.name (some row) := by
    cases f <;> rw [shape, Partition.clause, hcolumns] <;> rfl
  obtain ⟨clause, hwrap, -⟩ := Partition.exists_wrapClause f.name hword.1 hword.2 (some row)
  obtain ⟨hnone, -⟩ | ⟨_, call, hinner, rfl, hcall, htext⟩ :=
    Partition.wrapClause_eq_ok hword.1 hword.2 hwrap
  · cases hnone
  · obtain rfl := Option.some.inj hinner
    refine ⟨call, row, hclause.trans hwrap, hcall, Expr.parts_of_construct hrow, fun target => ?_⟩
    rw [htext, Expr.text_of_join hrow]

/-- What a clause that calls a grouping function on columns denotes. -/
structure Denotes (clause : Expr) (columns : Columns) : Prop where
  /-- the call names every expression that is grouped on -/
  text : ∀ target, clause.text target = f.name ++ " (" ++ ", ".intercalate
    ((Columns.groupExprs columns).map (Expr.text target)) ++ ")"
  /-- so it denotes sets of expressions, as many as these make -/
  sets : clause.groupingSets? = some (f.denoted columns) ∧
    (f.denoted columns).length = f.count (Columns.groupExprs columns).length
  /-- the sets that are meant are among them, as many as the columns make -/
  complete : (∀ set ∈ f.meant columns, set ∈ f.denoted columns) ∧
    (f.meant columns).length = f.count columns.length
  /-- and there are no others exactly if no column has several levels -/
  exact : (f.denoted columns).Perm (f.meant columns) ↔
    ∀ entry ∈ columns, entry.2.levels.length ≤ 1
  /-- nor is a column split, exactly then -/
  whole : (¬ ∃ set ∈ f.sets (Columns.labelled columns), ∃ entry ∈ columns,
      Columns.Splits columns set entry.1) ↔
    ∀ entry ∈ columns, entry.2.levels.length ≤ 1

/-- **What the clause of a cube or rollup denotes.** There always is a clause. It denotes what is
meant as long as no column has more than one level. From the second level on it denotes more, and
some of it splits a column. -/
theorem clause_denotes {given : List Series} {p : Partition} (h : f.form given = .ok p) :
    ∃ clause, p.clause = .ok (some clause) ∧ f.Denotes clause p.columns := by
  obtain ⟨hgroup, hshape, hne⟩ := f.form_eq_ok h
  obtain ⟨columns, shape⟩ := p
  obtain rfl : shape = f.shape := hshape
  have hnodup := (Columns.settled_iff.mp (Columns.settled_of_group hgroup)).2
  obtain ⟨clause, row, hclause, hcall, hparts, htext⟩ := f.exists_call hne
  refine ⟨clause, hclause, htext, ⟨?_, f.length_denoted columns⟩,
    ⟨fun set => f.mem_denoted_of_mem_meant columns, f.length_meant columns⟩,
    f.denoted_perm_meant_iff, ?_⟩
  · rw [Expr.groupingSets?, Expr.groupingCall?_of_isCall hcall, hparts, ← Columns.values_labelled,
      Keyed.values, Option.map_some, f.sets_map, List.map_map]
    rfl
  · rw [f.exists_splits_iff hnodup]
    grind

/-- A rollup of a column and of a composite with one level, where every run is meant. -/
theorem clause_denotes_single_level :
    let a := Sample.series Sample.relation "a"
    let b := Sample.series Sample.relation "b"
    let single : Series := { a with
      name := "single"
      expr := ⟨.regular, [.raw "(", a.expr.token, .raw ")"]⟩
      levels := [("a", a)] }
    let p : Partition := ⟨[("b", b), ("single", single)], .rollup⟩
    form .rollup [b, single] = .ok p ∧
      ∃ clause, p.clause = .ok (some clause) ∧
        clause.text ⟨.rowStore, none⟩ = "rollup (\"b\", \"a\")" ∧
        clause.groupingSets? = some [[], [b.expr], [b.expr, a.expr]] ∧
        (denoted .rollup p.columns).Perm (meant .rollup p.columns) := by
  intro a b single p
  have hp : form .rollup [b, single] = .ok p := by decide +kernel
  obtain ⟨clause, hclause, hdenotes⟩ := clause_denotes .rollup hp
  refine ⟨hp, clause, hclause, ?_, ?_, hdenotes.exact.mpr (by decide)⟩
  · rw [hdenotes.text]
    decide +kernel
  · rw [hdenotes.sets.1]
    decide +kernel

/-- A cube and a rollup of one interval. Rows are to be grouped on both of its ends, and all
together. They are also grouped on the lower end alone, and by the cube on the upper end alone. -/
theorem levels_are_split :
    let lower := Sample.series Sample.relation "lower"
    let upper := Sample.series Sample.relation "upper"
    let range : Series := { lower with
      name := "range"
      dtype := .numericInterval
      expr := ⟨.regular, [.raw "(", lower.expr.token, .raw ", ", upper.expr.token, .raw ")"]⟩
      levels := [("lower", lower), ("upper", upper)] }
    let l := lower.expr
    let u := upper.expr
    let call (opening : String) : Expr :=
      ⟨.regular, [.raw opening, .nested .regular [l.token, .raw ", ", u.token], .raw ")"]⟩
    (∃ p, form .cube [range] = .ok p ∧ p.clause = .ok (some (call "cube (")) ∧
      (call "cube (").toSql .postgres none = .ok "cube (\"lower\", \"upper\")" ∧
      (call "cube (").groupingSets? = some [[], [l], [u], [l, u]] ∧
      meant .cube p.columns = [[], [l, u]] ∧
      [("range", l)] ∈ sets .cube (Columns.labelled p.columns) ∧
      Columns.Splits p.columns [("range", l)] "range") ∧
    ∃ p, form .rollup [range] = .ok p ∧ p.clause = .ok (some (call "rollup (")) ∧
      (call "rollup (").toSql .postgres none = .ok "rollup (\"lower\", \"upper\")" ∧
      (call "rollup (").groupingSets? = some [[], [l], [l, u]] ∧
      meant .rollup p.columns = [[], [l, u]] ∧
      [("range", l)] ∈ sets .rollup (Columns.labelled p.columns) ∧
      Columns.Splits p.columns [("range", l)] "range" := by
  intro lower upper range l u call
  have hcube : form .cube [range] = .ok ⟨[("range", range)], .cube⟩ := by decide +kernel
  have hrollup : form .rollup [range] = .ok ⟨[("range", range)], .rollup⟩ := by decide +kernel
  constructor
  · refine ⟨_, hcube, ?_⟩
    decide +kernel
  · refine ⟨_, hrollup, ?_⟩
    decide +kernel

end GroupingFunction

end QueryFrame
