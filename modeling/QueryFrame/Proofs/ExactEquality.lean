import QueryFrame.Proofs.Surroundings

/-!
# When series and partitions are the same

Series hold partitions, and partitions hold series. The comparison of two series goes through both,
and through all of their collections entry by entry in order. It is exact: nothing is the same but
what is equal.

A collection of columns by name has its columns in an order, and the order counts. So of two series
that hold the same, but for two entries of one collection that have changed places, the one is not
the same as the other. It does not matter what the collection is, an index, levels, or what a
partition groups on, nor how deep it lies (`Series.Exchanged`, `Series.ne_of_exchanged`).

What is the same can stand for the other in whatever is made of it, and two series under partitions
that are not the same cannot be compared (`Series.same_is_exact`).
-/

namespace QueryFrame

/-! ## Entries that change places -/

mutual

/-- Whether one series is the other with two entries of a collection in it exchanged. -/
inductive Series.Exchanged : Series → Series → Prop
  /-- in the index -/
  | index {s : Series} {index : Columns} (h : Columns.Exchanged s.index index) :
      Series.Exchanged s { s with index := index }
  /-- among the levels -/
  | levels {s : Series} {levels : Columns} (h : Columns.Exchanged s.levels levels) :
      Series.Exchanged s { s with levels := levels }
  /-- in the partition -/
  | partition {s : Series} {p q : Partition} (hp : s.partition = some p)
      (h : Partition.Exchanged p q) : Series.Exchanged s { s with partition := some q }

/-- Whether one collection is the other with two entries exchanged. -/
inductive Columns.Exchanged : Columns → Columns → Prop
  /-- two of its own, which have different names -/
  | here {before between after : Columns} {first second : String × Series}
      (h : first.1 ≠ second.1) :
      Columns.Exchanged (before ++ first :: (between ++ second :: after))
        (before ++ second :: (between ++ first :: after))
  /-- two of a collection in one of its series -/
  | within {before after : Columns} {name : String} {s t : Series} (h : Series.Exchanged s t) :
      Columns.Exchanged (before ++ (name, s) :: after) (before ++ (name, t) :: after)

/-- Whether one partition is the other with two entries of a collection in it exchanged. -/
inductive Partition.Exchanged : Partition → Partition → Prop
  /-- in what it groups on -/
  | columns {p : Partition} {columns : Columns} (h : Columns.Exchanged p.columns columns) :
      Partition.Exchanged p { p with columns := columns }
  /-- in a member of a list -/
  | lists {columns : Columns} {before after : List Partition} {p q : Partition}
      (h : Partition.Exchanged p q) :
      Partition.Exchanged ⟨columns, .lists (before ++ p :: after)⟩
        ⟨columns, .lists (before ++ q :: after)⟩
  /-- in a member of a set -/
  | sets {columns : Columns} {before after : List Partition} {p q : Partition}
      (h : Partition.Exchanged p q) :
      Partition.Exchanged ⟨columns, .sets (before ++ p :: after)⟩
        ⟨columns, .sets (before ++ q :: after)⟩

end

mutual

/-- **An exchange makes another series**, wherever it takes place. -/
theorem Series.ne_of_exchanged : {s t : Series} → s.Exchanged t → s ≠ t
  | _, _, .index h => by
    intro heq
    exact Columns.ne_of_exchanged h (congrArg Series.index heq)
  | _, _, .levels h => by
    intro heq
    exact Columns.ne_of_exchanged h (congrArg Series.levels heq)
  | _, _, .partition hp h => by
    intro heq
    have hpartition := hp.symm.trans (congrArg Series.partition heq)
    exact Partition.ne_of_exchanged h (Option.some.inj hpartition)

/-- It makes another collection. -/
theorem Columns.ne_of_exchanged : {left right : Columns} → Columns.Exchanged left right →
    left ≠ right
  | _, _, .here h => by
    intro heq
    obtain ⟨hentry, -⟩ := List.cons.inj (List.append_cancel_left heq)
    exact h (congrArg Prod.fst hentry)
  | _, _, .within h => by
    intro heq
    obtain ⟨hentry, -⟩ := List.cons.inj (List.append_cancel_left heq)
    exact Series.ne_of_exchanged h (congrArg Prod.snd hentry)

/-- And it makes another partition. -/
theorem Partition.ne_of_exchanged : {p q : Partition} → p.Exchanged q → p ≠ q
  | _, _, .columns h => by
    intro heq
    exact Columns.ne_of_exchanged h (congrArg Partition.columns heq)
  | _, _, .lists h => by
    intro heq
    have hmembers := Shape.lists.inj (congrArg Partition.shape heq)
    exact Partition.ne_of_exchanged h (List.cons.inj (List.append_cancel_left hmembers)).1
  | _, _, .sets h => by
    intro heq
    have hmembers := Shape.sets.inj (congrArg Partition.shape heq)
    exact Partition.ne_of_exchanged h (List.cons.inj (List.append_cancel_left hmembers)).1

end

/-! ## What is made of series and partitions -/

/-- Whether nothing that is made of two series tells them apart. -/
structure Series.Interchangeable (s t : Series) : Prop where
  aggregate : ∀ f p, s.aggregate f p = t.aggregate f p
  windowFunction : ∀ w f args dtype d,
    s.windowFunction w f args dtype d = t.windowFunction w f args dtype d
  windowed : ∀ w call d, s.windowed w call d = t.windowed w call d
  /-- whatever they are compared with, or is compared with them -/
  compare : ∀ op other,
    s.compare op other = t.compare op other ∧ other.compare op s = other.compare op t
  compareLiteral : ∀ op value, s.compareLiteral op value = t.compareLiteral op value
  rebind : ∀ relation, s.rebind relation = t.rebind relation

/-- Whether nothing that is made of two partitions tells them apart. -/
structure Partition.Interchangeable (p q : Partition) : Prop where
  clause : p.clause = q.clause
  groupExprs : p.groupExprs = q.groupExprs
  selectItems : ∀ whole, p.selectItems whole = q.selectItems whole
  /-- as a window it is the same, and has the same `over` clause -/
  «over» : p.window?.map Window.over = q.window?.map Window.over
  aggregate : ∀ (s : Series) f, s.aggregate f (some p) = s.aggregate f (some q)
  rebind : ∀ relation, p.rebind relation = q.rebind relation

/-- What is the same is interchangeable. -/
theorem Series.interchangeable_of_same {s t : Series} (h : s.same t = true) :
    s.Interchangeable t := by
  obtain rfl := (same_iff s t).mp h
  exact ⟨fun _ _ => rfl, fun _ _ _ _ _ => rfl, fun _ _ _ => rfl, fun _ _ => ⟨rfl, rfl⟩,
    fun _ _ => rfl, fun _ => rfl⟩

theorem Partition.interchangeable_of_same {p q : Partition} (h : p.same q = true) :
    p.Interchangeable q := by
  obtain rfl := (same_iff p q).mp h
  exact ⟨rfl, rfl, fun _ => rfl, rfl, fun _ _ => rfl, fun _ => rfl⟩

/-! ## Exactness -/

/-- A comparison that is equality is an equivalence. -/
theorem equivalence_of_same_iff {α : Type} {same : α → α → Bool}
    (h : ∀ a b, same a b = true ↔ a = b) : Equivalence fun a b => same a b = true where
  refl a := (h a a).mpr rfl
  symm hab := (h _ _).mpr ((h _ _).mp hab).symm
  trans hab hbc := (h _ _).mpr (((h _ _).mp hab).trans ((h _ _).mp hbc))

namespace Series

/-- **The comparison is exact.** Two series are the same exactly if they are equal, in every part
and at every depth, and so are two partitions. It is an equivalence therefore, and it is broken by
any two entries that change places, in whatever collection they are. Series that are the same are
interchangeable, and partitions are. Two series of one relation whose types go together can be
compared exactly if their partitions are the same, and otherwise the one is foreign to the other. -/
theorem same_is_exact :
    ((∀ s t : Series, s.same t = true ↔ s = t) ∧ ∀ p q : Partition, p.same q = true ↔ p = q) ∧
    ((Equivalence fun s t : Series => s.same t = true) ∧
      Equivalence fun p q : Partition => p.same q = true) ∧
    ((∀ s t : Series, s.Exchanged t → s.same t = false) ∧
      ∀ p q : Partition, p.Exchanged q → p.same q = false) ∧
    ((∀ s t : Series, s.same t = true → s.Interchangeable t) ∧
      ∀ p q : Partition, p.same q = true → p.Interchangeable q) ∧
    ∀ (s t : Series) (op : Comparison), s.relation = t.relation →
      s.dtype.comparableWith t.dtype = true →
      ((∃ next, s.compare op t = .ok next) ↔ Partition.sameOption s.partition t.partition = true) ∧
        (Partition.sameOption s.partition t.partition = false →
          s.compare op t = .error (.series (.foreignOperand s.name t.name))) := by
  refine ⟨⟨same_iff, Partition.same_iff⟩,
    ⟨equivalence_of_same_iff same_iff, equivalence_of_same_iff Partition.same_iff⟩,
    ⟨fun s t h => ?_, fun p q h => ?_⟩,
    ⟨fun s t => interchangeable_of_same, fun p q => Partition.interchangeable_of_same⟩,
    fun s t op hrelation htypes => ⟨?_, fun hdiffer => ?_⟩⟩
  · rw [← Bool.not_eq_true, same_iff]
    exact ne_of_exchanged h
  · rw [← Bool.not_eq_true, Partition.same_iff]
    exact Partition.ne_of_exchanged h
  · rw [Partition.sameOption_iff]
    exact exists_compare_iff htypes hrelation op
  · rw [← Bool.not_eq_true, Partition.sameOption_iff] at hdiffer
    exact compare_of_partition_ne htypes hdiffer op

/-- Grouping on a column once more makes the same partition, but grouping on the columns in another
order does not, though it puts the same rows together. Within lists of groupings that are partitions
of series, the two keep the series apart. -/
theorem same_is_exact_regrouped :
    let a := Sample.series Sample.relation "a"
    let b := Sample.series Sample.relation "b"
    ∃ p again q : Partition, Partition.groupBy [a, b] = .ok p ∧
      Partition.groupBy [a, b, a] = .ok again ∧ p.same again = true ∧ p.Interchangeable again ∧
      Partition.groupBy [b, a] = .ok q ∧ p.same q = false ∧
      let s := { a with partition := some ⟨p.columns, .lists [.all, p]⟩ }
      let more := { a with partition := some ⟨p.columns, .lists [.all, again]⟩ }
      let t := { b with partition := some ⟨p.columns, .lists [.all, q]⟩ }
      s.Interchangeable more ∧ (∀ op, ∃ next, s.compare op more = .ok next) ∧
        ∀ op, s.compare op t = .error (.series (.foreignOperand "a" "b")) := by
  intro a b
  obtain ⟨⟨hseries, hpartition⟩, -, ⟨-, hexchanged⟩, ⟨hown, halike⟩, hcompare⟩ := same_is_exact
  let p : Partition := ⟨[("a", a), ("b", b)], .plain⟩
  let q : Partition := ⟨[("b", b), ("a", a)], .plain⟩
  have hsame : p.same p = true := (hpartition p p).mpr rfl
  have hpq : p.Exchanged q :=
    .columns (@Columns.Exchanged.here [] [] [] ("a", a) ("b", b) (by decide))
  refine ⟨p, p, q, rfl, rfl, hsame, halike p p hsame, rfl, hexchanged p q hpq, ?_⟩
  intro s more t
  refine ⟨hown s more ((hseries s more).mpr rfl), fun op => ?_, fun op => ?_⟩
  · exact (hcompare s more op rfl rfl).1.mpr ((Partition.sameOption_iff _ _).mpr rfl)
  · have hlists := @Partition.Exchanged.lists p.columns [.all] [] p q hpq
    refine (hcompare s t op rfl rfl).2 ?_
    rw [Partition.sameOption]
    exact hexchanged _ _ hlists

end Series

end QueryFrame
