import QueryFrame.Error.Wording
import QueryFrame.Proofs.Relations

/-!
# Frames in the dialects

A dialect can refuse the frame of a window to some functions. Two operations deal with that. A
window function of a series goes without the frame where the dialect does not take it, so in a known
dialect it is never refused for its frame. A call over a window is refused there, and nowhere else
(`Series.windowFunction_by_dialect`).

A dialect that is known by name only is found out when it is asked whether it takes a frame. A call
over a window asks if the window has a frame. A window function of a series asks as well if it is a
numbering function. Nobody asks for a navigation function over a window without a frame, so the
refusal is left to whoever renders the expression (`Series.refused_in_unknown_dialect`).
-/

namespace QueryFrame

/-- Only the two known dialects have a family. -/
theorem Dialect.family_eq_error {d : Dialect} (hpostgres : d ≠ .postgres)
    (hbigQuery : d ≠ .bigQuery) : d.family = .error (.dialect (.unknown d.name)) := by
  cases d with
  | postgres => exact absurd rfl hpostgres
  | bigQuery => exact absurd rfl hbigQuery
  | other name => rfl

/-- The window of the samples is over their relation. -/
theorem Sample.relation_of_window :
    ∀ entry ∈ window.columns.head?, entry.2.relation = relation := by
  rintro entry ⟨⟩
  rfl

variable {d : Dialect} {family : Family} {fault : Error}

namespace Window

/-! ## Calls over a window -/

variable {w : Window} (f : WindowFunction) (args : List Expr)

/-- A dialect without a family refuses every frame. -/
theorem applyFor_of_family_error (hd : d.family = .error fault) :
    w.applyFor f args d =
      if w.spec.clause = "" then f.call args >>= w.apply else .error fault := by
  by_cases hclause : w.spec.clause = ""
  · rw [applyFor_of_unframed f args hclause, if_pos hclause]
  · rw [applyFor_of_framed f args hclause, WindowFunction.acceptsFrame, hd, if_neg hclause]
    rfl

end Window

namespace Series

variable {s : Series} {w : Window} {f : WindowFunction} {args : List Expr} {expr : Expr}

/-! ## Window functions in a known dialect -/

/-- A window function in a known dialect changes the expression and the type of the series, and
nothing else. -/
theorem windowFunction_of_family (hd : d.family = .ok family)
    (hrelation : s.checkRelation w.columns = .ok ())
    (hexpr : f.call args >>= (if f.keepsFrame family then w else w.unframed).apply = .ok expr)
    (dtype : DataType) :
    s.windowFunction w f args dtype d = .ok { s with expr := expr, dtype := dtype } := by
  rw [windowFunction_eq hd, hrelation, Outcome.ok_bind, ← bind_assoc, hexpr]
  rfl

/-- **A window function in either known dialect.** Over a window of its relation, a series can have
any window function with any arguments computed, and nothing changes but its expression and its
type. The function is called over the window as it is, except that a numbering function loses the
frame in a columnar dialect. A call over the window keeps the frame or is refused, and it is refused
exactly there. -/
theorem windowFunction_by_dialect (w : Window) (f : WindowFunction) (args : List Expr) :
    ∃ call framed bare, f.call args = .ok call ∧ w.apply call = .ok framed ∧
      w.unframed.apply call = .ok bare ∧
      (∀ (s : Series) dtype, (∀ entry ∈ w.columns.head?, entry.2.relation = s.relation) →
        s.windowFunction w f args dtype .postgres =
          .ok { s with expr := framed, dtype := dtype } ∧
        s.windowFunction w f args dtype .bigQuery =
          .ok { s with
            expr := if f.family = .navigation then framed else bare, dtype := dtype }) ∧
      ∀ d, d = .postgres ∨ d = .bigQuery →
        (Error.dialect (.frameRefused f.name d.name w.spec.clause)).code = "DIALECT_002" ∧
        w.applyFor f args d =
          if d = .bigQuery ∧ f.family = .numbering ∧ w.spec.clause ≠ "" then
            .error (.dialect (.frameRefused f.name d.name w.spec.clause))
          else .ok framed := by
  obtain ⟨call, hcall⟩ := f.exists_call args
  obtain ⟨framed, hframed⟩ := w.exists_apply call
  obtain ⟨bare, hbare⟩ := w.unframed.exists_apply call
  refine ⟨call, framed, bare, hcall, hframed, hbare, fun s dtype hhead => ⟨?_, ?_⟩,
    fun d hd => ⟨rfl, ?_⟩⟩
  · refine windowFunction_of_family rfl (checkRelation_iff.mpr hhead) ?_ dtype
    rw [hcall]
    exact hframed
  · refine windowFunction_of_family rfl (checkRelation_iff.mpr hhead) ?_ dtype
    rw [hcall, Outcome.ok_bind]
    cases hfamily : f.family <;> simp [hfamily, hframed, hbare]
  · rcases hd with rfl | rfl
    · rw [Window.applyFor_of_family f args rfl, hcall, Outcome.ok_bind, hframed]
      simp
    · rw [Window.applyFor_of_family f args rfl, hcall, Outcome.ok_bind, hframed]
      cases hfamily : f.family <;> simp [hfamily]

/-- A rank over rows with a frame: a row store takes the frame, a columnar engine does not. -/
theorem rank_by_dialect :
    let a := Sample.series Sample.relation "a"
    ∃ framed bare,
      a.windowFunction Sample.window .rank [] .int64 .postgres = .ok { a with expr := framed } ∧
      a.windowFunction Sample.window .rank [] .int64 .bigQuery = .ok { a with expr := bare } ∧
      Sample.window.applyFor .rank [] .postgres = .ok framed ∧
      Sample.window.applyFor .rank [] .bigQuery =
        .error (.dialect (.frameRefused "rank" "bigquery" Sample.window.spec.clause)) := by
  intro a
  obtain ⟨call, framed, bare, -, -, -, hseries, hcall⟩ :=
    windowFunction_by_dialect Sample.window .rank []
  obtain ⟨hpostgres, hbigQuery⟩ := hseries a .int64 Sample.relation_of_window
  refine ⟨framed, bare, hpostgres, hbigQuery, ?_, ?_⟩
  · exact (hcall .postgres (.inl rfl)).2
  · exact (hcall .bigQuery (.inr rfl)).2

/-! ## Window functions in an unknown dialect -/

/-- A window function of a series asks the dialect about the frame, unless it is a navigation
function over a window that has none. -/
theorem windowFunction_of_family_error (hd : d.family = .error fault)
    (hrelation : s.checkRelation w.columns = .ok ())
    (hexpr : f.call args >>= w.apply = .ok expr) (dtype : DataType) :
    s.windowFunction w f args dtype d =
      if f.family = .navigation ∧ w.spec.clause = "" then
        .ok { s with expr := expr, dtype := dtype }
      else .error fault := by
  rw [windowFunction, hrelation, Outcome.ok_bind]
  cases hfamily : f.family with
  | navigation =>
    dsimp only
    rw [if_neg (by decide), pure_bind, if_pos rfl, Window.applyFor_of_family_error f args hd]
    by_cases hclause : w.spec.clause = ""
    · rw [if_pos hclause, hexpr, if_pos ⟨rfl, hclause⟩]
      rfl
    · rw [if_neg hclause, if_neg fun h => hclause h.2]
      rfl
  | numbering =>
    have hasked : f.acceptsFrame d = .error fault := by
      rw [WindowFunction.acceptsFrame, hd]
      rfl
    rw [if_pos rfl, hasked, if_neg fun h => FunctionFamily.noConfusion h.1]
    rfl

/-- **A window function in an unknown dialect.** The refusal is always the same. Nothing is
rendered, and a window with a frame is always refused. A window without one is refused with the
numbering functions of a series. With the navigation functions of a series, and with all calls over
the window, the dialect is not asked, so these succeed. -/
theorem refused_in_unknown_dialect (hpostgres : d ≠ .postgres) (hbigQuery : d ≠ .bigQuery) :
    (Error.dialect (.unknown d.name)).code = "DIALECT_001" ∧
    (∀ (e : Expr) table, e.toSql d table = .error (.dialect (.unknown d.name))) ∧
    ∀ (w : Window) (f : WindowFunction) args, ∃ call expr,
      f.call args = .ok call ∧ w.apply call = .ok expr ∧
      (w.applyFor f args d =
        if w.spec.clause = "" then .ok expr else .error (.dialect (.unknown d.name))) ∧
      ∀ (s : Series) dtype, (∀ entry ∈ w.columns.head?, entry.2.relation = s.relation) →
        s.windowFunction w f args dtype d =
          if f.family = .navigation ∧ w.spec.clause = "" then
            .ok { s with expr := expr, dtype := dtype }
          else .error (.dialect (.unknown d.name)) := by
  have hd := Dialect.family_eq_error hpostgres hbigQuery
  refine ⟨rfl, fun e table => ?_, fun w f args => ?_⟩
  · rw [Expr.toSql, hd, Outcome.error_bind]
  · obtain ⟨call, hcall⟩ := f.exists_call args
    obtain ⟨expr, hexpr⟩ := w.exists_apply call
    have hover : f.call args >>= w.apply = .ok expr := by
      rw [hcall]
      exact hexpr
    refine ⟨call, expr, hcall, hexpr, ?_, fun s dtype hhead => ?_⟩
    · rw [Window.applyFor_of_family_error f args hd, hover]
    · exact windowFunction_of_family_error hd (checkRelation_iff.mpr hhead) hover dtype

/-- Over rows with a frame, an unknown dialect is refused, and so is an empty expression. -/
theorem refused_by_oracle :
    let a := Sample.series Sample.relation "a"
    let oracle := Dialect.other "oracle"
    Expr.empty.toSql oracle none = .error (.dialect (.unknown "oracle")) ∧
      a.windowFunction Sample.window .firstValue [a.expr] .int64 oracle =
        .error (.dialect (.unknown "oracle")) ∧
      a.windowFunction Sample.window .rank [] .int64 oracle =
        .error (.dialect (.unknown "oracle")) := by
  intro a oracle
  obtain ⟨-, hrender, hcalls⟩ := refused_in_unknown_dialect (d := oracle) (by decide) (by decide)
  obtain ⟨_, _, _, _, _, hfirst⟩ := hcalls Sample.window .firstValue [a.expr]
  obtain ⟨_, _, _, _, _, hrank⟩ := hcalls Sample.window .rank []
  exact ⟨hrender .empty none, hfirst a .int64 Sample.relation_of_window,
    hrank a .int64 Sample.relation_of_window⟩

/-- Without a frame, a first value goes through in a dialect that a rank is refused in, and the call
over the window goes through with both. -/
theorem firstValue_in_unknown_dialect :
    let a := Sample.series Sample.relation "a"
    let b := Sample.series Sample.relation "b"
    let w := { Sample.ordered with columns := [("b", b)] }
    let oracle := Dialect.other "oracle"
    Window.make [b] [⟨a.expr, true⟩] ⟨some .rows, none, none⟩ none = .ok w ∧
      (a.windowFunction w .firstValue [a.expr] .int64 oracle).isOk = true ∧
      a.windowFunction w .rank [] .int64 oracle = .error (.dialect (.unknown "oracle")) ∧
      (w.applyFor .firstValue [a.expr] oracle).isOk = true ∧
      (w.applyFor .rank [] oracle).isOk = true := by
  decide +kernel

end Series

end QueryFrame
