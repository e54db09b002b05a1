import QueryFrame.Proofs.Parts
import QueryFrame.Sample

/-!
# What the guard of a window counts

A window with a least number of rows puts a guard around every call: the value is missing where the
frame holds fewer rows. The guard counts over a clause of its own. A row is suppressed exactly when
its frame in the window is too small if, and only if, that clause is the clause of the window
(`Guard.suppresses_iff`).

It is, for all functions in a row store, for navigation functions everywhere, and for windows
without a frame. A numbering function in a columnar engine loses the frame of its window, and the
guard loses it too. It then counts the rows of the frame that the engine takes by default
(`Series.guard_of_windowFunction`).
-/

namespace QueryFrame

/-- A call that gives a value only where a frame holds enough rows. -/
structure Guard where
  /-- the clause whose frame is counted -/
  counted : Expr
  /-- the least number of rows -/
  least : UInt32
  /-- the call -/
  call : Expr

namespace Guard

/-- The expression of a guarded call. The call is made over the clause that is counted. -/
def expr (g : Guard) : Outcome Expr :=
  Expr.construct .window (Window.guardTemplate g.least) [g.counted, g.call, g.counted]

/-- Whether the value is missing at a row, if `rows` says how many rows the frame of a clause holds
there. -/
def Suppresses (g : Guard) (rows : Expr → Nat) : Prop :=
  rows g.counted < g.least.toNat

/-- **A guard suppresses by the frame of a clause** if it counts over that clause. Counting over
another one, it goes wrong at a row where the two frames differ. -/
theorem suppresses_iff {g : Guard} (hleast : g.least ≠ 0) (clause : Expr) :
    (∀ rows, g.Suppresses rows ↔ rows clause < g.least.toNat) ↔ g.counted = clause := by
  have hpos : 0 < g.least.toNat := by
    rw [Nat.pos_iff_ne_zero, ne_eq, ← UInt32.toNat_zero, UInt32.toNat_inj]
    exact hleast
  constructor
  · intro h
    by_contra hne
    -- the frame of the clause is empty at this row, and that of the guard is not
    have hrows := h fun e => if e = clause then 0 else g.least.toNat
    simp only [Suppresses, if_neg hne, if_true, lt_self_iff_false, false_iff] at hrows
    exact hrows hpos
  · rintro rfl rows
    exact Iff.rfl

end Guard

namespace Window

/-- Without its frame a window has another clause, unless it had no frame. -/
theorem over_unframed_iff {w : Window} {own bare : Expr} (hown : w.over = .ok own)
    (hbare : w.unframed.over = .ok bare) : bare = own ↔ w.spec.clause = "" := by
  constructor
  · rintro rfl
    obtain ⟨inner, columns, order, hcolumns, horder, hinner, hparts⟩ := parts_of_over hown
    obtain ⟨inner', columns', order', hcolumns', horder', hinner', hparts'⟩ := parts_of_over hbare
    obtain rfl : columns = columns' := Except.ok.inj (hcolumns.symm.trans hcolumns')
    obtain rfl : order = order' := Except.ok.inj (horder.symm.trans horder')
    obtain rfl : inner = inner' := List.singleton_inj.mp (hinner.symm.trans hinner')
    have hframe : w.framePart = [] := List.append_cancel_left (hparts.symm.trans hparts')
    rw [framePart] at hframe
    split at hframe
    · next hempty => exact String.isEmpty_iff.mp hempty
    · cases hframe
  · intro hclause
    have hsame : w.unframed.over = w.over := by
      have hframe : w.framePart = [] := by rw [framePart, hclause]; rfl
      rw [«over», «over», hframe]
      rfl
    rw [hsame, hown] at hbare
    exact (Except.ok.inj hbare).symm

/-- Inversion for a call over a window with a least number of rows. -/
theorem guard_of_apply {w : Window} {call e : Expr} (hleast : w.spec.minValues ≠ 0)
    (h : w.apply call = .ok e) :
    ∃ clause, w.over = .ok clause ∧ (Guard.mk clause w.spec.minValues call).expr = .ok e := by
  obtain ⟨clause, hclause, h⟩ := Outcome.bind_eq_ok h
  rw [if_neg hleast] at h
  exact ⟨clause, hclause, h⟩

end Window

namespace Series

/-- **What a guard counts.** In either family of engines, a function over a window with a least
number of rows is guarded. The guard counts over the clause of the window, and so suppresses a row
exactly when its frame in the window holds too few, for functions that keep the frame and for
windows that have none. Otherwise it counts over the clause without the frame. -/
theorem guard_of_windowFunction {s next : Series} {w : Window} {f : WindowFunction}
    {args : List Expr} {dtype : DataType} {d : Dialect} {family : Family}
    (hd : d.family = .ok family) (hleast : w.spec.minValues ≠ 0)
    (h : s.windowFunction w f args dtype d = .ok next) :
    ∃ (g : Guard) (own : Expr), g.expr = .ok next.expr ∧ f.call args = .ok g.call ∧
      g.least = w.spec.minValues ∧ w.over = .ok own ∧
      (g.counted = own ∨ w.unframed.over = .ok g.counted) ∧
      (g.counted = own ↔
        family = .rowStore ∨ f.family = .navigation ∨ w.spec.clause = "") ∧
      ((∀ rows, g.Suppresses rows ↔ rows own < w.spec.minValues.toNat) ↔
        family = .rowStore ∨ f.family = .navigation ∨ w.spec.clause = "") := by
  rw [windowFunction_eq hd] at h
  obtain ⟨-, -, h⟩ := Outcome.bind_eq_ok h
  obtain ⟨call, hcall, h⟩ := Outcome.bind_eq_ok h
  obtain ⟨expr, happly, h⟩ := Outcome.bind_eq_ok h
  obtain rfl := Outcome.pure_eq_ok h
  obtain ⟨own, hown⟩ := w.exists_over
  have hkeeps : f.keepsFrame family = true ↔ family = .rowStore ∨ f.family = .navigation := by
    rw [WindowFunction.keepsFrame, Bool.or_eq_true, decide_eq_true_iff, decide_eq_true_iff]
  -- the clause of the guard, and when it is the window's own
  obtain ⟨counted, hguard, hcounted, hiff⟩ : ∃ counted,
      (Guard.mk counted w.spec.minValues call).expr = .ok expr ∧
      (counted = own ∨ w.unframed.over = .ok counted) ∧
      (counted = own ↔ f.keepsFrame family = true ∨ w.spec.clause = "") := by
    split at happly
    · next hkept =>
      obtain ⟨clause, hclause, hguard⟩ := Window.guard_of_apply hleast happly
      obtain rfl : own = clause := Except.ok.inj (hown.symm.trans hclause)
      exact ⟨own, hguard, .inl rfl, iff_of_true rfl (.inl hkept)⟩
    · next hlost =>
      obtain ⟨clause, hclause, hguard⟩ := Window.guard_of_apply (w := w.unframed) hleast happly
      refine ⟨clause, hguard, .inr hclause, ?_⟩
      rw [Window.over_unframed_iff hown hclause, or_iff_right hlost]
  rw [hkeeps, or_assoc] at hiff
  refine ⟨⟨counted, w.spec.minValues, call⟩, own, hguard, hcall, rfl, hown, hcounted, hiff, ?_⟩
  rw [← hiff]
  exact Guard.suppresses_iff hleast own

/-- A value of the row before, in an engine that stores columns: its guard counts what it should. -/
theorem guard_of_windowFunction_lag :
    let a := Sample.series Sample.relation "a"
    let w := Sample.window
    ∃ (next : Series) (g : Guard) (own : Expr),
      Window.make [Sample.series Sample.relation "b"] w.spec.order w.spec.frame (some 2) = .ok w ∧
      a.windowFunction w .lag [a.expr] .int64 .bigQuery = .ok next ∧
      g.expr = .ok next.expr ∧ w.over = .ok own ∧ g.counted = own ∧
      ∀ rows, g.Suppresses rows ↔ rows own < 2 := by
  intro a w
  have hrelation : a.checkRelation w.columns = .ok () := by decide +kernel
  obtain ⟨next, hnext⟩ := exists_windowFunction rfl hrelation .lag [a.expr] .int64 (d := .bigQuery)
  obtain ⟨g, own, hexpr, -, -, hown, -, hcounted, hsuppresses⟩ :=
    guard_of_windowFunction rfl (by decide) hnext
  exact ⟨next, g, own, by decide +kernel, hnext, hexpr, hown, hcounted.mpr (.inr (.inl rfl)),
    hsuppresses.mpr (.inr (.inl rfl))⟩

/-- A rank over the same window in the same engine. Nothing is left of the frame in the guard, so a
row whose frame holds less than two rows can have a rank. -/
theorem guard_counts_without_frame :
    let a := Sample.series Sample.relation "a"
    let w := Sample.window
    let inner : List Token :=
      [.nested .regular [.raw "partition by ", (Expr.column "b").token], .raw " ",
        .nested .regular [.raw "order by ", (Expr.column "a").token, .raw " asc"]]
    let bare : Expr := ⟨.regular, [.raw "over (", .nested .regular inner, .raw ")"]⟩
    let own : Expr := ⟨.regular, [.raw "over (",
      .nested .regular (inner ++ [.raw " ", (Expr.raw w.spec.clause).token]), .raw ")"]⟩
    let rank : Expr := ⟨.regular, [.raw "rank()"]⟩
    let next := a.computed ⟨.window, [.raw "case when (count(1) ", bare.token,
      .raw ") >= 2 then ", rank.token, .raw " ", bare.token, .raw " else NULL end"]⟩ .int64
    a.windowFunction w .rank [] .int64 .bigQuery = .ok next ∧ w.over = .ok own ∧
      (Guard.mk bare 2 rank).expr = .ok next.expr ∧
      (∀ g : Guard, g.expr = .ok next.expr → g.counted ≠ own) ∧
      ∃ rows, rows own < 2 ∧ ¬ (Guard.mk bare 2 rank).Suppresses rows := by
  intro a w inner bare own rank next
  have hne : bare ≠ own := by decide +kernel
  refine ⟨by decide +kernel, by decide +kernel, by decide +kernel, ?_, ?_⟩
  · intro g hg
    have hcounted : [bare, rank, bare] = [g.counted, g.call, g.counted] :=
      Expr.parts_of_construct hg
    rwa [← (List.cons.inj hcounted).1]
  · refine ⟨fun e => if e = own then 0 else 2, ?_, ?_⟩
    · simp
    · simp [Guard.Suppresses, hne]

end Series

end QueryFrame
