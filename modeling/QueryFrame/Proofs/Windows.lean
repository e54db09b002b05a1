import QueryFrame.Proofs.Rebinding
import QueryFrame.Proofs.Vocabulary
import QueryFrame.Sample

/-!
# Windows are formed again from what they show

A window keeps its frame twice, as bounds and as the text of its clause, and most operations on it
edit one part or another without checking anything. Still, a window that was formed once and then
changed in any way is `Window.Sound`:

* its columns are settled, so they pass the check for grouping again and stay as they are;
* its frame means something, and the clause is the text of it.

Every window starts so (`Window.sound_of_make`), and every change keeps it so (`Window.Sound.step`).
Nothing else goes into a window when it is formed, so whatever a sound window shows is enough to
form it again (`Window.Sound.make_eq`), and it takes the frames that any other window takes
(`Window.Sound.withFrame_eq`).
-/

namespace QueryFrame

namespace Frame

/-- Without bounds there is nothing to check and nothing to write. -/
theorem check_unframed (mode : FrameMode) : (unframed mode).check = .ok (mode, "") := by
  cases mode <;> rfl

/-- **Nothing is written for a frame exactly if it has no start.** -/
theorem clause_eq_empty_iff {frame : Frame} {mode : FrameMode} {text : String}
    (h : frame.clause mode = .ok text) : text = "" ↔ frame.start = none := by
  have hkeyword : mode.keyword.length ≠ 0 := by cases mode <;> decide
  have hne : ∀ {rest : String}, mode.keyword ++ rest ≠ "" := by
    intro rest hempty
    have hlength := congrArg String.length hempty
    rw [String.length_append, String.length_empty] at hlength
    omega
  rw [clause] at h
  split at h
  · next start hstart _ =>
    obtain ⟨first, -, h⟩ := Outcome.bind_eq_ok h
    rw [← Outcome.pure_eq_ok h, hstart, String.append_assoc]
    exact iff_of_false hne (Option.some_ne_none _)
  · next start stop hstart _ =>
    obtain ⟨first, -, h⟩ := Outcome.bind_eq_ok h
    obtain ⟨last, -, h⟩ := Outcome.bind_eq_ok h
    rw [← Outcome.pure_eq_ok h, hstart]
    simp only [String.append_assoc]
    exact iff_of_false hne (Option.some_ne_none _)
  · next hstart => exact iff_of_true (Except.ok.inj h).symm hstart

end Frame

namespace Window

/-- **Forming a window** over columns that can be grouped on: the frame decides. -/
theorem make_of_group {columns : List Series} {grouped : Columns}
    (hgroup : Columns.group columns = .ok grouped) (order : List SortKey) (frame : Frame)
    (minValues : Option UInt32) :
    make columns order frame minValues = frame.check.map fun checked =>
      ⟨grouped, ⟨order, checked.1, frame.start, frame.stop, minValues.getD 0, checked.2⟩⟩ := by
  rw [make, hgroup, Outcome.ok_bind]
  cases frame.check <;> rfl

/-- So windows over whatever columns take the same frames. -/
theorem exists_make_iff {columns : List Series} {grouped : Columns}
    (hgroup : Columns.group columns = .ok grouped) (order : List SortKey) (frame : Frame)
    (minValues : Option UInt32) :
    (∃ w, make columns order frame minValues = .ok w) ↔ ∃ checked, frame.check = .ok checked := by
  rw [make_of_group hgroup]
  constructor
  · rintro ⟨w, h⟩
    obtain ⟨checked, hchecked, -⟩ := Outcome.map_eq_ok h
    exact ⟨checked, hchecked⟩
  · rintro ⟨checked, hchecked⟩
    rw [hchecked]
    exact ⟨_, rfl⟩

/-! ## Changing a window -/

/-- One successful change of a window. -/
inductive Step (w : Window) : Window → Prop
  | withFrame {frame : Frame} {next : Window} (h : w.withFrame frame = .ok next) : Step w next
  | withMinValues (minValues : UInt32) : Step w (w.withMinValues minValues)
  | unframed : Step w w.unframed
  | rebind {relation : Relation} {next : Window}
      (h : w.partition.rebind relation = .ok next.partition) : Step w next

/-- What successful changes make of a window that was formed. -/
def Reachable (w : Window) : Prop :=
  ∃ columns order frame minValues start, make columns order frame minValues = .ok start ∧
    Relation.ReflTransGen Step start w

/-- The parts of a window fit together. -/
structure Sound (w : Window) : Prop where
  /-- the columns stay as they are when they are grouped on again -/
  columns : Columns.Settled w.columns
  /-- the frame means something, and this is its clause -/
  frame : w.spec.frame.check = .ok (w.spec.mode, w.spec.clause)

/-- A window that is formed has the frame that was asked for. -/
theorem frame_of_make {columns : List Series} {order : List SortKey} {frame : Frame}
    {minValues : Option UInt32} {w : Window} (h : make columns order frame minValues = .ok w) :
    w.spec.frame = frame := by
  obtain ⟨grouped, -, h⟩ := Outcome.bind_eq_ok h
  obtain ⟨⟨mode, clause⟩, hcheck, h⟩ := Outcome.bind_eq_ok h
  obtain rfl := Outcome.pure_eq_ok h
  rw [WindowSpec.frame, ← (Frame.check_eq_ok hcheck).1]

/-- A window starts sound. -/
theorem sound_of_make {columns : List Series} {order : List SortKey} {frame : Frame}
    {minValues : Option UInt32} {w : Window} (h : make columns order frame minValues = .ok w) :
    w.Sound := by
  obtain ⟨hgroup, -, hcheck⟩ := make_eq_ok h
  refine ⟨Columns.settled_of_group hgroup, ?_⟩
  rw [frame_of_make h, hcheck]

/-- Inversion for a window that is moved: its columns are grouped on again. -/
theorem rebind_eq_ok {w next : Window} {relation : Relation}
    (h : w.partition.rebind relation = .ok next.partition) :
    Columns.rebind relation w.columns = .ok next.columns ∧ next.spec = w.spec := by
  rw [partition, Partition.rebind] at h
  obtain ⟨columns, hcolumns, h⟩ := Outcome.bind_eq_ok h
  obtain ⟨rfl, hshape⟩ := Partition.mk.inj (Outcome.pure_eq_ok h)
  exact ⟨hcolumns, (Shape.window.inj hshape).symm⟩

/-- **A change leads from sound windows to sound ones.** -/
theorem Sound.step {w next : Window} (hw : w.Sound) (h : Step w next) : next.Sound := by
  cases h with
  | withFrame h => exact sound_of_make h
  | withMinValues minValues => exact ⟨hw.columns, hw.frame⟩
  | unframed => exact ⟨hw.columns, Frame.check_unframed w.spec.mode⟩
  | rebind h =>
    obtain ⟨hcolumns, hspec⟩ := rebind_eq_ok h
    refine ⟨Columns.settled_of_group hcolumns, ?_⟩
    rw [hspec]
    exact hw.frame

theorem Reachable.sound {w : Window} (h : w.Reachable) : w.Sound := by
  obtain ⟨columns, order, frame, minValues, start, hmake, hrun⟩ := h
  induction hrun with
  | refl => exact sound_of_make hmake
  | tail _ hstep ih => exact ih.step hstep

/-! ## What a sound window shows -/

/-- **A sound window is formed again from its parts.** -/
theorem Sound.make_eq {w : Window} (hw : w.Sound) :
    make (Keyed.values w.columns) w.spec.order w.spec.frame (some w.spec.minValues) = .ok w := by
  rw [make_of_group hw.columns, hw.frame]
  rfl

/-- **Another frame** is all that changes, besides that no least number of rows is left. -/
theorem Sound.withFrame_eq {w : Window} (hw : w.Sound) (frame : Frame) :
    w.withFrame frame = frame.check.map fun checked =>
      ⟨w.columns, ⟨w.spec.order, checked.1, frame.start, frame.stop, 0, checked.2⟩⟩ :=
  make_of_group hw.columns w.spec.order frame none

/-- **A window tells everything about itself.** However it was formed and changed, its clause is the
text of its frame, empty exactly if the frame has no start, and a window that is formed from its
columns, order, frame and least number of rows is the same window. It can have exactly those frames
that any window can have over columns that can be grouped on, and has the frame then, with its own
columns and order, and without a least number of rows. -/
theorem make_of_reachable {w : Window} (h : w.Reachable) :
    w.spec.frame.clause w.spec.mode = .ok w.spec.clause ∧
      (w.spec.clause = "" ↔ w.spec.frame.start = none) ∧
      make (Keyed.values w.columns) w.spec.order w.spec.frame (some w.spec.minValues) = .ok w ∧
      (∀ columns grouped, Columns.group columns = .ok grouped → ∀ order frame minValues,
        (∃ next, w.withFrame frame = .ok next) ↔
          ∃ other, make columns order frame minValues = .ok other) ∧
      ∀ frame next, w.withFrame frame = .ok next →
        next.columns = w.columns ∧ next.spec.order = w.spec.order ∧ next.spec.frame = frame ∧
          next.spec.minValues = 0 := by
  have hw := h.sound
  have hclause := (Frame.check_eq_ok hw.frame).2
  refine ⟨hclause, Frame.clause_eq_empty_iff hclause, hw.make_eq, ?_, fun frame next hnext => ?_⟩
  · intro columns grouped hgroup order frame minValues
    rw [exists_make_iff hgroup]
    exact exists_make_iff hw.columns w.spec.order frame none
  · have hframe := frame_of_make hnext
    rw [hw.withFrame_eq] at hnext
    obtain ⟨checked, -, rfl⟩ := Outcome.map_eq_ok hnext
    exact ⟨rfl, rfl, hframe, rfl⟩

/-- A window that was moved to another relation and given another least number of rows. It takes the
frame of all rows up to the third one after the current one, and no frame that starts there. -/
theorem make_of_reachable_moved :
    let b := Sample.series (.ofName "other") "b"
    let w : Window := withMinValues { Sample.window with columns := [("b", b)] } 7
    let frame : Frame := .rows .unboundedPreceding (.following 3)
    w.Reachable ∧ w ≠ Sample.window ∧ w.spec.clause ≠ "" ∧
      make [b] w.spec.order (.rows (.preceding 1) .currentRow) (some 7) = .ok w ∧
      ((∃ next, w.withFrame frame = .ok next) ↔ ∃ other, make [] [] frame none = .ok other) ∧
      w.withFrame frame = .ok ⟨w.columns, ⟨w.spec.order, .rows, some .unboundedPreceding,
        some (.following 3), 0, "ROWS BETWEEN UNBOUNDED PRECEDING AND 3 FOLLOWING"⟩⟩ ∧
      w.withFrame (.rows (.following 3) .currentRow) =
        .error (.frame (.inverted "3 FOLLOWING" "CURRENT ROW")) := by
  intro b w frame
  have hstart : make [Sample.series Sample.relation "b"] Sample.window.spec.order
      Sample.window.spec.frame (some 2) = .ok Sample.window := by decide +kernel
  have hmoved : Sample.window.partition.rebind (.ofName "other") =
      .ok (Window.partition { Sample.window with columns := [("b", b)] }) := by decide +kernel
  have hreach : w.Reachable := ⟨_, _, _, _, _, hstart,
    .tail (.single (.rebind hmoved)) (.withMinValues 7)⟩
  obtain ⟨-, hclause, hmake, haccepts, -⟩ := make_of_reachable hreach
  refine ⟨hreach, by decide +kernel, ?_, hmake, haccepts [] [] rfl [] frame none,
    by decide +kernel, by decide +kernel⟩
  rw [ne_eq, hclause]
  exact Option.some_ne_none _

end Window

end QueryFrame
