import QueryFrame.Error.Wording
import QueryFrame.Proofs.Outcome
import QueryFrame.Window.Frame

/-!
# The rules for frames

There are eight rules for frames. `FrameRule.Broken` says when a frame breaks one, by looking at its
mode and bounds alone, and `FrameRule.all` is the order in which they are applied.

The check of a frame is these rules, one after the other (`FrameRule.Reports.step`), but for the
last two. Whether the current row has an offset is seen when a bound is written, and bounds are
written in two places: in the clause of a frame, and in the report of a frame that starts after its
end. Either way the offset is reported (`FrameRule.reports_clause`). So a frame means something if
it keeps all rules, and otherwise the first that it breaks is reported (`FrameRule.reports_check`).
-/

namespace QueryFrame

/-! ## Bounds -/

namespace Bound

/-- A bound lies after another one if it is on a later side of the current row, or on the same side
and further on. -/
def After (start stop : Bound) : Prop :=
  stop.boundary.rank < start.boundary.rank ∨
    (start.boundary = .preceding ∧ stop.boundary = .preceding ∧
      ∃ first ∈ start.offset, ∃ last ∈ stop.offset, first < last) ∨
    (start.boundary = .following ∧ stop.boundary = .following ∧
      ∃ first ∈ start.offset, ∃ last ∈ stop.offset, last < first)

instance (start stop : Bound) : Decidable (start.After stop) :=
  inferInstanceAs (Decidable (_ ∨ _ ∨ _))

theorem isAfter_iff (start stop : Bound) : start.isAfter stop = true ↔ start.After stop := by
  obtain ⟨side, first⟩ := start
  obtain ⟨side', last⟩ := stop
  cases side <;> cases side' <;> cases first <;> cases last <;>
    simp [isAfter, After, Boundary.rank]

/-- Whether the bound is the current row, but with an offset. -/
def Misplaced (bound : Bound) : Prop :=
  bound.boundary = .currentRow ∧ bound.offset ≠ none

instance (bound : Bound) : Decidable bound.Misplaced :=
  inferInstanceAs (Decidable (_ ∧ _))

/-- The current row with an offset has no clause. -/
theorem clause_of_misplaced {bound : Bound} (h : bound.Misplaced) :
    ∃ offset, bound.clause = .error (.frame (.offsetOnCurrentRow offset)) := by
  obtain ⟨side, offset⟩ := bound
  obtain ⟨hside, hoffset⟩ := h
  cases hside
  cases offset with
  | none => exact absurd rfl hoffset
  | some offset => exact ⟨offset, rfl⟩

/-- Every other bound has one. -/
theorem exists_clause {bound : Bound} (h : ¬ bound.Misplaced) :
    ∃ text, bound.clause = .ok text := by
  obtain ⟨side, offset⟩ := bound
  cases side with
  | currentRow =>
    cases offset with
    | none => exact ⟨_, rfl⟩
    | some offset => exact absurd ⟨rfl, Option.some_ne_none _⟩ h
  | preceding | following => cases offset <;> exact ⟨_, rfl⟩

end Bound

/-- Whether there is a bound on that side without an offset. -/
theorem Bound.eq_some_unbounded_iff {given : Option Bound} {side : Boundary} :
    given = some ⟨side, none⟩ ↔ ∃ bound ∈ given, bound.boundary = side ∧ bound.offset = none := by
  constructor
  · rintro rfl
    exact ⟨_, rfl, rfl, rfl⟩
  · rintro ⟨⟨_, _⟩, rfl, rfl, rfl⟩
    rfl

/-- The bounds of a frame, the start first. -/
def Frame.bounds (frame : Frame) : List Bound :=
  frame.start.toList ++ frame.stop.toList

theorem Frame.mem_offsets {frame : Frame} {offset : Int64} :
    offset ∈ frame.offsets ↔ ∃ bound ∈ frame.bounds, offset ∈ bound.offset := by
  obtain ⟨mode, start, stop⟩ := frame
  cases start <;> cases stop <;> simp [offsets, bounds]

theorem Frame.offsets_isEmpty_iff {frame : Frame} :
    frame.offsets.isEmpty = false ↔ ∃ bound ∈ frame.bounds, bound.offset ≠ none := by
  rw [List.isEmpty_eq_false_iff_exists_mem]
  simp only [mem_offsets, Option.ne_none_iff_exists, Option.mem_def, eq_comm]
  constructor
  · rintro ⟨offset, bound, hbound, hoffset⟩
    exact ⟨bound, hbound, offset, hoffset⟩
  · rintro ⟨bound, hbound, offset, hoffset⟩
    exact ⟨offset, bound, hbound, hoffset⟩

/-! ## Rules -/

/-- The rules for frames. -/
inductive FrameRule where
  /-- a mode is given -/
  | hasMode
  /-- an end comes with a start -/
  | hasStart
  /-- a following start says how far it is -/
  | reachableStart
  /-- a preceding end says how far it is -/
  | reachableStop
  /-- no offset is below zero -/
  | nonnegative
  /-- offsets count rows -/
  | countsRows
  /-- the current row has no offset -/
  | bareCurrentRow
  /-- the start does not lie after the end -/
  | ordered
  deriving DecidableEq

namespace FrameRule

/-- All rules, in the order in which they are applied. -/
def all : List FrameRule :=
  [.hasMode, .hasStart, .reachableStart, .reachableStop, .nonnegative, .countsRows,
    .bareCurrentRow, .ordered]

theorem mem_all (rule : FrameRule) : rule ∈ all := by
  cases rule <;> decide

/-- The code under which a broken rule is reported. -/
def code : FrameRule → String
  | .hasMode => "WINDOW_001"
  | .hasStart => "WINDOW_002"
  | .reachableStart => "WINDOW_003"
  | .reachableStop => "WINDOW_004"
  | .nonnegative => "WINDOW_005"
  | .countsRows => "WINDOW_006"
  | .bareCurrentRow => "WINDOW_008"
  | .ordered => "WINDOW_007"

theorem code_injective : Function.Injective code := by
  have hall : ∀ rule ∈ all, ∀ other ∈ all, rule.code = other.code → rule = other := by decide
  exact fun rule other => hall rule rule.mem_all other other.mem_all

/-- Whether a frame breaks a rule. -/
def Broken (frame : Frame) : FrameRule → Prop
  | .hasMode => frame.mode = none
  | .hasStart => frame.start = none ∧ frame.stop ≠ none
  | .reachableStart => ∃ start ∈ frame.start, start.boundary = .following ∧ start.offset = none
  | .reachableStop => ∃ stop ∈ frame.stop, stop.boundary = .preceding ∧ stop.offset = none
  | .nonnegative => ∃ bound ∈ frame.bounds, ∃ offset ∈ bound.offset, offset < 0
  | .countsRows => frame.mode = some .range ∧ ∃ bound ∈ frame.bounds, bound.offset ≠ none
  | .bareCurrentRow => ∃ bound ∈ frame.bounds, bound.Misplaced
  | .ordered => ∃ start ∈ frame.start, ∃ stop ∈ frame.stop, start.After stop

instance (frame : Frame) : (rule : FrameRule) → Decidable (rule.Broken frame)
  | .hasMode => inferInstanceAs (Decidable (_ = _))
  | .hasStart => inferInstanceAs (Decidable (_ ∧ _))
  | .reachableStart | .reachableStop | .ordered => inferInstanceAs (Decidable (∃ _ ∈ _, _))
  | .nonnegative | .bareCurrentRow => inferInstanceAs (Decidable (∃ _ ∈ _, _))
  | .countsRows => inferInstanceAs (Decidable (_ ∧ ∃ _ ∈ _, _))

/-- The first of some rules that a frame breaks. -/
def firstOf? (frame : Frame) (rules : List FrameRule) : Option FrameRule :=
  rules.find? fun rule => rule.Broken frame

/-- The first rule that a frame breaks. -/
def firstBroken? (frame : Frame) : Option FrameRule :=
  firstOf? frame all

theorem firstBroken?_eq_none_iff {frame : Frame} :
    firstBroken? frame = none ↔ ∀ rule : FrameRule, ¬ rule.Broken frame := by
  rw [firstBroken?, firstOf?, List.find?_eq_none]
  refine ⟨fun h rule hrule => h rule rule.mem_all (decide_eq_true hrule), fun h rule _ hrule => ?_⟩
  exact h rule (of_decide_eq_true hrule)

theorem firstOf?_of_broken {frame : Frame} {rule : FrameRule} (h : rule.Broken frame)
    (rest : List FrameRule) : firstOf? frame (rule :: rest) = some rule :=
  List.find?_cons_of_pos (decide_eq_true h)

theorem firstOf?_of_kept {frame : Frame} {rule : FrameRule} (h : ¬ rule.Broken frame)
    (rest : List FrameRule) : firstOf? frame (rule :: rest) = firstOf? frame rest :=
  List.find?_cons_of_neg (mt of_decide_eq_true h)

/-! ## What is reported -/

/-- What is reported when that is the first broken rule, if there is one. -/
inductive Reports : Option FrameRule → Outcome (FrameMode × String) → Prop
  | accepted (checked : FrameMode × String) : Reports none (.ok checked)
  | refused {rule : FrameRule} {fault : FrameFault} (h : fault.code = rule.code) :
      Reports (some rule) (.error (.frame fault))

variable {frame : Frame} {rule : FrameRule} {rest : List FrameRule}

/-- One rule after the other: the checks go on where it is kept. -/
theorem Reports.step {condition : Prop} [Decidable condition] {fault : FrameFault}
    {next : Outcome (FrameMode × String)} (hiff : condition ↔ rule.Broken frame)
    (hcode : fault.code = rule.code)
    (hnext : ¬ rule.Broken frame → Reports (firstOf? frame rest) next) :
    Reports (firstOf? frame (rule :: rest))
      (if condition then .error (.frame fault) else next) := by
  split
  · next h =>
    rw [firstOf?_of_broken (hiff.mp h)]
    exact .refused hcode
  · next h =>
    rw [firstOf?_of_kept (mt hiff.mpr h)]
    exact hnext (mt hiff.mpr h)

/-- Where a bound is written, the current row must not have an offset. -/
theorem Reports.bound {bound : Bound} (hbound : bound ∈ frame.bounds)
    {f : String → Outcome (FrameMode × String)}
    (hnext : ∀ text, ¬ bound.Misplaced →
      Reports (firstOf? frame [.bareCurrentRow, .ordered]) (f text)) :
    Reports (firstOf? frame [.bareCurrentRow, .ordered]) (bound.clause >>= f) := by
  by_cases h : bound.Misplaced
  · obtain ⟨offset, hclause⟩ := Bound.clause_of_misplaced h
    have hbroken : FrameRule.bareCurrentRow.Broken frame := ⟨bound, hbound, h⟩
    rw [hclause, Outcome.error_bind, firstOf?_of_broken hbroken]
    exact .refused rfl
  · obtain ⟨text, hclause⟩ := Bound.exists_clause h
    rw [hclause, Outcome.ok_bind]
    exact hnext text h

/-- The last two rules are looked at together: a start after the end is reported with the clauses of
both bounds, so the current row must not have an offset there either. -/
theorem reports_clause (mode : FrameMode) (hstart : ¬ FrameRule.hasStart.Broken frame) :
    Reports (firstOf? frame [.bareCurrentRow, .ordered]) (do
      frame.checkOrder
      let clause ← frame.clause mode
      pure (mode, clause)) := by
  have hbare (h : ∀ bound ∈ frame.bounds, ¬ bound.Misplaced) :
      firstOf? frame [.bareCurrentRow, .ordered] = firstOf? frame [.ordered] := by
    refine firstOf?_of_kept ?_ _
    rintro ⟨bound, hbound, hmisplaced⟩
    exact h bound hbound hmisplaced
  obtain ⟨given, start, stop⟩ := frame
  cases start with
  | none =>
    cases stop with
    | none => exact .accepted (mode, "")
    | some stop => exact absurd ⟨rfl, Option.some_ne_none _⟩ hstart
  | some start =>
    cases stop with
    | none =>
      simp only [Frame.checkOrder, Frame.clause, Outcome.ok_bind, bind_assoc, pure_bind]
      refine .bound (List.mem_singleton_self _) fun first hfirst => ?_
      rw [hbare (List.forall_mem_singleton.mpr hfirst), firstOf?_of_kept]
      · exact .accepted _
      · rintro ⟨_, _, _, ⟨⟩, _⟩
    | some stop =>
      have hmem : ∀ bound ∈ [start, stop], bound ∈ Frame.bounds ⟨given, some start, some stop⟩ :=
        fun _ => id
      obtain ⟨hmemStart, hmemStop⟩ := List.forall_mem_cons.mp hmem
      rw [List.forall_mem_singleton] at hmemStop
      have hboth (hfirst : ¬ start.Misplaced) (hlast : ¬ stop.Misplaced) :=
        hbare (List.forall_mem_cons.mpr ⟨hfirst, List.forall_mem_singleton.mpr hlast⟩)
      by_cases hafter : start.After stop
      · have hordered : FrameRule.ordered.Broken ⟨given, some start, some stop⟩ :=
          ⟨start, rfl, stop, rfl, hafter⟩
        simp only [Frame.checkOrder, (start.isAfter_iff stop).mpr hafter, if_true, bind_assoc]
        refine .bound hmemStart fun first hfirst => .bound hmemStop fun last hlast => ?_
        rw [hboth hfirst hlast, firstOf?_of_broken hordered]
        exact .refused rfl
      · have hisAfter : start.isAfter stop = false :=
          Bool.eq_false_iff.mpr (mt (start.isAfter_iff stop).mp hafter)
        simp only [Frame.checkOrder, Frame.clause, hisAfter, Bool.false_eq_true, if_false,
          Outcome.ok_bind, bind_assoc, pure_bind]
        refine .bound hmemStart fun first hfirst => .bound hmemStop fun last hlast => ?_
        rw [hboth hfirst hlast, firstOf?_of_kept]
        · exact .accepted _
        · rintro ⟨_, ⟨⟩, _, ⟨⟩, h⟩
          exact hafter h

theorem hasStart_broken_iff (frame : Frame) :
    (frame.start.isNone && frame.stop.isSome) = true ↔ FrameRule.hasStart.Broken frame := by
  simp [Broken, Option.isSome_iff_ne_none]

/-- **Of the rules that a frame breaks, the first is reported.** -/
theorem reports_check (frame : Frame) : Reports (firstBroken? frame) frame.check := by
  rw [firstBroken?, all, Frame.check]
  cases hmode : frame.mode with
  | none =>
    have hbroken : FrameRule.hasMode.Broken frame := hmode
    rw [firstOf?_of_broken hbroken]
    exact .refused rfl
  | some mode =>
    have hkept : ¬ FrameRule.hasMode.Broken frame := fun h => by cases hmode.symm.trans h
    rw [firstOf?_of_kept hkept]
    refine .step (hasStart_broken_iff frame) rfl fun hstart => ?_
    refine .step Bound.eq_some_unbounded_iff rfl fun _ => ?_
    refine .step Bound.eq_some_unbounded_iff rfl fun _ => ?_
    split
    · next offset hfind =>
      obtain ⟨bound, hbound, hoffset⟩ := Frame.mem_offsets.mp (List.mem_of_find?_eq_some hfind)
      have hnegative := List.find?_some hfind
      rw [decide_eq_true_eq] at hnegative
      have hbroken : FrameRule.nonnegative.Broken frame :=
        ⟨bound, hbound, offset, hoffset, hnegative⟩
      rw [firstOf?_of_broken hbroken]
      exact .refused rfl
    · next hfind =>
      have hnonnegative : ¬ FrameRule.nonnegative.Broken frame := by
        rintro ⟨bound, hbound, offset, hoffset, hnegative⟩
        have hmem := Frame.mem_offsets.mpr ⟨bound, hbound, hoffset⟩
        exact List.find?_eq_none.mp hfind offset hmem (decide_eq_true hnegative)
      rw [firstOf?_of_kept hnonnegative]
      refine .step ?_ rfl fun _ => reports_clause mode hstart
      rw [Broken, hmode, Option.some_inj, ← Frame.offsets_isEmpty_iff]
      simp

theorem Reports.exists_ok_iff {first : Option FrameRule} {outcome : Outcome (FrameMode × String)}
    (h : Reports first outcome) : (∃ checked, outcome = .ok checked) ↔ first = none := by
  cases h with
  | accepted checked => exact iff_of_true ⟨checked, rfl⟩ rfl
  | refused => exact iff_of_false (by rintro ⟨_, ⟨⟩⟩) (by rintro ⟨⟩)

/-- No two rules have one code. -/
theorem Reports.eq_some_iff {first : Option FrameRule} {outcome : Outcome (FrameMode × String)}
    (h : Reports first outcome) :
    first = some rule ↔ ∃ fault, outcome = .error (.frame fault) ∧ fault.code = rule.code := by
  cases h with
  | accepted => exact iff_of_false (by rintro ⟨⟩) (by rintro ⟨_, ⟨⟩, _⟩)
  | @refused own fault hcode =>
    constructor
    · rintro ⟨⟩
      exact ⟨fault, rfl, hcode⟩
    · rintro ⟨_, ⟨⟩, hother⟩
      rw [code_injective (hcode.symm.trans hother)]

/-- **A frame means something exactly if it breaks no rule.** -/
theorem exists_check_iff (frame : Frame) :
    (∃ checked, frame.check = .ok checked) ↔ ∀ rule : FrameRule, ¬ rule.Broken frame := by
  rw [(reports_check frame).exists_ok_iff, firstBroken?_eq_none_iff]

end FrameRule

/-- What a frame is refused for is a fault of frames, and there is a rule that it breaks. -/
theorem Frame.firstBroken?_of_check {frame : Frame} {e : Error} (h : frame.check = .error e) :
    ∃ rule fault, FrameRule.firstBroken? frame = some rule ∧ e = .frame fault := by
  have hreports := FrameRule.reports_check frame
  rw [h] at hreports
  generalize FrameRule.firstBroken? frame = first at hreports
  cases hreports with
  | refused => exact ⟨_, _, rfl, rfl⟩

theorem Frame.fault_of_check {frame : Frame} {e : Error} (h : frame.check = .error e) :
    ∃ fault, e = .frame fault := by
  obtain ⟨-, fault, -, hfault⟩ := firstBroken?_of_check h
  exact ⟨fault, hfault⟩

end QueryFrame
