import QueryFrame.Proofs.Comparands
import QueryFrame.Proofs.FrameRules
import QueryFrame.Proofs.Windows

/-!
# Frames can be read back from their clauses

The clause of a frame is made of words with blanks between them (`Frame.clause_of_writable`). A
bound is two words, whatever it is: how far from the current row and on which side, or the two words
for the current row itself. So there are three words if the frame has no end and seven if it has
one, and each word has its place.

`Frame.ofClause?` is a reader of such texts. It reads the clauses of frames that have a start, each
as its frame, and no other text (`Frame.ofClause?_eq_some_iff`). So the frame of a window can be
read from its clause (`Window.Sound.ofClause?_clause`), and two windows with one clause have the
same frame (`Window.frame_determined_by_clause`).
-/

namespace QueryFrame

open Number

/-! ## Words -/

/-- The words of a text, which stand between blanks. -/
def Text.words (text : String) : List String :=
  (text.toList.splitOn ' ').map String.ofList

/-- A text is its words with blanks between them. -/
theorem Text.intercalate_words (text : String) : " ".intercalate (Text.words text) = text := by
  have hback : String.toList ∘ String.ofList = id := funext fun _ => String.toList_ofList
  rw [← String.toList_inj, String.toList_intercalate, Text.words, List.map_map, hback, List.map_id]
  exact List.intercalate_splitOn ' '

/-- Words that are put together with blanks are found again. -/
theorem Text.words_intercalate {words : List String} (hblank : ∀ word ∈ words, ' ' ∉ word.toList)
    (hne : words ≠ []) : Text.words (" ".intercalate words) = words := by
  have hsplit : List.splitOn ' ' (" ".toList.intercalate (words.map String.toList)) =
      words.map String.toList :=
    List.splitOn_intercalate ' ' (List.forall_mem_map.mpr hblank) (by simpa using hne)
  have hback : String.ofList ∘ String.toList = id := funext fun _ => String.ofList_toList
  rw [Text.words, String.toList_intercalate, hsplit, List.map_map, hback, List.map_id]

/-- The mode with that keyword. -/
def FrameMode.ofKeyword? : String → Option FrameMode
  | "ROWS" => some .rows
  | "RANGE" => some .range
  | _ => none

theorem FrameMode.ofKeyword?_eq_some_iff {word : String} {mode : FrameMode} :
    ofKeyword? word = some mode ↔ mode.keyword = word := by
  constructor
  · unfold ofKeyword?
    split <;> rintro ⟨⟩ <;> rfl
  · rintro rfl
    cases mode <;> rfl

/-! ## Bounds -/

namespace Bound

/-- The word that says how far a bound is from the current row. -/
def farWord : Option Int64 → String
  | none => "UNBOUNDED"
  | some offset => Decimal.ofInt offset.toInt

/-- The two words of a bound. -/
def words : Bound → String × String
  | ⟨.currentRow, _⟩ => ("CURRENT", "ROW")
  | ⟨side, offset⟩ => (farWord offset, side.keyword)

/-- The clause of a bound is its words. The current row with an offset has none. -/
theorem clause_eq_ok_iff {bound : Bound} {text : String} : bound.clause = .ok text ↔
    ¬ bound.Misplaced ∧ bound.words.1 ++ " " ++ bound.words.2 = text := by
  have hwords {own : String} (h : bound.clause = .ok own) :
      bound.words.1 ++ " " ++ bound.words.2 = own := by
    obtain ⟨side, offset⟩ := bound
    cases side <;> cases offset <;> cases h <;> rfl
  constructor
  · refine fun h => ⟨fun hmisplaced => ?_, hwords h⟩
    obtain ⟨offset, hclause⟩ := clause_of_misplaced hmisplaced
    cases hclause.symm.trans h
  · rintro ⟨hkept, rfl⟩
    obtain ⟨own, hown⟩ := exists_clause hkept
    rw [hown, hwords hown]

/-- There are no blanks in a bound but the one between its words. -/
theorem blank_not_mem_words (bound : Bound) :
    ' ' ∉ bound.words.1.toList ∧ ' ' ∉ bound.words.2.toList := by
  have hfar (offset : Option Int64) : ' ' ∉ (farWord offset).toList := by
    cases offset with
    | none => decide
    | some offset =>
      rw [farWord, Decimal.ofInt, String.toList_ofList]
      exact fun hmem => absurd (isNumeral_of_mem_signed hmem) (by decide)
  have hside : ∀ side : Boundary, side ≠ .currentRow → ' ' ∉ side.keyword.toList := by
    intro side
    cases side <;> decide
  obtain ⟨side, offset⟩ := bound
  cases side with
  | currentRow => exact (by decide : ' ' ∉ "CURRENT".toList ∧ ' ' ∉ "ROW".toList)
  | preceding | following => exact ⟨hfar offset, hside _ (by rintro ⟨⟩)⟩

/-- How far from the current row a bound is, according to that word. -/
def readFar (word : String) : Option (Option Int64) :=
  if word = "UNBOUNDED" then some none
  else do
    let (n, _) ← readInt word.toList
    if farWord (some (.ofInt n)) = word then some (some (.ofInt n)) else none

theorem readFar_eq_some_iff {word : String} {offset : Option Int64} :
    readFar word = some offset ↔ farWord offset = word := by
  constructor
  · rw [readFar]
    split
    · next hword =>
      rintro ⟨⟩
      exact hword.symm
    · intro h
      obtain ⟨⟨n, rest⟩, -, h⟩ := Option.bind_eq_some_iff.mp h
      dsimp only at h
      split at h
      · next hword =>
        cases h
        exact hword
      · cases h
  · rintro rfl
    cases offset with
    | none => rfl
    | some offset =>
      have hread : readInt (farWord (some offset)).toList = some (offset.toInt, []) := by
        have hsigned := readInt_signed offset.toInt (show Closes [] by rintro _ ⟨⟩)
        rw [List.append_nil] at hsigned
        rw [farWord, Decimal.ofInt, String.toList_ofList, hsigned]
      -- the word for unbounded is no number
      have hword : farWord (some offset) ≠ "UNBOUNDED" := by
        intro hword
        rw [hword] at hread
        cases hread
      rw [readFar, if_neg hword, hread]
      simp

/-- The bound with these two words. -/
def ofWords? (far : String) : String → Option Bound
  | "PRECEDING" => (readFar far).map fun offset => ⟨.preceding, offset⟩
  | "FOLLOWING" => (readFar far).map fun offset => ⟨.following, offset⟩
  | "ROW" => if far = "CURRENT" then some .currentRow else none
  | _ => none

/-- **A bound is read from its words**, unless it is the current row with an offset. -/
theorem ofWords?_eq_some_iff {far side : String} {bound : Bound} :
    ofWords? far side = some bound ↔ ¬ bound.Misplaced ∧ bound.words = (far, side) := by
  constructor
  · intro h
    unfold ofWords? at h
    split at h
    · obtain ⟨offset, hoffset, rfl⟩ := Option.map_eq_some_iff.mp h
      obtain rfl := readFar_eq_some_iff.mp hoffset
      exact ⟨by rintro ⟨⟨⟩, -⟩, rfl⟩
    · obtain ⟨offset, hoffset, rfl⟩ := Option.map_eq_some_iff.mp h
      obtain rfl := readFar_eq_some_iff.mp hoffset
      exact ⟨by rintro ⟨⟨⟩, -⟩, rfl⟩
    · split at h
      · next hfar =>
        cases h
        exact ⟨fun h => h.2 rfl, by rw [hfar]; rfl⟩
      · cases h
    · cases h
  · rintro ⟨hkept, hwords⟩
    obtain ⟨side, offset⟩ := bound
    cases side with
    | currentRow =>
      cases offset with
      | none =>
        cases hwords
        rfl
      | some offset => exact absurd ⟨rfl, Option.some_ne_none _⟩ hkept
    | preceding | following =>
      cases hwords
      change (readFar (farWord offset)).map _ = _
      rw [readFar_eq_some_iff.mpr rfl, Option.map_some]

end Bound

/-! ## Frames -/

namespace Frame

/-- The words of the clause of a frame with a start. -/
def words (mode : FrameMode) (start : Bound) : Option Bound → List String
  | none => [mode.keyword, start.words.1, start.words.2]
  | some stop => [mode.keyword, "BETWEEN", start.words.1, start.words.2, "AND", stop.words.1,
      stop.words.2]

/-- The frame with these words. -/
def ofWords? : List String → Option Frame
  | [mode, far, side] => do
    let mode ← FrameMode.ofKeyword? mode
    let start ← Bound.ofWords? far side
    some ⟨some mode, some start, none⟩
  | [mode, "BETWEEN", far, side, "AND", far', side'] => do
    let mode ← FrameMode.ofKeyword? mode
    let start ← Bound.ofWords? far side
    let stop ← Bound.ofWords? far' side'
    some ⟨some mode, some start, some stop⟩
  | _ => none

/-- The frame with that clause. -/
def ofClause? (text : String) : Option Frame :=
  ofWords? (Text.words text)

/-- There are no blanks in the words of a clause. -/
theorem blank_not_mem_words (mode : FrameMode) (start : Bound) (stop : Option Bound) :
    ∀ word ∈ words mode start stop, ' ' ∉ word.toList := by
  have hmode : ' ' ∉ mode.keyword.toList := by cases mode <;> decide
  obtain ⟨hfar, hside⟩ := start.blank_not_mem_words
  cases stop with
  | none => simp [words, hmode, hfar, hside]
  | some stop =>
    obtain ⟨hfar', hside'⟩ := stop.blank_not_mem_words
    simp [words, hmode, hfar, hside, hfar', hside']

variable {frame : Frame} {mode : FrameMode} {start : Bound} {text : String}

/-- Whether no bound is the current row with an offset. -/
def Writable (start : Bound) (stop : Option Bound) : Prop :=
  ¬ start.Misplaced ∧ ∀ bound ∈ stop, ¬ bound.Misplaced

/-- Bounds that can be written are, with blanks between the words. -/
theorem clause_of_writable {stop : Option Bound} (h : Writable start stop)
    (given : Option FrameMode) (mode : FrameMode) :
    clause ⟨given, some start, stop⟩ mode = .ok (" ".intercalate (words mode start stop)) := by
  have hfirst := Bound.clause_eq_ok_iff.mpr ⟨h.1, rfl⟩
  cases stop with
  | none =>
    simp only [clause, hfirst, Outcome.ok_bind]
    simp only [words, String.intercalate_cons_cons, String.intercalate_singleton,
      String.append_assoc]
    rfl
  | some stop =>
    have hlast := Bound.clause_eq_ok_iff.mpr ⟨h.2 stop rfl, rfl⟩
    -- the keywords between the bounds are written with their blanks
    have hbetween : " BETWEEN " = " " ++ "BETWEEN" ++ " " := rfl
    have hand : " AND " = " " ++ "AND" ++ " " := rfl
    simp only [clause, hfirst, hlast, Outcome.ok_bind]
    rw [hbetween, hand]
    simp only [words, String.intercalate_cons_cons, String.intercalate_singleton,
      String.append_assoc]
    rfl

/-- And no others. -/
theorem writable_of_clause {given : Option FrameMode} {stop : Option Bound}
    (h : clause ⟨given, some start, stop⟩ mode = .ok text) : Writable start stop := by
  cases stop with
  | none =>
    obtain ⟨first, hfirst, -⟩ := Outcome.bind_eq_ok h
    exact ⟨(Bound.clause_eq_ok_iff.mp hfirst).1, by rintro _ ⟨⟩⟩
  | some stop =>
    obtain ⟨first, hfirst, h⟩ := Outcome.bind_eq_ok h
    obtain ⟨last, hlast, -⟩ := Outcome.bind_eq_ok h
    refine ⟨(Bound.clause_eq_ok_iff.mp hfirst).1, ?_⟩
    rintro _ ⟨⟩
    exact (Bound.clause_eq_ok_iff.mp hlast).1

/-- **A frame is read from its words**, and from no others. -/
theorem ofWords?_eq_some_iff {list : List String} :
    ofWords? list = some frame ↔ ∃ mode start stop, frame = ⟨some mode, some start, stop⟩ ∧
      Writable start stop ∧ words mode start stop = list := by
  constructor
  · intro h
    -- three words, seven words, or any other number
    unfold ofWords? at h
    split at h
    · obtain ⟨mode, hmode, h⟩ := Option.bind_eq_some_iff.mp h
      obtain ⟨start, hstart, h⟩ := Option.bind_eq_some_iff.mp h
      obtain ⟨hkept, hwords⟩ := Bound.ofWords?_eq_some_iff.mp hstart
      cases h
      refine ⟨mode, start, none, rfl, ⟨hkept, by rintro _ ⟨⟩⟩, ?_⟩
      rw [words, FrameMode.ofKeyword?_eq_some_iff.mp hmode, hwords]
    · obtain ⟨mode, hmode, h⟩ := Option.bind_eq_some_iff.mp h
      obtain ⟨start, hstart, h⟩ := Option.bind_eq_some_iff.mp h
      obtain ⟨stop, hstop, h⟩ := Option.bind_eq_some_iff.mp h
      obtain ⟨hkept, hwords⟩ := Bound.ofWords?_eq_some_iff.mp hstart
      obtain ⟨hkept', hwords'⟩ := Bound.ofWords?_eq_some_iff.mp hstop
      cases h
      refine ⟨mode, start, some stop, rfl, ⟨hkept, by rintro _ ⟨⟩; exact hkept'⟩, ?_⟩
      rw [words, FrameMode.ofKeyword?_eq_some_iff.mp hmode, hwords, hwords']
    · cases h
  · rintro ⟨mode, start, stop, rfl, hkept, rfl⟩
    have hmode := FrameMode.ofKeyword?_eq_some_iff.mpr (Eq.refl mode.keyword)
    have hbound {bound : Bound} (h : ¬ bound.Misplaced) :
        Bound.ofWords? bound.words.1 bound.words.2 = some bound :=
      Bound.ofWords?_eq_some_iff.mpr ⟨h, rfl⟩
    cases stop with
    | none => simp [words, ofWords?, hmode, hbound hkept.1]
    | some stop => simp [words, ofWords?, hmode, hbound hkept.1, hbound (hkept.2 stop rfl)]

/-- **The reader reads the clauses of frames with a start**, and nothing else. -/
theorem ofClause?_eq_some_iff :
    ofClause? text = some frame ↔
      frame.start ≠ none ∧ ∃ mode, frame.mode = some mode ∧ frame.clause mode = .ok text := by
  rw [ofClause?, ofWords?_eq_some_iff]
  constructor
  · rintro ⟨mode, start, stop, rfl, hkept, hwords⟩
    refine ⟨Option.some_ne_none start, mode, rfl, ?_⟩
    rw [clause_of_writable hkept, hwords, Text.intercalate_words]
  · obtain ⟨given, start, stop⟩ := frame
    rintro ⟨hstart, mode, rfl, hclause⟩
    obtain ⟨start, rfl⟩ := Option.ne_none_iff_exists'.mp hstart
    have hkept := writable_of_clause hclause
    rw [clause_of_writable hkept] at hclause
    have hne : words mode start stop ≠ [] := by
      cases stop <;> exact List.cons_ne_nil _ _
    refine ⟨mode, start, stop, rfl, hkept, ?_⟩
    rw [← Except.ok.inj hclause,
      Text.words_intercalate (blank_not_mem_words mode start stop) hne]

/-- Numbers are read as they are written, without leading zeros. -/
example : ofClause? "ROWS 7 PRECEDING" = some ⟨some .rows, some (.preceding 7), none⟩ ∧
    ofClause? "ROWS 07 PRECEDING" = none := by
  decide +kernel

/-- A frame that is accepted has an end only if it has a start. -/
theorem stop_eq_none_of_check {checked : FrameMode × String} (h : frame.check = .ok checked)
    (hstart : frame.start = none) : frame.stop = none := by
  by_contra hstop
  exact (FrameRule.exists_check_iff frame).mp ⟨checked, h⟩ .hasStart ⟨hstart, hstop⟩

end Frame

/-! ## Windows -/

namespace Window

/-- **The frame of a window is read from its clause**, however the window was formed and changed. -/
theorem Sound.ofClause?_clause {w : Window} (hw : w.Sound) (hstart : w.spec.start ≠ none) :
    Frame.ofClause? w.spec.clause = some w.spec.frame :=
  Frame.ofClause?_eq_some_iff.mpr ⟨hstart, w.spec.mode, rfl, (Frame.check_eq_ok hw.frame).2⟩

/-- A window that is formed has a clause exactly if its frame has a start, and the frame is read
from it. -/
theorem clause_of_make {columns : List Series} {order : List SortKey} {frame : Frame}
    {minValues : Option UInt32} {w : Window} (h : make columns order frame minValues = .ok w) :
    (w.spec.clause = "" ↔ frame.start = none) ∧
      (frame.start ≠ none → Frame.ofClause? w.spec.clause = some frame) := by
  have hw := sound_of_make h
  obtain rfl := frame_of_make h
  exact ⟨Frame.clause_eq_empty_iff (Frame.check_eq_ok hw.frame).2, hw.ofClause?_clause⟩

/-- **The clause of a window determines its frame.** From the clause of a window that was formed
with a start, the frame that was asked for is read, so another window with that clause has the same
frame. The clause is empty exactly if no bound was given. -/
theorem frame_determined_by_clause {columns : List Series} {order : List SortKey} {frame : Frame}
    {minValues : Option UInt32} {w : Window} (h : make columns order frame minValues = .ok w) :
    (frame.start ≠ none → Frame.ofClause? w.spec.clause = some frame) ∧
      (w.spec.clause ≠ "" → ∀ columns' order' frame' minValues' w',
        make columns' order' frame' minValues' = .ok w' → w'.spec.clause = w.spec.clause →
          frame' = frame) ∧
      (w.spec.clause = "" ↔ frame.start = none ∧ frame.stop = none) := by
  obtain ⟨hempty, hread⟩ := clause_of_make h
  refine ⟨hread, fun hne columns' order' frame' minValues' w' h' hsame => ?_, ?_⟩
  · obtain ⟨hempty', hread'⟩ := clause_of_make h'
    rw [hsame] at hempty' hread'
    exact Option.some.inj ((hread' (mt hempty'.mpr hne)).symm.trans (hread (mt hempty.mpr hne)))
  · have hcheck := (sound_of_make h).frame
    rw [frame_of_make h] at hcheck
    rw [hempty]
    exact ⟨fun hstart => ⟨hstart, Frame.stop_eq_none_of_check hcheck hstart⟩, And.left⟩

/-- Two windows with one clause, which holds the largest offset, and one whose frame has no end. -/
theorem frame_determined_by_clause_largest :
    let b := Sample.series Sample.relation "b"
    let order : List SortKey := [⟨.column "a", true⟩]
    let largest : Frame := .rows (.preceding 9223372036854775807) .unboundedFollowing
    let clause := "ROWS BETWEEN 9223372036854775807 PRECEDING AND UNBOUNDED FOLLOWING"
    let w : Window := ⟨[("b", b)], ⟨order, .rows, largest.start, largest.stop, 0, clause⟩⟩
    let alone : Frame := ⟨some .range, some .currentRow, none⟩
    let last : Window := ⟨[], ⟨order, .range, alone.start, none, 7, "RANGE CURRENT ROW"⟩⟩
    make [b] order largest none = .ok w ∧ Frame.ofClause? clause = some largest ∧
      (∀ frame' w', make [] [] frame' (some 2) = .ok w' → w'.spec.clause = clause →
        frame' = largest) ∧
      make [] order alone (some 7) = .ok last ∧
      Frame.ofClause? "RANGE CURRENT ROW" = some alone := by
  intro b order largest clause w alone last
  have hw : make [b] order largest none = .ok w := by decide +kernel
  have hlast : make [] order alone (some 7) = .ok last := by decide +kernel
  obtain ⟨hread, hsame, -⟩ := frame_determined_by_clause hw
  obtain ⟨hreadAlone, -, -⟩ := frame_determined_by_clause hlast
  refine ⟨hw, hread (Option.some_ne_none _), fun frame' w' => ?_, hlast,
    hreadAlone (Option.some_ne_none _)⟩
  exact hsame (by decide) [] [] frame' (some 2) w'

end Window

end QueryFrame
