import QueryFrame.Error.Wording
import QueryFrame.Json.Load
import QueryFrame.Proofs.GroupKeys
import QueryFrame.Proofs.Windows
import QueryFrame.Sample
import Mathlib.Data.List.Infix

/-!
# Settings that were loaded do not fail later

Settings are checked when they are loaded, by forming a window that has the frame of the settings
and nothing else. The frame is used much later, in a window over the columns and the order of some
dataframe. Between the two lies whatever is done to the dataframe, and the question is whether the
check at the beginning was the right one.

It was, since a frame decides the same way over all columns that can be grouped on
(`Window.make_of_group`), and since selecting and sorting leave the settings alone
(`DataFrame.settings_of_arranged`). What is left to go wrong are the columns, and they go wrong as
they do in a grouping (`DataFrame.window_of_load`).
-/

namespace QueryFrame

/-! ## The faults of frames -/

namespace Error

/-- Whether the code of a cause is one of those for window frames. -/
def CodedAsFrame (e : Error) : Prop :=
  "WINDOW_".toList <+: e.code.toList

/-- The codes of frames are for the faults of frames, and no other fault has one. -/
theorem codedAsFrame_iff {e : Error} : e.CodedAsFrame ↔ ∃ fault, e = .frame fault := by
  rw [CodedAsFrame]
  cases e with
  | frame fault =>
    refine iff_of_true ?_ ⟨fault, rfl⟩
    cases fault <;> simp only [code, diagnostic, FrameFault.diagnostic, FrameFault.code] <;> decide
  | type fault | template fault | dialect fault | grouping fault | series fault
  | dataFrame fault =>
    refine iff_of_false ?_ (by rintro ⟨other, ⟨⟩⟩)
    cases fault <;> simp only [code, diagnostic, TypeFault.diagnostic, TemplateFault.diagnostic,
      DialectFault.diagnostic, GroupingFault.diagnostic, SeriesFault.diagnostic,
      DataFrameFault.diagnostic] <;> decide

end Error

/-! ## The check of settings -/

namespace Settings

/-- **Settings are as good as their frame.** -/
theorem checked_eq (settings : Settings) :
    settings.checked = settings.window.check.map fun _ => settings := by
  have hgroup : Columns.group [] = .ok [] := rfl
  rw [checked, Window.make_of_group hgroup]
  cases settings.window.check <;> rfl

/-- Inversion for settings that are loaded: they were read, and their frame means something. -/
theorem load_eq_ok {text : String} {settings : Settings} (h : load text = .ok settings) :
    Json.load? ofJson? text = some settings ∧ ∃ checked, settings.window.check = .ok checked := by
  rw [load] at h
  split at h
  · next own hown =>
    rw [checked_eq] at h
    obtain ⟨checked, hchecked, rfl⟩ := Outcome.map_eq_ok h
    exact ⟨hown, checked, hchecked⟩
  · cases h

/-- Inversion for settings that are refused for a frame: it is the frame that was read. -/
theorem load_eq_error {text : String} {fault : FrameFault} (h : load text = .error (.frame fault)) :
    ∃ settings, Json.load? ofJson? text = some settings ∧
      settings.window.check = .error (.frame fault) := by
  rw [load] at h
  split at h
  · next settings hsettings =>
    refine ⟨settings, hsettings, ?_⟩
    rw [checked_eq] at h
    cases hcheck : settings.window.check with
    | error own =>
      rw [hcheck] at h
      exact congrArg Except.error (Except.error.inj h)
    | ok checked =>
      rw [hcheck] at h
      cases h
  · cases h

end Settings

/-! ## Dataframes with the settings -/

namespace DataFrame

/-- One successful selection of columns, or change of the order. -/
inductive Arranges (df : DataFrame) : DataFrame → Prop
  | select {names : List String} {next : DataFrame} (h : df.select names = .ok next) :
      Arranges df next
  | sortBy {names : List String} {ascending : List Bool} {next : DataFrame}
      (h : df.sortBy names ascending = .ok next) : Arranges df next

/-- Selecting and sorting leave the settings alone, and apply no partition. -/
theorem settings_of_arranges {df next : DataFrame} (h : Arranges df next) :
    next.settings = df.settings ∧ next.partition = df.partition := by
  cases h with
  | select h =>
    rw [(select_eq_ok h).2]
    exact ⟨rfl, rfl⟩
  | sortBy h =>
    rw [sortBy_eq_ok h]
    exact ⟨rfl, rfl⟩

theorem settings_of_arranged {start df : DataFrame}
    (h : Relation.ReflTransGen Arranges start df) :
    df.settings = start.settings ∧ df.partition = start.partition := by
  induction h with
  | refl => exact ⟨rfl, rfl⟩
  | tail _ hstep ih =>
    obtain ⟨hsettings, hpartition⟩ := settings_of_arranges hstep
    exact ⟨hsettings.trans ih.1, hpartition.trans ih.2⟩

/-- What is wrong with keys is not reported as a fault of a frame. -/
theorem KeyFault.not_codedAsFrame {df : DataFrame} {keys : List GroupKey} {fault : Error}
    (h : df.KeyFault keys fault) : ¬ fault.CodedAsFrame := by
  rw [Error.codedAsFrame_iff]
  rintro ⟨own, rfl⟩
  cases h

section Ungrouped

variable {df : DataFrame} {keys : List GroupKey} (hungrouped : df.partition = none)

include hungrouped

/-- Without a partition so far, a grouping is refused for its columns. -/
theorem groupBy_eq_error_iff {fault : Error} :
    df.groupBy keys = .error fault ↔ df.keyColumns keys = .error fault := by
  rw [groupBy_eq]
  exact Outcome.bind_eq_error_iff fun _ => exists_applyPartition hungrouped _

/-- And so is a window with a frame that means something. -/
theorem window_eq_error_iff {frame : Option Frame} {minValues : Option UInt32}
    {checked : FrameMode × String} (hframe : (frame.getD df.settings.window).check = .ok checked)
    {fault : Error} :
    df.window keys frame minValues = .error fault ↔ df.keyColumns keys = .error fault := by
  rw [window_eq_keyColumns, hframe]
  exact Outcome.bind_eq_error_iff fun _ => exists_applyPartition hungrouped _

end Ungrouped

/-- **Settings are checked when they are loaded, once and for all.** A dataframe that starts with
loaded settings and has been rearranged in any way can be put under a window with the frame of the
settings, unless something is wrong with the keys. Then the window is refused as a grouping by the
keys is, and never for a frame. Settings that are not loaded because of their frame are refused for
the same reason by every window that is formed with it, over columns that can be grouped on. -/
theorem window_of_load (text : String) :
    (∀ settings, Settings.load text = .ok settings → ∀ relation index data df,
      Relation.ReflTransGen Arranges (ofRelation relation settings index data) df →
      ∀ keys minValues,
        (∀ fault, df.window keys none minValues = .error fault →
          df.KeyFault keys fault ∧ ¬ fault.CodedAsFrame) ∧
        (∀ fault, df.window keys none minValues = .error fault ↔
          df.groupBy keys = .error fault) ∧
        ((∃ next, df.window keys none minValues = .ok next) ↔
          ∀ fault, ¬ df.KeyFault keys fault)) ∧
    ∀ fault, Settings.load text = .error fault → fault.CodedAsFrame →
      ∃ settings, Json.load? Settings.ofJson? text = some settings ∧
        ∀ columns grouped, Columns.group columns = .ok grouped → ∀ order minValues,
          Window.make columns order settings.window minValues = .error fault := by
  refine ⟨fun settings hload relation index data df hrun keys minValues => ?_, ?_⟩
  · obtain ⟨hsettings, hungrouped⟩ := settings_of_arranged hrun
    obtain ⟨-, checked, hchecked⟩ := Settings.load_eq_ok hload
    have hframe : (Option.getD none df.settings.window).check = .ok checked := by
      rw [Option.getD_none, hsettings]
      exact hchecked
    have hwindow : ∀ fault, df.window keys none minValues = .error fault ↔
        df.keyColumns keys = .error fault := fun fault => window_eq_error_iff hungrouped hframe
    refine ⟨fun fault hfault => ?_, fun fault => ?_, ?_⟩
    · have hkeys := keyFault_of_keyColumns ((hwindow fault).mp hfault)
      exact ⟨hkeys, hkeys.not_codedAsFrame⟩
    · rw [hwindow, groupBy_eq_error_iff hungrouped]
    · rw [Outcome.exists_ok_iff hwindow, exists_keyColumns_iff]
  · intro fault hload hcode
    obtain ⟨own, rfl⟩ := Error.codedAsFrame_iff.mp hcode
    obtain ⟨settings, hsettings, hcheck⟩ := Settings.load_eq_error hload
    refine ⟨settings, hsettings, fun columns grouped hgroup order minValues => ?_⟩
    rw [Window.make_of_group hgroup, hcheck]
    rfl

/-- Settings with a frame of rows that says where it starts and leaves the rest to the defaults, and
settings that count the same offset in peers, which are not loaded. -/
theorem window_of_load_rows :
    let rows := "\x7b\"window\":\x7b\"mode\":\"rows\"," ++
      "\"start\":\x7b\"boundary\":\"preceding\",\"value\":1\x7d\x7d\x7d"
    let range := "\x7b\"window\":\x7b\"start\":" ++
      "\x7b\"boundary\":\"preceding\",\"value\":1\x7d\x7d\x7d"
    let settings : Settings := ⟨.postgres, .rows (.preceding 1) .currentRow⟩
    let start := ofRelation Sample.relation settings (Sample.fields ["a"])
      (Sample.fields ["b", "c"])
    let b := Sample.series Sample.relation "b"
    Settings.load rows = .ok settings ∧
      (∃ df, start.select ["b"] = .ok df ∧
        (∃ next, df.window [.label "a", .series b] none (some 7) = .ok next) ∧
        df.window [.label "c"] none none = .error (.dataFrame (.unknownColumn "c"))) ∧
      Settings.load range = .error (.frame .offsetInRange) ∧
      Error.CodedAsFrame (.frame .offsetInRange) ∧
      ∃ refused, Json.load? Settings.ofJson? range = some refused ∧
        Window.make [b] [⟨.column "a", true⟩] refused.window (some 7) =
          .error (.frame .offsetInRange) := by
  intro rows range settings start b
  have hload : Settings.load rows = .ok settings := by decide +kernel
  have hrange : Settings.load range = .error (.frame .offsetInRange) := by decide +kernel
  have hcode : Error.CodedAsFrame (.frame .offsetInRange) :=
    Error.codedAsFrame_iff.mpr ⟨_, rfl⟩
  obtain ⟨df, hdf⟩ : ∃ df, start.select ["b"] = .ok df := ⟨_, rfl⟩
  have hloaded := (window_of_load rows).1 settings hload _ _ _ df (.single (.select hdf))
  obtain rfl := Except.ok.inj hdf
  refine ⟨hload, ⟨_, rfl, ?_, ?_⟩, hrange, hcode, ?_⟩
  · rw [(hloaded [.label "a", .series b] (some 7)).2.2, ← exists_keyColumns_iff]
    exact ⟨_, rfl⟩
  · rw [(hloaded [.label "c"] none).2.1]
    rfl
  · obtain ⟨refused, hrefused, hfails⟩ := (window_of_load range).2 _ hrange hcode
    exact ⟨refused, hrefused, hfails [b] _ rfl _ _⟩

end DataFrame

end QueryFrame
