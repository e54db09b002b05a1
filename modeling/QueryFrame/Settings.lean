import QueryFrame.Window.Basic

/-!
# Settings

What a dataframe takes for granted: the dialect that SQL is rendered for and the frame of a window
that is asked for without one.
-/

namespace QueryFrame

/-- The settings of a dataframe. -/
structure Settings where
  /-- the dialect that SQL is rendered for -/
  dialect : Dialect
  /-- the frame of a window that is asked for without one -/
  window : Frame
  deriving DecidableEq

namespace Settings

/-- The first of the known dialects, and the frame that databases take. -/
def standard : Settings :=
  ⟨.postgres, .standard⟩

/-- Refuses settings with a frame that no window could have. -/
def checked (settings : Settings) : Outcome Settings := do
  let _ ← Window.make [] [] settings.window none
  pure settings

end Settings

end QueryFrame
