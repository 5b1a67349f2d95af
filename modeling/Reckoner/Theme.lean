import Reckoner.Text.Basic

/-!
# Names and colours

What the calculator calls itself, and the colours of its parts.
-/

namespace Reckoner

/-- The name in titles and answers. -/
def appName : Text := "NeonCalc"

/-- The version in answers. -/
def appVersion : Text := "1.0.0"

namespace Theme

/-- The colour behind everything. -/
def background : Text := "#1E1E1E"

/-- A confirmed result: bright green. -/
def confirmed : Text := "#9BFF9B"

/-- A preview: dimmer green. -/
def preview : Text := "#5FC46A"

/-- An error. -/
def error : Text := "#FF6B5E"

/-- Operators, and links on a page. -/
def operator : Text := "#4DE07A"

/-- Every colour by the name of its part. -/
def palette : List (Text × Text) := [
  ("bg", background),
  ("bg_dark", "#141414"),
  ("shadow_dark", "#0B0B0B"),
  ("shadow_lite", "#2C2C2C"),
  ("display_bg", "#111111"),
  ("display_fg", confirmed),
  ("preview_fg", preview),
  ("error_fg", error),
  ("expr_fg", "#7A7A7A"),
  ("btn_bg", "#262626"),
  ("btn_fg", "#E0E0E0"),
  ("operator_fg", operator),
  ("advanced_fg", "#8FB8E8"),
  ("equals_bg", "#2DA84F"),
  ("equals_fg", "#FFFFFF"),
  ("danger", "#C0392B"),
  ("text", "#D0D0D0"),
  ("subtext", "#5E5E5E"),
  ("tree_odd", "#202020"),
  ("tree_even", "#1A1A1A"),
  ("tree_fg", "#C8C8C8")]

end Theme

end Reckoner
