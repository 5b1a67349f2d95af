import Reckoner.Text.Basic

/-!
# The keypad

The buttons as they are laid out: what stands on each, the name of the button that it presses, and
the kind that decides its colours. Keys of a keyboard press buttons as well.
-/

namespace Reckoner

namespace Keypad

/-- The kinds of buttons. -/
inductive Kind where
  | digit
  | operator
  | advanced
  | normal
  | danger
  deriving DecidableEq, Repr

/-- The name of a kind. -/
def Kind.name : Kind → Text
  | .digit => "digit"
  | .operator => "operator"
  | .advanced => "advanced"
  | .normal => "normal"
  | .danger => "danger"

/-- A button of the keypad. -/
structure Key where
  label : Text
  button : Text
  kind : Kind
  deriving DecidableEq, Repr

/-- The buttons, row by row. -/
def rows : List (List Key) := [
  [⟨"x²", "square", .advanced⟩, ⟨"√x", "sqrt", .advanced⟩,
    ⟨"1/x", "reciprocal", .advanced⟩, ⟨"xʸ", "power", .advanced⟩],
  [⟨"(", "(", .advanced⟩, ⟨")", ")", .advanced⟩,
    ⟨"%", "percent", .advanced⟩, ⟨"÷", "/", .operator⟩],
  [⟨"7", "7", .digit⟩, ⟨"8", "8", .digit⟩, ⟨"9", "9", .digit⟩, ⟨"×", "*", .operator⟩],
  [⟨"4", "4", .digit⟩, ⟨"5", "5", .digit⟩, ⟨"6", "6", .digit⟩, ⟨"−", "-", .operator⟩],
  [⟨"1", "1", .digit⟩, ⟨"2", "2", .digit⟩, ⟨"3", "3", .digit⟩, ⟨"+", "+", .operator⟩],
  [⟨"C", "clear", .danger⟩, ⟨"±", "negate", .normal⟩, ⟨"0", "0", .digit⟩, ⟨".", ".", .digit⟩]]

/-- What a click does. -/
inductive Click where
  | press (button : Text)
  | clearHistory
  deriving DecidableEq, Repr

/-- The buttons beside the keypad: erasing, confirming, and emptying the log. -/
def otherClicks : List (Text × Click) :=
  [("⌫", .press "backspace"), ("=", .press "="), ("Clear", .clearHistory)]

/-- All buttons by what stands on them. -/
def clicks : List (Text × Click) :=
  rows.flatten.map (fun key => (key.label, Click.press key.button)) ++ otherClicks

/-- The buttons of keys that are known by their name. -/
def namedKeys : List (Text × Text) :=
  [("Return", "="), ("KP_Enter", "="), ("BackSpace", "backspace"), ("Escape", "clear")]

/-- The characters whose keys press the button of the same name. -/
def keyChars : Text := "0123456789.+-*/=()^%"

/-- The button of a key, by its name or else by its character. -/
def buttonOfKey? (name char : Text) : Option Text :=
  match namedKeys.lookup name with
  | some button => some button
  | none => if !char.isEmpty && Text.contains char keyChars then some char else none

end Keypad

end Reckoner
