import VisualNovel.Text.Style

/-!
# What the player sees

Everything that a game in the terminal shows, by what it says, and its one spelling.
-/

namespace VisualNovel.Play

/-- What the player is asked for. -/
inductive Awaiting
  /-- To read on. -/
  | line
  | choice
  /-- To go on after an outcome. -/
  | outcome
  /-- Nothing: the game is over. -/
  | nothing
  deriving DecidableEq, Inhabited

/-- Something that is shown. -/
inductive Display
  | chooseCharacter
  /-- The selected character, and where it stands in the roster, counted from one. -/
  | character (number size : Nat) (name : String)
  | unknownCharacter
  | opening (title : String)
  /-- A scene: its narration, and the objects in it. -/
  | scene (text : Option String) (notices : List String)
  | line (nameplate : Option String) (text : String)
  | outcome (message : String) (final : Bool)
  | menu (choices : List String)
  | noWayForward
  | ending (banner : String)
  | stop
  | taken (item : String)
  | used
  | needed (item : String)
  | nothingCalled (object : String)
  | noSuchChoice
  | inventory (items : List String)
  | hint (awaiting : Awaiting)
  | prompt
  deriving DecidableEq

/-- What helps a player who typed something else than what is asked for. -/
def Awaiting.hint : Awaiting → String
  | line => "Press Enter to continue."
  | choice => "Type the number of a choice."
  | outcome => "Type c to continue."
  | nothing => "The story is over."

namespace Display

/-- A line of output. -/
def ofLine (s : String) : String := "  " ++ s ++ "\n"

/-- The entries of a menu, the first of which has the given number. -/
def entries : Nat → List String → String
  | _, [] => ""
  | number, choice :: choices =>
    ofLine (toString number ++ ". " ++ choice) ++ entries (number + 1) choices

/-- What is shown, in words; `styled` says whether the terminal shows styles. -/
def text (styled : Bool) : Display → String
  | chooseCharacter =>
    ofLine "Choose your character: n: next | p: previous | Enter: confirm"
  | character number size name =>
    ofLine ("[" ++ toString number ++ "/" ++ toString size ++ "] " ++ bold name)
  | unknownCharacter => ofLine (yellow "Unknown character.")
  | opening title =>
    ofLine (bold "Playing" ++ " " ++ bold title)
      ++ ofLine ("Enter: next line | 1-9: choose | c: continue | i: inventory | use <object> | " ++
        "q: quit")
      ++ "\n"
  | scene text notices =>
    "\n" ++ (text.map fun t => ofLine (dimmed t)).getD ""
      ++ if notices.isEmpty then "" else ofLine ("You notice: " ++ ", ".intercalate notices)
  | line (some name) text => ofLine (bold name ++ ": " ++ text)
  | line none text => ofLine (Text.Style.italic.apply styled text)
  | outcome message final =>
    "\n" ++ ofLine (bold message)
      ++ ofLine (if final then bold "The End" else dimmed "[c] continue")
  | menu choices => "\n" ++ entries 1 choices
  | noWayForward => ofLine (yellow "There is no way forward.")
  | ending banner => "\n" ++ ofLine (bold banner)
  | stop => ofLine (yellow "The story stops here.")
  | taken item => ofLine (green "You take:" ++ " " ++ item)
  | used => ofLine (green "Done.")
  | needed item => ofLine (yellow ("You need: " ++ item))
  | nothingCalled object => ofLine (yellow ("Nothing called \"" ++ object ++ "\" here."))
  | noSuchChoice => ofLine (yellow "No such choice.")
  | inventory [] => ofLine "Your hands are empty."
  | inventory items => ofLine ("You carry: " ++ ", ".intercalate items)
  | hint awaiting => ofLine (dimmed awaiting.hint)
  | prompt => "> "
where
  bold : String → String := Text.Style.bold.apply styled
  dimmed : String → String := Text.Style.dimmed.apply styled
  green : String → String := Text.Style.green.apply styled
  yellow : String → String := Text.Style.yellow.apply styled

end Display

end VisualNovel.Play
