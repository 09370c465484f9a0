import VisualNovel.Session.Config
import VisualNovel.Session.Profile
import VisualNovel.Story.Scene
import VisualNovel.Text.Blank
import VisualNovel.Text.Substitute

/-!
# Lines as they are shown

Before a line is shown the player's name is filled in, the narrator loses the nameplate, and a line
spoken by the placeholder gets the player's portrait.
-/

namespace VisualNovel

/-- A line of dialogue, ready to be shown. -/
structure ShownLine where
  nameplate : Option String
  text : String
  portrait : Option String
  style : Option String
  deriving DecidableEq

/-- The line as it is shown to a player, where `placeholder` stands for their name. -/
def Line.shown (line : Line) (player : Profile) (placeholder : String) (config : Config) :
    ShownLine :=
  let speaker := Text.trim (line.speaker.getD "")
  { nameplate :=
      if speaker.isEmpty || Text.sameIgnoringAsciiCase speaker config.narrator then none
      else some (Text.substitute speaker placeholder player.name)
    text := Text.substitute line.text placeholder player.name
    portrait :=
      if !placeholder.isEmpty && speaker == placeholder then
        some (player.portrait.getD config.defaultPortrait)
      else line.portrait
    style := line.style }

end VisualNovel
