/-!
# Settings of a session
-/

namespace VisualNovel

/-- What a session can be set to. -/
structure Config where
  /-- The player's name until one is chosen. -/
  defaultName : String := "Player"
  /-- The portrait of a player who has none. -/
  defaultPortrait : String := "images/characters/portraits/player_placeholder.png"
  /-- The speaker that never gets a nameplate. -/
  narrator : String := "Narrator"
  /-- How many scenes without dialogue may follow each other by themselves, so that a circle of
  them comes to an end. -/
  maxAutoHops : Nat := 64
  deriving DecidableEq

/-- The settings with another limit on automatic transitions, at least one. -/
def Config.withMaxAutoHops (c : Config) (hops : Nat) : Config :=
  { c with maxAutoHops := max hops 1 }

end VisualNovel
