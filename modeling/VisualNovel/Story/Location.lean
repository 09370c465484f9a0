/-!
# Places in a story

An error or a finding names the place it is about: a scene, one of a scene's choices counted from
one, one of its objects, or an outcome. Ids stand in the text between double quotes as they are.
-/

namespace VisualNovel

/-- A place in a story. -/
inductive Location
  | scene (id : String)
  | choice (number : Nat) (scene : String)
  | object (id scene : String)
  | outcome (id : String)
  deriving DecidableEq, Inhabited

/-- The place in words, such as `choice 2 of scene "hall"`. -/
def Location.text : Location → String
  | scene id => "scene \"" ++ id ++ "\""
  | choice number home => "choice " ++ toString number ++ " of scene \"" ++ home ++ "\""
  | object id home => "object \"" ++ id ++ "\" of scene \"" ++ home ++ "\""
  | outcome id => "outcome \"" ++ id ++ "\""

end VisualNovel
