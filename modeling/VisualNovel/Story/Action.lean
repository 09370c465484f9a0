import VisualNovel.Text.Blank

/-!
# Actions and their tokens

What a scene, a choice or an object does to the player's items and flags is written as one token,
such as `ADD_ITEM_lantern` or `SET_FLAG_metGhost`. Four verbs are built in; each needs an id behind
it. Any other token is a custom action, kept as it is written apart from the blanks around it.
-/

namespace VisualNovel

/-- What a scene, a choice or an object does when its turn comes. -/
inductive Action
  | addItem (item : String)
  | removeItem (item : String)
  | setFlag (flag : String)
  | clearFlag (flag : String)
  /-- A token outside the built-in vocabulary. -/
  | custom (token : String)
  deriving DecidableEq, Inhabited

namespace Action

/-- How the built-in tokens begin, and what each makes of the id behind it. -/
def verbs : List (String × (String → Action)) :=
  [("ADD_ITEM_", addItem), ("REMOVE_ITEM_", removeItem),
   ("SET_FLAG_", setFlag), ("CLEAR_FLAG_", clearFlag)]

/-- The action of a token that begins with `verb` and goes on with an id. -/
def ofVerb? (token : String) (verb : String × (String → Action)) : Option Action :=
  let id := token.toList.drop verb.1.toList.length
  if verb.1.toList.isPrefixOf token.toList && !id.isEmpty then some (verb.2 (String.ofList id))
  else none

/-- The built-in action that a token names, blanks around the token aside. -/
def parse? (token : String) : Option Action :=
  verbs.findSome? (ofVerb? (Text.trim token))

/-- The action of a token, a custom one where it names no built-in action. -/
def parse (token : String) : Action :=
  (parse? token).getD (custom (Text.trim token))

/-- Whether the action is one of the built-in ones. -/
def isBuiltin : Action → Bool
  | custom _ => false
  | _ => true

/-- The token that names the action. -/
def token : Action → String
  | addItem item => "ADD_ITEM_" ++ item
  | removeItem item => "REMOVE_ITEM_" ++ item
  | setFlag flag => "SET_FLAG_" ++ flag
  | clearFlag flag => "CLEAR_FLAG_" ++ flag
  | custom token => token

end Action

end VisualNovel
