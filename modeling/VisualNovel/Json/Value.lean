import VisualNovel.Json.Token

/-!
# Documents as values

The tokens of a document are put together into one value before anything is asked of it. Where the
document is malformed the value remembers it at that very place, and everything behind the place is
gone: a walk through the value in document order meets the fault exactly when a reader of the
document would. What is never read, such as the inside of a list that should have been a text, is
never found fault with.

The tokens are taken one at a time with the open lists and maps on a stack, so nesting has no limit.
-/

namespace VisualNovel.Json

/-- How a list or a map ends. -/
inductive Ending
  | closed
  /-- The document breaks off behind the opening bracket or an entry. -/
  | cutOff
  /-- The document breaks off behind a comma. -/
  | cutOffAfterComma
  /-- The closing bracket follows a comma. -/
  | closedAfterComma
  /-- Neither a comma nor the closing bracket follows an entry. -/
  | noComma
  /-- In a map: something else than a text stands where a key should. -/
  | noKey
  /-- The fault lies inside the last entry. -/
  | inside
  deriving DecidableEq

/-- A document, or a part of one. -/
inductive Value
  | null
  | boolean (b : Bool)
  | number (n : ScannedNumeral)
  | text (t : RawText)
  | list (items : List Value) (ending : Ending)
  | map (members : List (RawText × Value)) (ending : Ending)
  /-- No value stands here. -/
  | missing (fault : Fault)

/-- A document: its value, and whether something follows it. -/
structure Document where
  value : Value
  trailing : Bool

/-- A list or a map that is still open, with its entries so far, last one first. -/
inductive Frame
  | list (items : List Value)
  | map (members : List (RawText × Value)) (key : RawText)

namespace Frame

/-- The list or map with one more entry, ended. -/
def close (entry : Value) (ending : Ending) : Frame → Value
  | list items => .list (entry :: items).reverse ending
  | map members key => .map ((key, entry) :: members).reverse ending

end Frame

/-- The document in which `value` is the last thing that could be read, at the place given by the
open lists and maps around it. -/
def Document.breakOff (value : Value) (frames : List Frame) : Document :=
  ⟨frames.foldl (fun v f => f.close v .inside) value, false⟩

/-- How far the tokens have been put together. The frames are the lists and maps around the place,
innermost first. -/
inductive Progress
  /-- A value is due. -/
  | due (frames : List Frame)
  /-- A value has been completed. -/
  | complete (value : Value) (frames : List Frame)
  /-- A list has been opened. -/
  | listOpened (frames : List Frame)
  /-- A comma has been read in a list. -/
  | listComma (items : List Value) (frames : List Frame)
  /-- A map has been opened. -/
  | mapOpened (frames : List Frame)
  /-- A comma has been read in a map. -/
  | mapComma (members : List (RawText × Value)) (frames : List Frame)
  /-- A key has been read. -/
  | keyRead (members : List (RawText × Value)) (key : RawText) (frames : List Frame)
  /-- Nothing that follows matters. -/
  | stopped (document : Document)

namespace Progress

/-- Takes a token where a value is due. -/
def value (frames : List Frame) : Token → Progress
  | .null => complete .null frames
  | .boolean b => complete (.boolean b) frames
  | .number n => complete (.number n) frames
  | .text t => complete (.text t) frames
  | .openList => listOpened frames
  | .openMap => mapOpened frames
  | .badWord cutOff =>
    stopped (.breakOff (.missing (if cutOff then .endInValue else .expectedWord)) frames)
  | _ => stopped (.breakOff (.missing .expectedValue) frames)

/-- Takes the next token. -/
def next : Progress → Token → Progress
  | due frames, t => value frames t
  | complete v [], _ => stopped ⟨v, true⟩
  | complete v (.list items :: frames), t =>
    match t with
    | .comma => listComma (v :: items) frames
    | .closeList => complete (Frame.close v .closed (.list items)) frames
    | _ => stopped (.breakOff (Frame.close v .noComma (.list items)) frames)
  | complete v (.map members key :: frames), t =>
    match t with
    | .comma => mapComma ((key, v) :: members) frames
    | .closeMap => complete (Frame.close v .closed (.map members key)) frames
    | _ => stopped (.breakOff (Frame.close v .noComma (.map members key)) frames)
  | listOpened frames, t =>
    match t with
    | .closeList => complete (.list [] .closed) frames
    | t => value (.list [] :: frames) t
  | listComma items frames, t =>
    match t with
    | .closeList => stopped (.breakOff (.list items.reverse .closedAfterComma) frames)
    | t => value (.list items :: frames) t
  | mapOpened frames, t =>
    match t with
    | .closeMap => complete (.map [] .closed) frames
    | .text key => keyRead [] key frames
    | _ => stopped (.breakOff (.map [] .noKey) frames)
  | mapComma members frames, t =>
    match t with
    | .closeMap => stopped (.breakOff (.map members.reverse .closedAfterComma) frames)
    | .text key => keyRead members key frames
    | _ => stopped (.breakOff (.map members.reverse .noKey) frames)
  | keyRead members key frames, t =>
    match t with
    | .colon => due (.map members key :: frames)
    | _ => stopped (.breakOff (.missing .expectedColon) (.map members key :: frames))
  | stopped d, _ => stopped d

/-- The document, when no token is left. -/
def finish : Progress → Document
  | due frames => .breakOff (.missing .endInValue) frames
  | complete v [] => ⟨v, false⟩
  | complete v (f :: frames) => .breakOff (f.close v .cutOff) frames
  | listOpened frames => .breakOff (.list [] .cutOff) frames
  | listComma items frames => .breakOff (.list items.reverse .cutOffAfterComma) frames
  | mapOpened frames => .breakOff (.map [] .cutOff) frames
  | mapComma members frames => .breakOff (.map members.reverse .cutOffAfterComma) frames
  | keyRead members key frames =>
    .breakOff (.missing .endInMap) (.map members key :: frames)
  | stopped d => d

end Progress

/-- The document that some tokens make up. -/
def Document.ofTokens (ts : List Token) : Document :=
  (ts.foldl Progress.next (.due [])).finish

/-- The document that some bytes write. -/
def Document.ofBytes (bs : List UInt8) : Document := ofTokens (tokens bs)

/-- The document that some bytes write, for a reader that does not check texts. -/
def Document.ofUnchecked (stray : ByteArray → String) (bs : List UInt8) : Document :=
  ofTokens ((tokens bs).map (·.unchecked stray))

end VisualNovel.Json
