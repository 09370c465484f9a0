/-!
# Control sequences

Characters that steer a terminal: controls, and sequences that an escape begins. A writer that
knows that nobody will interpret them leaves them out and keeps the text between them, white space
included. The sequences are those of byte streams, so one of them can end inside the encoding of a
character.
-/

namespace VisualNovel.Text

namespace ControlSequence

/-- How far a control sequence has been read. -/
inductive Progress
  /-- None has begun. -/
  | text
  /-- The escape. -/
  | escape
  /-- The escape and what stands between it and the last character. -/
  | short
  /-- The escape and a bracket: parameters follow. -/
  | parameters
  /-- A command for the system, which a bell ends too. -/
  | command
  /-- The beginning of a command for the device. -/
  | device
  /-- The same with parameters. -/
  | deviceParameters
  /-- The same with marks behind the parameters. -/
  | deviceMarks
  /-- A text for the terminal, up to the next escape or string terminator. -/
  | message
deriving DecidableEq

/-- The controls that are white space. -/
def isBlankControl (c : Char) : Bool := c == '\t' || c == '\n' || c == '\x0c' || c == '\r'

/-- Whether the byte 9C, the string terminator, is part of the encoding of a character beyond
ASCII. -/
def holdsTerminator (c : Char) : Bool := (String.utf8EncodeChar c).contains 0x9C

/-- Whether a character is kept where a sequence has been read so far. -/
def Progress.keeps (c : Char) : Progress → Bool
  | .text => isBlankControl c || (0x20 ≤ c.toNat && c.toNat != 0x7F)
  | .escape | .short | .parameters => isBlankControl c
  | _ => false

/-- How far a sequence has been read behind a character of it, neither a control nor beyond
ASCII. -/
def Progress.nextPrintable (c : Char) : Progress → Progress
  | .text => .text
  | .escape =>
    if c.toNat < 0x30 then .short
    else if c == '[' then .parameters
    else if c == ']' then .command
    else if c == 'P' then .device
    else if c == 'X' || c == '^' || c == '_' then .message
    else .text
  | .short => if c.toNat < 0x30 then .short else .text
  | .parameters => if c.toNat < 0x40 then .parameters else .text
  | .command => .command
  | .device =>
    if c.toNat < 0x30 then .deviceMarks else if c.toNat < 0x40 then .deviceParameters else .message
  | .deviceParameters =>
    if c.toNat < 0x30 then .deviceMarks else if c.toNat < 0x3C then .deviceParameters else .message
  | .deviceMarks => if c.toNat < 0x30 then .deviceMarks else .message
  | .message => .message

/-- How far the sequence has been read behind a character. -/
def Progress.next (c : Char) (p : Progress) : Progress :=
  if c == '\x1b' then .escape
  else if c == '\x18' || c == '\x1a' then .text
  else if c == '\x07' && p == .command then .text
  else if c.toNat < 0x20 || c.toNat == 0x7F then p
  else if c.toNat < 0x80 then p.nextPrintable c
  else if p == .message && holdsTerminator c then .text
  else p

/-- Where in a text with control sequences one is. -/
structure Place where
  progress : Progress
  /-- Whether white space has interrupted the sequence: text goes on as if it were over, up to a
  control, behind which the sequence goes on, or a character beyond ASCII, which ends it. -/
  interrupted : Bool
deriving DecidableEq

/-- Whether a character is kept at a place. -/
def Place.keeps (s : Place) (c : Char) : Bool :=
  (if s.interrupted then Progress.text else s.progress).keeps c

/-- The place behind a character. -/
def Place.next (s : Place) (c : Char) : Place :=
  if s.keeps c then
    if s.progress == .text || 0x80 ≤ c.toNat then ⟨.text, false⟩ else ⟨s.progress, true⟩
  else ⟨s.progress.next c, false⟩

/-- What is kept of the characters from a place on. -/
def kept : Place → List Char → List Char
  | _, [] => []
  | s, c :: cs => if s.keeps c then c :: kept (s.next c) cs else kept (s.next c) cs

end ControlSequence

/-- The text without control sequences. -/
def withoutControls (s : String) : String :=
  String.ofList (ControlSequence.kept ⟨.text, false⟩ s.toList)

end VisualNovel.Text
