namespace EnumForge.Text.Terminal

/-- What is being read: plain text, an escape sequence of a few characters, a control sequence, one
that is to be ignored, a device string before and inside its data, or another string. -/
inductive State
  | ground
  | escape
  | intermediate
  | control
  | controlParameter
  | controlIntermediate
  | controlIgnored
  | device
  | deviceParameter
  | deviceIntermediate
  | string
  | command
deriving DecidableEq, Repr

/-- A blank or line end: it is kept even inside a sequence, and breaks the sequence off. -/
def isBlank (c : Char) : Bool :=
  c = ' ' || c = '\t' || c = '\n' || c = '\x0c' || c = '\r'

/-- A control character that stands for itself in short sequences. -/
def isControl (c : Char) : Bool := c < ' '

/-- Whether a terminal shows the character when it is not inside a sequence. -/
def isShown (c : Char) : Bool := isBlank c || (' ' < c && c ≠ '\x7f')

/-- Whether one of the bytes that encode the character is the eight-bit end of a string. -/
def holdsTerminator (c : Char) : Bool :=
  0x80 ≤ c.toNat && (String.singleton c).toUTF8.toList.contains 0x9c

/-- Whether the blank breaks off what is being read. -/
def State.breaksAtBlank : State → Bool
  | .ground | .escape | .intermediate | .control | .controlParameter | .controlIntermediate
  | .controlIgnored => true
  | _ => false

/-- What is read after a character that belongs to a sequence. -/
def State.next (s : State) (c : Char) : State :=
  if c = '\x18' ∨ c = '\x1a' then .ground
  else if c = '\x1b' then .escape
  else if isControl c then if s = .command ∧ c = '\x07' then .ground else s
  else if 0x7f ≤ c.toNat then if s = .string ∧ holdsTerminator c then .ground else s
  else
    match s with
    | .ground => .ground
    | .command => s
    | .string => s
    | .escape =>
      if c ≤ '/' then .intermediate
      else if c = '[' then .control
      else if c = ']' then .command
      else if c = 'P' then .device
      else if c = 'X' ∨ c = '^' ∨ c = '_' then .string
      else .ground
    | .intermediate => if c ≤ '/' then s else .ground
    | .control =>
      if c ≤ '/' then .controlIntermediate else if c ≤ '?' then .controlParameter else .ground
    | .controlParameter =>
      if c ≤ '/' then .controlIntermediate
      else if c ≤ ';' then s
      else if c ≤ '?' then .controlIgnored
      else .ground
    | .controlIntermediate => if c ≤ '/' then s else if c ≤ '?' then .controlIgnored else .ground
    | .controlIgnored => if c ≤ '?' then s else .ground
    | .device =>
      if c ≤ '/' then .deviceIntermediate else if c ≤ '?' then .deviceParameter else .string
    | .deviceParameter =>
      if c ≤ '/' then .deviceIntermediate else if c ≤ ';' then s else .string
    | .deviceIntermediate => if c ≤ '/' then s else .string

/-- Whether a character is shown rather than taken as part of a sequence. -/
def State.shows (s : State) (c : Char) : Bool :=
  if isBlank c then if c = ' ' then s = .ground else s.breaksAtBlank
  else s = .ground && isShown c

/-- Keeps what is shown. While text is being shown, `s` is what had been read before it: a sequence
that was broken off goes on after the next character that is not shown. -/
def plainFrom : Bool → State → List Char → List Char
  | _, _, [] => []
  | showing, s, c :: cs =>
    if (showing && isShown c) || s.shows c then
      c :: plainFrom true (if 0x80 ≤ c.toNat then .ground else s) cs
    else plainFrom false (s.next c) cs

/-- The text that a terminal would show. -/
def plain (s : String) : String := String.ofList (plainFrom true .ground s.toList)

end EnumForge.Text.Terminal
