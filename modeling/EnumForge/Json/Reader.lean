import EnumForge.Json.Text
import EnumForge.Json.Number

namespace EnumForge.Json

/-- Blanks between the parts of a document. -/
def isBlank (c : Char) : Bool := c = ' ' || c = '\n' || c = '\t' || c = '\r'

def skipBlank (s : List Char) : List Char := s.dropWhile isBlank

/-- Reads the letters of a word such as `null` after its first one. -/
def readWord : List Char → List Char → Except Fault (List Char)
  | [], s => .ok s
  | _ :: _, [] => .error (.here .endInValue [])
  | w :: ws, c :: cs => if c = w then readWord ws cs else .error (.next .expectedWord (c :: cs))

/-- A `null`, `true`, `false`, number or string at the head of the text, as a misplaced value. -/
def readMisplaced (s : List Char) : Except Fault (Found × List Char) :=
  match s with
  | [] => .error (.next .expectedValue [])
  | c :: r =>
    if c = 'n' then (readWord ['u', 'l', 'l'] r).map (Found.null, ·)
    else if c = 't' then (readWord ['r', 'u', 'e'] r).map (Found.bool true, ·)
    else if c = 'f' then (readWord ['a', 'l', 's', 'e'] r).map (Found.bool false, ·)
    else if c = '-' ∨ isDigit c = true then do
      let (n, rest) ← readNumeral s
      .ok (n.number.found, rest)
    else if c = '"' then do
      let (t, rest) ← readString r
      .ok (.string (String.ofList t), rest)
    else .error (.next .expectedValue s)

/-- The fault of a value that is not of the expected kind; a list or an object is refused at its
opening bracket. -/
def misplaced (expected : String) (s : List Char) : Fault :=
  match s with
  | '[' :: _ => .here (.invalidType .list expected) s
  | '\x7b' :: _ => .here (.invalidType .object expected) s
  | _ =>
    match readMisplaced s with
    | .ok (found, rest) => .here (.invalidType found expected) rest
    | .error fault => fault

def readStringValue (s : List Char) : Except Fault (List Char × List Char) :=
  match skipBlank s with
  | [] => .error (.next .endInValue [])
  | '"' :: r => readString r
  | r => .error (misplaced "a string" r)

/-- Where reading goes on after an object that was given up. -/
def leaveObject (s : List Char) : List Char :=
  match skipBlank s with
  | '\x7d' :: r => r
  | r => r

/-- Where reading goes on after a list that was given up. -/
def leaveList (s : List Char) : List Char :=
  match skipBlank s with
  | ']' :: r => r
  | ',' :: r => skipBlank r
  | r => r

/-- Reads a number value; a list or an object is entered before it is refused. -/
def readNumberValue (s : List Char) : Except Fault (Numeral × List Char) :=
  let expected := "a JSON number"
  match skipBlank s with
  | [] => .error (.next .endInValue [])
  | '[' :: r => .error (.here (.invalidType .list expected) (leaveList r))
  | '\x7b' :: r => .error (.here (.invalidType .object expected) (leaveObject r))
  | c :: r =>
    if c = '-' ∨ isDigit c = true then readNumeral (c :: r)
    else .error (misplaced expected (c :: r))

def readColon (s : List Char) : Except Fault (List Char) :=
  match skipBlank s with
  | [] => .error (.next .endInObject [])
  | ':' :: r => .ok r
  | r => .error (.next .expectedColon r)

/-- Looks for the next member of an object: the text after the quote that opens its key, or none
before the closing brace. -/
def nextKey (first : Bool) (s : List Char) : Except Fault (Option (List Char)) :=
  match skipBlank s with
  | [] => .error (.next .endInObject [])
  | '\x7d' :: _ => .ok none
  | c :: r =>
    if first then
      if c = '"' then .ok (some r) else .error (.next .keyMustBeString (c :: r))
    else if c = ',' then
      match skipBlank r with
      | [] => .error (.next .endInValue [])
      | '"' :: k => .ok (some k)
      | '\x7d' :: k => .error (.next .trailingComma ('\x7d' :: k))
      | k => .error (.next .keyMustBeString k)
    else .error (.next .expectedObjectCommaOrEnd (c :: r))

/-- Reads one member of an object into what has been read so far: its key is given, and the text
begins before its colon. -/
abbrev MemberReader (α : Type) := α → List Char → List Char → Except Fault (α × List Char)

/-- Reads members up to the closing brace; the fuel bounds their number. -/
def readMembers {α : Type} (member : MemberReader α) :
    Nat → Bool → α → List Char → Except Fault (α × List Char)
  | 0, _, _, s => .error (.here .endInObject s)
  | fuel + 1, first, acc, s => do
    match ← nextKey first s with
    | none => .ok (acc, skipBlank s)
    | some r =>
      let (key, r) ← readString r
      let (acc, r) ← member acc key r
      readMembers member fuel false acc r

/-- Passes over the closing brace that reading the members stopped at. -/
def closeObject (s : List Char) : Except Fault (List Char) :=
  match skipBlank s with
  | '\x7d' :: r => .ok r
  | [] => .error (.next .endInObject [])
  | ',' :: r => .error (.next .trailingComma (',' :: r))
  | r => .error (.next .trailingCharacters r)

/-- Reads an object after its opening brace, then turns what was read into a value. A loose fault is
placed after the brace that closes the object, if the brace is next. -/
def readObject {α β : Type} (member : MemberReader α) (init : α) (finish : α → Except Cause β)
    (s : List Char) : Except Fault (β × List Char) :=
  let read : Except Fault (β × List Char) := do
    let (acc, r) ← readMembers member (s.length + 1) true init s
    match finish acc with
    | .ok b => .ok (b, r)
    | .error cause => .error (.loose cause r)
  match read with
  | .ok (b, r) => (closeObject r).map (b, ·)
  | .error fault => .error (fault.settle leaveObject)

/-- Reads an object value whose members are all read alike. -/
def readMapValue {α : Type} (member : MemberReader α) (init : α) (s : List Char) :
    Except Fault (α × List Char) :=
  match skipBlank s with
  | [] => .error (.next .endInValue [])
  | '\x7b' :: r => readObject member init .ok r
  | r => .error (misplaced "a map" r)

/-- Looks for the next element of a list: the text before it, or none before the closing bracket. -/
def nextElement (first : Bool) (s : List Char) : Except Fault (Option (List Char)) :=
  match skipBlank s with
  | [] => .error (.next .endInList [])
  | ']' :: _ => .ok none
  | c :: r =>
    if first then .ok (some (c :: r))
    else if c = ',' then
      match skipBlank r with
      | [] => .error (.next .endInValue [])
      | ']' :: k => .error (.next .trailingComma (']' :: k))
      | k => .ok (some k)
    else .error (.next .expectedListCommaOrEnd (c :: r))

/-- Passes over the bracket that closes a list. -/
def closeList (s : List Char) : Except Fault (List Char) :=
  match skipBlank s with
  | ']' :: r => .ok r
  | [] => .error (.next .endInList [])
  | ',' :: r =>
    match skipBlank r with
    | ']' :: k => .error (.next .trailingComma (']' :: k))
    | k => .error (.next .trailingCharacters k)
  | r => .error (.next .trailingCharacters r)

/-- Refuses anything but blanks. -/
def readEnd (s : List Char) : Except Fault Unit :=
  match skipBlank s with
  | [] => .ok ()
  | r => .error (.next .trailingCharacters r)

/-- Reads a whole document that holds one value. -/
def readDocument {α : Type} (value : List Char → Except Fault (α × List Char)) (text : String) :
    Except Error α :=
  let read : Except Fault α := do
    let (a, rest) ← value text.toList
    readEnd rest
    .ok a
  match read with
  | .ok a => .ok a
  | .error fault => .error (fault.toError text.toList)

end EnumForge.Json
