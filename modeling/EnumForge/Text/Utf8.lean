namespace EnumForge.Text

def utf8 (s : List Char) : List UInt8 := s.flatMap String.utf8EncodeChar

/-- What stands at the head of some bytes: a character, bytes that begin none, or the first bytes
of a character whose rest is missing. -/
inductive Utf8Head
  | char (c : Char) (length : Nat)
  | wrong (length : Nat)
  | cut
deriving DecidableEq, Repr

/-- Bytes that may follow the first byte of a character; the first of them is narrowed where a
shorter form or a surrogate would be written. -/
def secondByteRange (first : UInt8) : UInt8 × UInt8 :=
  if first = 0xE0 then (0xA0, 0xBF)
  else if first = 0xED then (0x80, 0x9F)
  else if first = 0xF0 then (0x90, 0xBF)
  else if first = 0xF4 then (0x80, 0x8F)
  else (0x80, 0xBF)

/-- Six bits carried by a continuation byte. -/
def continuation (b : UInt8) : Nat := b.toNat % 64

/-- Whether the byte is 10xxxxxx. -/
def isContinuation (b : UInt8) : Bool := 0x80 ≤ b && b ≤ 0xBF

/-- How many bytes a character takes that begins with this byte. -/
def sequenceLength (first : UInt8) : Option Nat :=
  if first < 0x80 then some 1
  else if 0xC2 ≤ first && first ≤ 0xDF then some 2
  else if 0xE0 ≤ first && first ≤ 0xEF then some 3
  else if 0xF0 ≤ first && first ≤ 0xF4 then some 4
  else none

def leadBits (first : UInt8) (length : Nat) : Nat :=
  match length with
  | 1 => first.toNat
  | 2 => first.toNat % 32
  | 3 => first.toNat % 16
  | _ => first.toNat % 8

/-- Reads the continuation bytes still owed; `done` counts the bytes read so far. -/
def continueHead (value done : Nat) : Nat → List UInt8 → Utf8Head
  | 0, _ => .char (Char.ofNat value) done
  | _ + 1, [] => .cut
  | owed + 1, b :: bs =>
    if isContinuation b then continueHead (64 * value + continuation b) (done + 1) owed bs
    else .wrong done

def utf8Head (first : UInt8) (rest : List UInt8) : Utf8Head :=
  match sequenceLength first with
  | none => .wrong 1
  | some 1 => .char (Char.ofNat first.toNat) 1
  | some n =>
    match rest with
    | [] => .cut
    | b :: bs =>
      let range := secondByteRange first
      if range.1 ≤ b ∧ b ≤ range.2 then
        continueHead (64 * leadBits first n + continuation b) 2 (n - 2) bs
      else .wrong 1

/-- Why bytes are no text: from byte `index` on, `length` bytes are wrong, or the text ends inside
a character. -/
inductive Utf8Error
  | wrong (length index : Nat)
  | cut (index : Nat)
deriving DecidableEq, Repr

def Utf8Error.message : Utf8Error → String
  | .wrong length index => s!"invalid utf-8 sequence of {length} bytes from index {index}"
  | .cut index => s!"incomplete utf-8 byte sequence from index {index}"

/-- Reads text; `index` is the place of the first byte, and `skip` bytes at the head belong to a
character that has been read. -/
def ofUtf8From (index : Nat) : Nat → List UInt8 → Except Utf8Error (List Char)
  | _, [] => .ok []
  | skip + 1, _ :: bs => ofUtf8From (index + 1) skip bs
  | 0, b :: bs =>
    match utf8Head b bs with
    | .char c n => (ofUtf8From (index + 1) (n - 1) bs).map (c :: ·)
    | .wrong n => .error (.wrong n index)
    | .cut => .error (.cut index)

def ofUtf8 (bytes : List UInt8) : Except Utf8Error (List Char) := ofUtf8From 0 0 bytes

def ofUtf8LossyFrom : Nat → List UInt8 → List Char
  | _, [] => []
  | skip + 1, _ :: bs => ofUtf8LossyFrom skip bs
  | 0, b :: bs =>
    match utf8Head b bs with
    | .char c n => c :: ofUtf8LossyFrom (n - 1) bs
    | .wrong n => '\uFFFD' :: ofUtf8LossyFrom (n - 1) bs
    | .cut => ['\uFFFD']

/-- The text that the bytes hold, with U+FFFD in the place of wrong bytes. -/
def ofUtf8Lossy (bytes : List UInt8) : List Char := ofUtf8LossyFrom 0 bytes

end EnumForge.Text
