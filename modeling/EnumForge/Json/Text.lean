import EnumForge.Json.Fault

namespace EnumForge.Json

open EnumForge.Text

def encodeChar (c : Char) : List Char :=
  if c = '"' then ['\\', '"']
  else if c = '\\' then ['\\', '\\']
  else if c = '\x08' then ['\\', 'b']
  else if c = '\t' then ['\\', 't']
  else if c = '\n' then ['\\', 'n']
  else if c = '\x0c' then ['\\', 'f']
  else if c = '\r' then ['\\', 'r']
  else if c < ' ' then ['\\', 'u'] ++ hexPadded 4 c.toNat
  else [c]

def encode (s : List Char) : List Char := '"' :: s.flatMap encodeChar ++ ['"']

/-- Value of the four hexadecimal digits at the head of the text. -/
def hexUnit (s : List Char) : Except Fault Nat :=
  if byteCount s < 4 then .error (.placed .endInString 0)
  else
    match if (s.take 4).length = 4 then hexValue? (s.take 4) else none with
    | some n => .ok n
    | none => .error (.placed .invalidEscape (byteCount s - 4))

def isLeadingSurrogate (n : Nat) : Bool := 0xD800 ≤ n && n ≤ 0xDBFF

def isTrailingSurrogate (n : Nat) : Bool := 0xDC00 ≤ n && n ≤ 0xDFFF

/-- The character that a pair of surrogates stands for. -/
def surrogatePair (lead trail : Nat) : Char :=
  Char.ofNat (0x10000 + (lead - 0xD800) * 0x400 + (trail - 0xDC00))

/-- The rest of a pair whose first half has been read: its second half, and how many characters
the second escape takes. -/
def trailingEscape : List Char → Except Fault Nat
  | [] => .error (.here .endInString [])
  | '\\' :: rest =>
    match rest with
    | [] => .error (.here .endInString [])
    | 'u' :: digits => do
      let n ← hexUnit digits
      if isTrailingSurrogate n then .ok n
      else .error (.here .loneSurrogate (digits.drop 4))
    | _ => .error (.next .unfinishedSurrogatePair rest)
  | rest => .error (.next .unfinishedSurrogatePair rest)

/-- Meaning of an escape after its backslash, and how many characters it takes. -/
def readEscape : List Char → Except Fault (Char × Nat)
  | [] => .error (.here .endInString [])
  | '"' :: _ => .ok ('"', 1)
  | '\\' :: _ => .ok ('\\', 1)
  | '/' :: _ => .ok ('/', 1)
  | 'b' :: _ => .ok ('\x08', 1)
  | 'f' :: _ => .ok ('\x0c', 1)
  | 'n' :: _ => .ok ('\n', 1)
  | 'r' :: _ => .ok ('\r', 1)
  | 't' :: _ => .ok ('\t', 1)
  | 'u' :: digits => do
    let n ← hexUnit digits
    if isTrailingSurrogate n then .error (.here .loneSurrogate (digits.drop 4))
    else if isLeadingSurrogate n then
      let trail ← trailingEscape (digits.drop 4)
      .ok (surrogatePair n trail, 11)
    else .ok (Char.ofNat n, 5)
  | rest => .error (.next .invalidEscape rest)

/-- Reads a string up to its closing quote; `skip` characters at the head belong to an escape that
has been read. -/
def readStringFrom : Nat → List Char → Except Fault (List Char × List Char)
  | _, [] => .error (.here .endInString [])
  | skip + 1, _ :: cs => readStringFrom skip cs
  | 0, c :: cs =>
    if c = '"' then .ok ([], cs)
    else if c = '\\' then do
      let (d, n) ← readEscape cs
      let (s, rest) ← readStringFrom n cs
      .ok (d :: s, rest)
    else if c < ' ' then .error (.next .controlCharacter (c :: cs))
    else do
      let (s, rest) ← readStringFrom 0 cs
      .ok (c :: s, rest)

/-- Reads a string after its opening quote. -/
def readString (s : List Char) : Except Fault (List Char × List Char) := readStringFrom 0 s

/-- Passes over a string after its opening quote; surrogates need not come in pairs here. -/
def skipStringFrom : Nat → List Char → Except Fault (List Char)
  | _, [] => .error (.here .endInString [])
  | skip + 1, _ :: cs => skipStringFrom skip cs
  | 0, c :: cs =>
    if c = '"' then .ok cs
    else if c = '\\' then
      match cs with
      | [] => .error (.here .endInString [])
      | d :: ds =>
        if d = 'u' then do
          let _ ← hexUnit ds
          skipStringFrom 5 cs
        else if d ∈ ['"', '\\', '/', 'b', 'f', 'n', 'r', 't'] then skipStringFrom 1 cs
        else .error (.next .invalidEscape cs)
    else if c < ' ' then .error (.here .controlCharacter (c :: cs))
    else skipStringFrom 0 cs

end EnumForge.Json
