import EnumForge.Toml.Scalar

namespace EnumForge.Toml

/-- How a table came about: along the way to a header's last key, by a header, or by dotted keys. -/
inductive Origin
  | implied
  | header
  | dotted
deriving DecidableEq, Repr

/-- What a key leads to while a document is read: a value, a table, or a list of tables of which
the latest stands first. -/
inductive Node
  | leaf (value : Value)
  | table (origin : Origin) (entries : List (String × Node))
  | tables (elements : List (List (String × Node)))

abbrev Entries := List (String × Node)

def Entries.replace (es : Entries) (key : String) (node : Node) : Entries :=
  es.map fun e => if e.1 = key then (key, node) else e

/-- Enters a value under a key whose parts lead through tables. -/
def Entries.assign (node : Node) : List String → Entries → Option Entries
  | [], _ => none
  | [k], es => if (es.lookup k).isSome then none else some (es ++ [(k, node)])
  | k :: ks, es =>
    match es.lookup k with
    | none => do some (es ++ [(k, .table .dotted (← assign node ks []))])
    | some (.table .header _) => none
    | some (.table origin sub) => do some (replace es k (.table origin (← assign node ks sub)))
    | some _ => none

/-- Opens the table that a header names. -/
def Entries.openTable : List String → Entries → Option Entries
  | [], _ => none
  | [k], es =>
    match es.lookup k with
    | none => some (es ++ [(k, .table .header [])])
    | some (.table .implied sub) => some (replace es k (.table .header sub))
    | some _ => none
  | k :: ks, es =>
    match es.lookup k with
    | none => do some (es ++ [(k, .table .implied (← openTable ks []))])
    | some (.table origin sub) => do some (replace es k (.table origin (← openTable ks sub)))
    | some (.tables (t :: ts)) => do some (replace es k (.tables ((← openTable ks t) :: ts)))
    | some _ => none

def Entries.openElement : List String → Entries → Option Entries
  | [], _ => none
  | [k], es =>
    match es.lookup k with
    | none => some (es ++ [(k, .tables [[]])])
    | some (.tables ts) => some (replace es k (.tables ([] :: ts)))
    | some _ => none
  | k :: ks, es =>
    match es.lookup k with
    | none => do some (es ++ [(k, .table .implied (← openElement ks []))])
    | some (.table origin sub) => do some (replace es k (.table origin (← openElement ks sub)))
    | some (.tables (t :: ts)) => do some (replace es k (.tables ((← openElement ks t) :: ts)))
    | some _ => none

/-- Changes the table that a header has opened. -/
def Entries.update (f : Entries → Option Entries) : List String → Entries → Option Entries
  | [], es => f es
  | k :: ks, es =>
    match es.lookup k with
    | some (.table origin sub) => do some (replace es k (.table origin (← update f ks sub)))
    | some (.tables (t :: ts)) => do some (replace es k (.tables ((← update f ks t) :: ts)))
    | _ => none

mutual

def Node.value : Node → Value
  | .leaf v => v
  | .table _ entries => .table (entryValues entries)
  | .tables elements => .array (elementValues elements).reverse

def entryValues : List (String × Node) → List (String × Value)
  | [] => []
  | (k, n) :: es => (k, n.value) :: entryValues es

def elementValues : List (List (String × Node)) → List Value
  | [] => []
  | t :: ts => .table (entryValues t) :: elementValues ts

end

/-- Passes over blanks, line ends and comments. -/
def skipLinesFrom (inComment : Bool) : List Char → List Char
  | [] => []
  | '\r' :: '\n' :: r => skipLinesFrom false r
  | c :: r =>
    if c = '\n' then skipLinesFrom false r
    else if inComment then if isPlain c then skipLinesFrom true r else c :: r
    else if isBlank c then skipLinesFrom false r
    else if c = '#' then skipLinesFrom true r
    else c :: r

def skipLines (s : List Char) : List Char := skipLinesFrom false s

mutual

/-- Reads a value in which brackets are nested at most `levels` deep; the fuel bounds the number of
values that it holds. -/
def readValue? : Nat → Nat → List Char → Option (Value × List Char)
  | 0, _, _ => none
  | fuel + 1, levels, s =>
    match s with
    | '[' :: r =>
      if levels = 0 then none
      else (readItems? fuel (levels - 1) r).map fun p => (.array p.1, p.2)
    | '\x7b' :: r =>
      if levels = 0 then none
      else (readFields? fuel (levels - 1) [] r).map fun p => (.table (entryValues p.1), p.2)
    | s => readScalar? s

def readItems? : Nat → Nat → List Char → Option (List Value × List Char)
  | 0, _, _ => none
  | fuel + 1, levels, s =>
    match skipLines s with
    | ']' :: r => some ([], r)
    | s => do
      let (v, r) ← readValue? fuel levels s
      match skipLines r with
      | ']' :: r => some ([v], r)
      | ',' :: r => do
        let (vs, rest) ← readItems? fuel levels r
        some (v :: vs, rest)
      | _ => none

def readFields? : Nat → Nat → Entries → List Char → Option (Entries × List Char)
  | 0, _, _, _ => none
  | fuel + 1, levels, es, s =>
    match skipLines s with
    | '\x7d' :: r => some (es, r)
    | s => do
      let (key, r) ← readKey? s
      match skipLines r with
      | '=' :: r => do
        let (v, r) ← readValue? fuel levels (skipLines r)
        let es ← es.assign (.leaf v) key
        match skipLines r with
        | '\x7d' :: r => some (es, r)
        | ',' :: r => readFields? fuel levels es r
        | _ => none
      | _ => none

end

/-- Passes over the end of a statement: blanks, a comment, and the line end. -/
def endStatement? (s : List Char) : Option (List Char) :=
  match skipComment (skipBlank s) with
  | [] => some []
  | r => lineEnd? r

/-- Reads statements; `path` is the table that the last header opened. Each statement takes a
character, so the length of the text is fuel enough. -/
def readStatements? : Nat → List String → Entries → List Char → Option Entries
  | 0, _, _, _ => none
  | fuel + 1, path, es, s =>
    match skipLines s with
    | [] => some es
    | '[' :: '[' :: r => do
      let (key, r) ← readKey? r
      match r with
      | ']' :: ']' :: r => do
        readStatements? fuel key (← es.openElement key) (← endStatement? r)
      | _ => none
    | '[' :: r => do
      let (key, r) ← readKey? r
      match r with
      | ']' :: r => do readStatements? fuel key (← es.openTable key) (← endStatement? r)
      | _ => none
    | s => do
      let (key, r) ← readKey? s
      match r with
      | '=' :: r => do
        let r := skipBlank r
        let (v, r) ← readValue? (r.length + 1) maxDepth r
        let es ← es.update (·.assign (.leaf v) key) path
        readStatements? fuel path es (← endStatement? r)
      | _ => none

/-- Entries of a document; none when it is not TOML. -/
def parse? (text : String) : Option (List (String × Value)) :=
  let s := match text.toList with
    | '\ufeff' :: r => r
    | r => r
  (readStatements? (s.length + 1) [] [] s).map entryValues

end EnumForge.Toml
