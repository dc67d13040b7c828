import EnumForge.Layout.Piece

/-!
From a layout to lines. The size of a gap or of a block is the room needed up to the next gap around
it; a block that does not fit into what is left of its line is broken, and its gaps end lines.
-/

namespace EnumForge.Layout

def margin : Int := 89

/-- Room that a line has at least, however far it is indented. -/
def leastRoom : Int := 60

def indent : Int := 4

structure Sized where
  piece : Piece
  size : Nat
deriving DecidableEq, Repr

/-- Pieces with their sizes. The latest piece stands first; `width` is the room that the pieces
after it take, and `gaps` tells for each open block how much of it follows the next gap around the
block. -/
def sizesFrom (width : Nat) (gaps : List Nat) (sized : List Sized) : List Piece → List Sized
  | [] => sized
  | .closing :: ps =>
    sizesFrom width (gaps.headD 0 :: gaps) (⟨.closing, 0⟩ :: sized) ps
  | .opening offset consistent :: ps =>
    let gaps := gaps.drop 1
    sizesFrom width gaps (⟨.opening offset consistent, width - gaps.headD 0⟩ :: sized) ps
  | .gap g :: ps =>
    let width := width + g.blanks
    sizesFrom width (width :: gaps.drop 1) (⟨.gap g, width - gaps.headD 0⟩ :: sized) ps
  | p :: ps => sizesFrom (width + p.width) gaps (⟨p, p.width⟩ :: sized) ps

/-- Pieces of a layout in order, with their sizes. -/
def sizes (pieces : List Piece) : List Sized := sizesFrom 0 [0] [] pieces

/-- An open block: whether it fits into its line, and otherwise the indent around it. -/
inductive Frame
  | fits
  | broken (outer : Int) (consistent : Bool)
deriving DecidableEq, Repr

/-- Progress in writing lines: the text, the latest part first; room left in the line; the indent;
the blanks that come before the next text; and the open blocks. -/
structure Progress where
  text : List String
  room : Int
  indent : Int
  pending : Nat
  frames : List Frame
deriving Repr

namespace Progress

/-- Writes a text after the blanks that are due. -/
def put (p : Progress) (s : String) : Progress :=
  { p with
    text := s :: String.ofList (List.replicate p.pending ' ') :: p.text
    pending := 0 }

def write (p : Progress) (s : String) : Progress :=
  { p.put s with room := p.room - s.utf8ByteSize }

/-- Whether a line ends at a gap of a size. -/
def breaksAt (p : Progress) (g : Gap) (size : Nat) : Bool :=
  !g.never &&
    match p.frames with
    | .fits :: _ => false
    | .broken _ true :: _ => true
    | _ => p.room < size

def stay (p : Progress) (g : Gap) : Progress :=
  let p := { p with pending := p.pending + g.blanks, room := p.room - g.blanks }
  match g.instead with
  | none => p
  | some c => { p with text := c.toString :: p.text, room := p.room - c.utf8Size }

/-- Goes on in a new line. -/
def endLine (p : Progress) (g : Gap) : Progress :=
  let p := match g.before with
    | none => p
    | some c => p.put c.toString
  let column := p.indent + g.offset
  let p := { p with
    text := "\n" :: p.text
    pending := column.toNat
    room := max (margin - column) leastRoom }
  if g.after.isEmpty then p else p.write g.after

def openBlock (p : Progress) (offset : Int) (consistent : Bool) (size : Nat) : Progress :=
  if p.room < size then
    { p with frames := .broken p.indent consistent :: p.frames, indent := p.indent + offset }
  else { p with frames := .fits :: p.frames }

def closeBlock (p : Progress) : Progress :=
  match p.frames with
  | [] => p
  | .fits :: frames => { p with frames := frames }
  | .broken outer _ :: frames => { p with frames := frames, indent := outer }

def add (p : Progress) (s : Sized) : Progress :=
  match s.piece with
  | .text t => p.write t
  | .wall => p
  | .fault => p
  | .opening offset consistent => p.openBlock offset consistent s.size
  | .closing => p.closeBlock
  | .gap g => if p.breaksAt g s.size then p.endLine g else p.stay g

end Progress

def render (pieces : List Piece) : String :=
  let p := (sizes pieces).foldl Progress.add ⟨[], margin, 0, 0, []⟩
  String.join p.text.reverse

/-- The text of what a builder builds; none when a part of it has no written form. -/
def Builder.render? (b : Builder) : Option String :=
  let pieces := b []
  if pieces.contains .fault then none else some (render pieces)

end EnumForge.Layout
