namespace EnumForge.Layout

/-- Width of a gap at which a line must end. -/
def boundless : Nat := 0xffff

/-- A place where a line may end: the blanks that it stands for otherwise, what is added to the
indent of the next line, what is written before and after the line end or in its stead, whether it
goes when nothing follows it in its block, and whether the line in truth never ends here. -/
structure Gap where
  blanks : Nat
  offset : Int
  before : Option Char
  after : String
  instead : Option Char
  ifNonempty : Bool
  never : Bool
deriving DecidableEq, Repr

def Gap.plain (blanks : Nat) : Gap := ⟨blanks, 0, none, "", none, false, false⟩

/-- A piece of a layout. The gaps of a consistent block end lines all together or not at all; a wall
is an empty text that no line has room for; a fault stands where something has no written form. -/
inductive Piece
  | text (s : String)
  | opening (offset : Int) (consistent : Bool)
  | closing
  | gap (g : Gap)
  | wall
  | fault
deriving DecidableEq, Repr

/-- Room that a piece takes in a line, in bytes. -/
def Piece.width : Piece → Nat
  | text s => s.utf8ByteSize
  | gap g => g.blanks
  | wall => boundless
  | opening .. => 0
  | closing => 0
  | fault => 0

/-- What adds pieces to a layout; the latest piece stands first. -/
abbrev Builder := List Piece → List Piece

namespace Builder

def all (bs : List Builder) : Builder := fun pieces => bs.foldl (fun ps b => b ps) pieces

def nothing : Builder := id

def word (s : String) : Builder := fun ps => .text s :: ps

def gap (g : Gap) : Builder := fun ps => .gap g :: ps

/-- Opens a block whose gaps each end a line when what follows does not fit. -/
def loose (offset : Int) : Builder := fun ps => .opening offset false :: ps

/-- Opens a block whose gaps end lines together. -/
def firm (offset : Int) : Builder := fun ps => .opening offset true :: ps

/-- Closes a block. One that holds nothing but a gap goes, and so does a gap that needs something
after it. -/
def close : Builder
  | .gap _ :: .opening .. :: ps => ps
  | .gap g :: ps => if g.ifNonempty then .closing :: ps else .closing :: .gap g :: ps
  | ps => .closing :: ps

/-- Moves the line after the latest gap. -/
def offset (n : Int) : Builder
  | .gap g :: ps => .gap { g with offset := g.offset + n } :: ps
  | ps => ps

def openWidth : Nat → List Piece → Nat
  | _, [] => 0
  | depth, .closing :: ps => openWidth (depth + 1) ps
  | 0, .opening .. :: _ => 0
  | depth + 1, .opening .. :: ps => openWidth depth ps
  | depth, p :: ps => p.width + openWidth depth ps

/-- Closes a block, which takes no more than the given room in a line. -/
def closeWithin (room : Nat) : Builder := fun ps =>
  close (if room < openWidth 0 ps then .wall :: ps else ps)

/-- A gap of no blanks. -/
def seam : Builder := gap (.plain 0)

def space : Builder := gap (.plain 1)

/-- A blank at which no line ends. -/
def blank : Builder := word " "

/-- Adds what stands where something has no written form. -/
def fault : Builder := fun ps => .fault :: ps

def endsInPoint : List Piece → Bool
  | [] => false
  | .text s :: _ => s.endsWith "."
  | _ :: ps => endsInPoint ps

/-- A blank that keeps a point apart from one before it. -/
def apart : Builder := fun ps => if endsInPoint ps then blank ps else ps

def line : Builder := gap (.plain boundless)

def spaceIfNonempty : Builder := gap { Gap.plain 1 with ifNonempty := true }

def lineIfNonempty : Builder := gap { Gap.plain boundless with ifNonempty := true }

/-- A gap at which no line ends. What stands before it is measured without what follows. -/
def neverBreak : Builder := gap { Gap.plain 0 with never := true }

/-- After an item of a list: a comma and a gap, or after the last item a gap that brings a comma
where the line ends. -/
def comma (last : Bool) : Builder :=
  if last then gap { Gap.plain 0 with before := some ',' } else all [word ",", space]

/-- The same, with a blank after the last item where the line does not end. -/
def commaOrSpace (last : Bool) : Builder :=
  if last then gap { Gap.plain 1 with before := some ',' } else all [word ",", space]

def each {α : Type} (item : Bool → α → Builder) : List α → Builder
  | [] => nothing
  | [a] => item true a
  | a :: rest => all [item false a, each item rest]

/-- Adds each item of a list, with a separator between each two. -/
def separated {α : Type} (separator : Builder) (item : α → Builder) : List α → Builder :=
  each fun last a => if last then item a else all [item a, separator]

def onlyIf (c : Bool) (b : Builder) : Builder := if c then b else nothing

def whenSome {α : Type} (b : α → Builder) : Option α → Builder
  | none => nothing
  | some a => b a

end Builder

end EnumForge.Layout
