import EnumForge.Source.Grammar.Statement
import EnumForge.Source.Lexer

namespace EnumForge.Source

namespace Grammar

/-- Takes what a goal asks for, given the readers of what may stand inside. -/
def step (g : Readers) : Goal → Reader Node
  | .type sums => tyStep g sums
  | .bound captures constants => bound g captures constants
  | .parameter => parameter g
  | .pattern => patternStep g
  | .alternatives => alternativesStep g
  | .expression records rank => expressionStep g records rank
  | .operand records => operandStep g records
  | .leading => leadingStep g
  | .statement => statementStep g
  | .item => attributedBy g (bareItem g)
  | .member place => memberStep g place

/-- Takes what a goal asks for; the fuel bounds how deep it goes. -/
def read : Nat → Readers
  | 0, _, _ => none
  | fuel + 1, goal, ts => step (read fuel) goal ts

/-- The text after blanks and comments that leave no trace. -/
def skipTrivia : Nat → List Char → List Char
  | 0, s => s
  | fuel + 1, s =>
    match plainComment? s, s with
    | some rest, _ => skipTrivia fuel rest
    | none, c :: r => if isSpace c then skipTrivia fuel r else s
    | none, [] => []

/-- Splits off a first line that names the interpreter of a program. -/
def splitShebang (s : List Char) : Option (List Char) × List Char :=
  match s with
  | '#' :: '!' :: r =>
    if (skipTrivia r.length r).head? = some '[' then (none, s)
    else (some (s.takeWhile (· ≠ '\n')), s.dropWhile (· ≠ '\n'))
  | _ => (none, s)

def treeCount : List Tree → Nat
  | [] => 0
  | .group _ ts :: rest => 1 + treeCount ts + treeCount rest
  | _ :: rest => 1 + treeCount rest

/-- Goals that may follow each other without a tree in between are fewer than these. -/
def goalsPerTree : Nat := 8

/-- Readers that go as deep as some trees can. -/
def readersOf (ts : List Tree) : Readers := read (goalsPerTree * (treeCount ts + 2))

end Grammar

open Grammar

/-- The program that a text holds; none when it holds none. -/
def Program.parse? (text : List Char) : Option Program := do
  let (shebang, rest) := splitShebang (dropByteOrderMark text)
  let ts ← trees? rest
  let g := readersOf ts
  let (inner, ts) ← (innerAttributes g).run ts
  return ⟨shebang.map String.ofList, inner, ← many? (g .item) ts⟩

end EnumForge.Source
