import EnumForge.Run.File
import EnumForge.Decimal.Binary64
import EnumForge.Text.Terminal

namespace EnumForge.CommandLine

open Decimal Text

/-- What the arguments ask for, or what is wrong with them. -/
inductive Request
  | run
  | help
  | version
  | unexpectedArgument (arg : String) (similar : Option String)
  | unexpectedValue (value option : String)
deriving DecidableEq, Repr

/-- What a command leaves: its status and what it prints. -/
structure Answer where
  status : Nat
  stdout : String
  stderr : String
deriving DecidableEq, Repr

/-- Marks the first unmarked place within bounds that holds a character. -/
def markFirst (c : Char) (low high : Nat) : Nat → List (Char × Bool) → Option (List (Char × Bool))
  | _, [] => none
  | i, (d, marked) :: ds =>
    if low ≤ i ∧ i < high ∧ c = d ∧ !marked then some ((d, true) :: ds)
    else (markFirst c low high (i + 1) ds).map ((d, marked) :: ·)

/-- Characters of one text that stand at nearly the same place in another, and those of the other
that they were matched with. -/
def matching (reach : Nat) : Nat → List Char → List (Char × Bool) → List Char × List Char
  | _, [], ds => ([], (ds.filter (·.2)).map (·.1))
  | i, c :: cs, ds =>
    match markFirst c (i - reach) (i + reach + 1) 0 ds with
    | some ds =>
      let (left, right) := matching reach (i + 1) cs ds
      (c :: left, right)
    | none => matching reach (i + 1) cs ds

/-- Likeness of two texts, at least zero and at most one: the mean of the shares of matched
characters in each, and of the matched characters that stand in the same order. Each step rounds. -/
def likeness (a b : List Char) : Option Binary64 := do
  let (left, right) := matching (max a.length b.length / 2 - 1) 0 a (b.map (·, false))
  let m := left.length
  let swapped := ((left.zip right).filter fun p => p.1 ≠ p.2).length / 2
  if m = 0 then return .zero
  let shares ← (← Binary64.ofRatio? m a.length).add? (← Binary64.ofRatio? m b.length)
  let sum ← shares.add? (← Binary64.ofRatio? (m - swapped) m)
  sum.div? (← Binary64.ofNat? 3)

def options : List String := ["help", "version"]

/-- The option that a word is most like, if it is like one by more than seven tenths. -/
def similar? (word : String) : Option String := do
  let threshold ← Binary64.ofRatio? 7 10
  let near := options.filterMap fun o => do
    let l ← likeness word.toList o.toList
    if threshold.isBelow l then some (l, o) else none
  let best ← near.foldl (fun best s =>
    if best.any fun b => s.1.isBelow b.1 then best else some s) none
  return best.2

def readLong (word : List Char) : Request :=
  let name := String.ofList (word.takeWhile (· ≠ '='))
  let value := (word.dropWhile (· ≠ '=')).tail?.map String.ofList
  match name, value with
  | "help", none => .help
  | "version", none => .version
  | "help", some value => .unexpectedValue value "--help"
  | "version", some value => .unexpectedValue value "--version"
  | name, _ => .unexpectedArgument ("--" ++ name) ((similar? name).map ("--" ++ ·))

/-- What the arguments ask for. -/
def Request.ofArguments : List String → Request
  | [] => .run
  | arg :: args =>
    match arg.toList with
    | ['-', '-'] =>
      match args with
      | [] => .run
      | arg :: _ => .unexpectedArgument arg none
    | '-' :: '-' :: word => readLong word
    | '-' :: 'h' :: _ => .help
    | '-' :: 'V' :: _ => .version
    | '-' :: c :: _ => .unexpectedArgument (String.ofList ['-', c]) none
    | _ => .unexpectedArgument arg none

def helpText : String :=
  "Generates typed Rust integer enums with lookup tables and JSON text (de)serialization from a " ++
    "JSON table\n\nUsage: enumgen\n\nOptions:\n  -h, --help     Print help\n" ++
    "  -V, --version  Print version\n"

def versionText : String := "enumgen 0.1.0\n"

/-- Wording for arguments that the command does not take. -/
def usageError (fault : String) (option : Option String) : Answer :=
  let usage := "enumgen" ++ (match option with
    | some o => " " ++ o
    | none => "")
  ⟨2, "", s!"error: {fault}\n\nUsage: {usage}\n\nFor more information, try '--help'.\n"⟩

/-- The answer to a request other than a run. Arguments are shown as a terminal shows them. -/
def Request.answer : Request → Answer
  | .run => ⟨0, "", ""⟩
  | .help => ⟨0, helpText, ""⟩
  | .version => ⟨0, versionText, ""⟩
  | .unexpectedArgument arg none =>
    usageError s!"unexpected argument '{Terminal.plain arg}' found" none
  | .unexpectedArgument arg (some o) =>
    let tip := s!"tip: a similar argument exists: '{o}'"
    usageError s!"unexpected argument '{Terminal.plain arg}' found\n\n  {tip}" (some o)
  | .unexpectedValue value o =>
    let value := Terminal.plain value
    usageError s!"unexpected value '{value}' for '{o}' found; no more were expected" (some o)

/-- What a run that failed leaves. Where a run breaks off, the words only name the cause. -/
def failureAnswer : Failure → Answer
  | .reported e => ⟨1, "", s!"enumgen: {e.stage.name} failed: {e.message}\n"⟩
  | .unemittable name => ⟨101, "", s!"{Text.quoted name} cannot be written as an identifier\n"⟩
  | .unformattable => ⟨101, "", "the code cannot be formatted\n"⟩
  | .unsettable name => ⟨101, "", s!"{Text.quoted name} cannot be set\n"⟩

/-- The run that the command makes: settings come from the configuration for the current
directory. -/
def generate : Run Report := do
  Run.generateWith (← Run.configuration).resolved false

/-- Carries out the command in some surroundings. It is a process of its own, so all that it leaves
is its answer and what it did to files. The dated lines on the error stream with which a run reports
its progress and its warnings are left out of the answer, and so is the variable that turns them on
and off. -/
def run (args : List String) (w : World) : Tree × Answer :=
  match Request.ofArguments args with
  | .run =>
    let (w, done) := generate w
    match done.result with
    | .ok _ => (w.tree, ⟨0, "", ""⟩)
    | .error e => (w.tree, failureAnswer e)
  | request => (w.tree, request.answer)

end EnumForge.CommandLine
