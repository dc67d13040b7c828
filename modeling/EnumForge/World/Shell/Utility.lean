import EnumForge.World.Shell.Print
import EnumForge.World.State

namespace EnumForge

open EnumForge.Text

/-- A program that every system has. -/
inductive Utility
  | copy
  | echo
  | succeed
  | fail
  | wait
deriving DecidableEq, Repr

namespace Utility

def names : List (String × Utility) :=
  [("cat", .copy), ("echo", .echo), ("true", .succeed), ("false", .fail), ("sleep", .wait)]

def ofPath? (path : String) : Option Utility :=
  (names.find? fun p => path = "/bin/" ++ p.1 || path = "/usr/bin/" ++ p.1).map (·.2)

/-- What a program did: its status, what it printed and reported, and what it left to read. -/
structure Effect where
  status : Nat
  stdout : List UInt8
  stderr : List UInt8
  unread : List UInt8

/-- What is wrong with the options of a program that knows none. -/
def optionFault? (name : String) (args : List String) : Option String :=
  let options := (args.takeWhile (· ≠ "--")).filter fun a => a.startsWith "-" && a ≠ "-"
  options.head?.map fun o =>
    let fault :=
      match o.toList with
      | '-' :: '-' :: _ => s!"unrecognized option '{o}'"
      | _ => s!"invalid option -- '{String.ofList ((o.toList.drop 1).take 1)}'"
    s!"{name}: {fault}\nTry '{name} --help' for more information.\n"

/-- Copies files one after the other; a dash stands for the input. -/
def copyFiles (w : World) (name : String) : List String → List UInt8 → Effect
  | [], input => ⟨0, [], [], input⟩
  | path :: paths, input =>
    if path = "-" then
      let e := copyFiles w name paths []
      { e with stdout := input ++ e.stdout }
    else
      let e := copyFiles w name paths input
      match w.tree.readBytes w.cwd path with
      | .ok bytes => { e with stdout := bytes ++ e.stdout }
      | .error cause =>
        let text := s!"{name}: {path}: {cause.reason}\n"
        { e with status := 1, stderr := utf8 text.toList ++ e.stderr }

/-- What a program does when it is started by a name with arguments and input. -/
def run (w : World) (name : String) (args : List String) (input : List UInt8) : Utility → Effect
  | .copy =>
    match optionFault? name args with
    | some text => ⟨1, [], utf8 text.toList, input⟩
    | none =>
      match args.filter (· ≠ "--") with
      | [] => ⟨0, input, [], []⟩
      | paths => copyFiles w name paths input
  | .echo =>
    let (bytes, ends) : List UInt8 × List UInt8 :=
      match args with
      | "-n" :: args => (utf8 (" ".intercalate args).toList, [])
      | "-e" :: args => ((Shell.argumentBytes 0 (" ".intercalate args).toList).1, [10])
      | args => (utf8 (" ".intercalate args).toList, [10])
    ⟨0, bytes ++ ends, [], input⟩
  | .succeed => ⟨0, [], [], input⟩
  | .fail => ⟨1, [], [], input⟩
  | .wait => ⟨0, [], [], input⟩

end Utility

end EnumForge
