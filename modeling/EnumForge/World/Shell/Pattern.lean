namespace EnumForge.Shell

/-- A character that may have a meaning in a pattern, and whether it was quoted. -/
structure Mark where
  char : Char
  isQuoted : Bool
deriving DecidableEq, Repr

inductive Matcher
  | exactly (char : Char)
  | anyChar
  | anyText
  | oneOf (inverted : Bool) (ranges : List (Char × Char))
deriving DecidableEq, Repr

def ranges : List Mark → List (Char × Char)
  | a :: ⟨'-', false⟩ :: b :: ms => (a.char, b.char) :: ranges ms
  | a :: ms => (a.char, a.char) :: ranges ms
  | [] => []

/-- What stands in brackets, and how many marks it takes with the closing one; a closing bracket
right after the opening one stands for itself. -/
def bracket? (ms : List Mark) : Option (Matcher × Nat) :=
  let inverted := ms.head?.any fun m => m = ⟨'!', false⟩ || m = ⟨'^', false⟩
  let body := if inverted then ms.drop 1 else ms
  let first := body.take 1
  let inner := first ++ (body.drop 1).takeWhile (· ≠ ⟨']', false⟩)
  if inner.length < body.length then
    some (.oneOf inverted (ranges inner), (if inverted then 1 else 0) + inner.length + 1)
  else none

def matchersFrom : Nat → List Mark → List Matcher
  | _, [] => []
  | skip + 1, _ :: ms => matchersFrom skip ms
  | 0, m :: ms =>
    if m.isQuoted then .exactly m.char :: matchersFrom 0 ms
    else if m.char = '*' then .anyText :: matchersFrom 0 ms
    else if m.char = '?' then .anyChar :: matchersFrom 0 ms
    else if m.char = '[' then
      match bracket? ms with
      | some (matcher, n) => matcher :: matchersFrom n ms
      | none => .exactly m.char :: matchersFrom 0 ms
    else .exactly m.char :: matchersFrom 0 ms

def Matcher.accepts (c : Char) : Matcher → Bool
  | .exactly d => c = d
  | .anyChar => true
  | .anyText => true
  | .oneOf inverted rs => (rs.any fun r => r.1 ≤ c && c ≤ r.2) != inverted

/-- Whether some ending of a text has a property. -/
def someEnding (p : List Char → Bool) : List Char → Bool
  | [] => p []
  | c :: cs => p (c :: cs) || someEnding p cs

/-- Whether a pattern stands for a text. -/
def fits : List Matcher → List Char → Bool
  | [], cs => cs.isEmpty
  | .anyText :: ms, cs => someEnding (fits ms) cs
  | _ :: _, [] => false
  | m :: ms, c :: cs => m.accepts c && fits ms cs

/-- What is left of a text without the shortest or longest part at its start that fits. -/
def cutStart (longest : Bool) (ms : List Matcher) (cs : List Char) : List Char :=
  let sizes := List.range (cs.length + 1)
  match (if longest then sizes.reverse else sizes).find? fun n => fits ms (cs.take n) with
  | some n => cs.drop n
  | none => cs

/-- What is left of a text without the shortest or longest part at its end that fits. -/
def cutEnd (longest : Bool) (ms : List Matcher) (cs : List Char) : List Char :=
  let sizes := List.range (cs.length + 1)
  match (if longest then sizes else sizes.reverse).find? fun n => fits ms (cs.drop n) with
  | some n => cs.take n
  | none => cs

end EnumForge.Shell
