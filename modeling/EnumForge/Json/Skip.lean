import EnumForge.Json.Reader

namespace EnumForge.Json

/-- A list or an object that has been opened. -/
inductive Bracket
  | list
  | object
deriving DecidableEq, Repr

/-- What stands next: a value, the inside of a bracket just opened, or what follows a value. -/
inductive Expecting
  | value
  | inside (bracket : Bracket)
  | after
deriving DecidableEq, Repr

def skipKey (s : List Char) : Except Fault (List Char) :=
  match skipBlank s with
  | [] => .error (.next .endInObject [])
  | '"' :: r => do readColon (← skipStringFrom 0 r)
  | r => .error (.next .keyMustBeString r)

/-- Passes over a value without brackets, or the opening bracket of one. -/
def skipHead (s : List Char) : Except Fault (Expecting × List Char) :=
  match s with
  | [] => .error (.next .endInValue [])
  | c :: r =>
    if c = '[' then .ok (.inside .list, r)
    else if c = '\x7b' then .ok (.inside .object, r)
    else if c = '"' then (skipStringFrom 0 r).map (.after, ·)
    else if c = '-' ∨ isDigit c = true then do
      let (_, rest) ← readLiteral .invalidNumber s
      .ok (.after, rest)
    else do
      let (_, rest) ← readMisplaced s
      .ok (.after, rest)

/-- Passes over one value; `stack` holds the open brackets, the innermost one first. Each step takes
at least one character or closes a bracket, so the fuel is never short. -/
def skipValueFrom : Nat → Expecting → List Bracket → List Char → Except Fault (List Char)
  | 0, _, _, s => .error (.here .endInValue s)
  | _ + 1, .after, [], s => .ok s
  | fuel + 1, .value, stack, s => do
    let (expecting, rest) ← skipHead (skipBlank s)
    match expecting with
    | .inside b => skipValueFrom fuel (.inside b) (b :: stack) rest
    | e => skipValueFrom fuel e stack rest
  | fuel + 1, .inside b, stack, s =>
    match skipBlank s with
    | [] => .error (.next (if b = .list then .endInList else .endInObject) [])
    | c :: r =>
      if (c = ']' ∧ b = .list) ∨ (c = '\x7d' ∧ b = .object) then
        skipValueFrom fuel .after stack.tail r
      else if b = .object then do skipValueFrom fuel .value stack (← skipKey (c :: r))
      else skipValueFrom fuel .value stack (c :: r)
  | fuel + 1, .after, b :: stack, s =>
    match skipBlank s with
    | [] => .error (.next (if b = .list then .endInList else .endInObject) [])
    | c :: r =>
      if (c = ']' ∧ b = .list) ∨ (c = '\x7d' ∧ b = .object) then
        skipValueFrom fuel .after stack r
      else if c = ',' then
        if b = .object then do skipValueFrom fuel .value (b :: stack) (← skipKey r)
        else skipValueFrom fuel .value (b :: stack) r
      else
        .error (.next
          (if b = .list then .expectedListCommaOrEnd else .expectedObjectCommaOrEnd) (c :: r))

def skipValue (s : List Char) : Except Fault (List Char) :=
  skipValueFrom (2 * s.length + 2) .value [] s

end EnumForge.Json
