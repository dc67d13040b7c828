import EnumForge.World.Shell.Token

namespace EnumForge.Shell

structure Redirect where
  descriptor : Nat
  sort : Redirection
  target : Word
deriving DecidableEq, Repr

inductive Command
  | simple (line : Nat) (words : List Word) (redirects : List Redirect)
  | inOrder (first second : Command)
  | onSuccess (first second : Command)
  | onFailure (first second : Command)
  | piped (first second : Command)
  | inverted (body : Command)
  | aside (body : Command)
  | inside (body : Command)
  | redirected (line : Nat) (body : Command) (redirects : List Redirect)
  | choice (condition yes no : Command)
  | loop (whileFails : Bool) (condition body : Command)
  | each (name : String) (words : List Word) (body : Command)
  | selection (subject : Word) (arms : List (List Word × Command))
  | function (name : String) (body : Command)
  | nothing

structure Mistake where
  line : Nat
  text : String
deriving DecidableEq, Repr

/-- Words with a meaning of their own where a command can begin. -/
def reserved : List String :=
  ["!", "case", "do", "done", "elif", "else", "esac", "fi", "for", "if", "in", "then", "until",
   "while", "\x7b", "\x7d"]

def Token.plainText? : Token → Option String
  | .word w => w.plainText?.map String.ofList
  | _ => none

def reserved? (ts : Tokens) : Option String :=
  (ts.head?.bind (·.2.plainText?)).filter (· ∈ reserved)

/-- Whether a token with a text stands at the head, be it an operator or a reserved word. -/
def beginsWith (ts : Tokens) (text : String) : Bool :=
  match ts with
  | (_, .operator o) :: _ => o = text
  | _ => reserved? ts = some text

/-- The mistake that the token at the head is; `expected` may stand there instead. -/
def unexpected {α : Type} (ts : Tokens) (expected : Option String) : Except Mistake α :=
  let line := (ts.head?.map (·.1)).getD 1
  match ts with
  | (line, .fault text) :: _ => .error ⟨line, text⟩
  | _ =>
    let found :=
      match ts with
      | [] => Token.ending.text
      | (_, t) :: _ => ((reserved? ts).map fun w => s!"\"{w}\"").getD t.text
    match expected with
    | some text => .error ⟨line, s!"{found} unexpected (expecting \"{text}\")"⟩
    | none => .error ⟨line, s!"{found} unexpected"⟩

def expect (text : String) (ts : Tokens) : Except Mistake Tokens :=
  if beginsWith ts text then .ok ts.tail else unexpected ts (some text)

def isDone (ts : Tokens) : Bool :=
  match ts with
  | [] => true
  | (_, t) :: _ => t = .ending

def skipLines (ts : Tokens) : Tokens :=
  ts.dropWhile fun t => t.2 = .operator "\n"

def readRedirects : Tokens → Except Mistake (List Redirect × Tokens)
  | (_, .redirection descriptor (.document text isOpen)) :: ts => do
    let (rest, ts) ← readRedirects ts
    return (⟨descriptor, .document text isOpen, []⟩ :: rest, ts)
  | (_, .redirection descriptor sort) :: (_, .word w) :: ts => do
    let (rest, ts) ← readRedirects ts
    return (⟨descriptor, sort, w⟩ :: rest, ts)
  | (_, .redirection ..) :: ts => unexpected ts none
  | ts => .ok ([], ts)

def readWords : Tokens → Except Mistake ((List Word × List Redirect) × Tokens)
  | (_, .word w) :: ts => do
    let ((words, redirects), ts) ← readWords ts
    return ((w :: words, redirects), ts)
  | (_, .redirection descriptor (.document text isOpen)) :: ts => do
    let ((words, redirects), ts) ← readWords ts
    return ((words, ⟨descriptor, .document text isOpen, []⟩ :: redirects), ts)
  | (_, .redirection descriptor sort) :: (_, .word w) :: ts => do
    let ((words, redirects), ts) ← readWords ts
    return ((words, ⟨descriptor, sort, w⟩ :: redirects), ts)
  | (_, .redirection ..) :: ts => unexpected ts none
  | (line, .fault text) :: _ => .error ⟨line, text⟩
  | ts => .ok (([], []), ts)

/-- The words before the end of a line or the operator that ends it. -/
def readNames : Tokens → Except Mistake (List Word × Tokens)
  | (_, .word w) :: ts => do
    let (rest, ts) ← readNames ts
    return (w :: rest, ts)
  | ts =>
    if beginsWith ts ";" || beginsWith ts "\n" then .ok ([], ts.tail) else unexpected ts none

def readPatterns : Tokens → Except Mistake (List Word × Tokens)
  | (_, .word w) :: (_, .operator "|") :: ts => do
    let (rest, ts) ← readPatterns ts
    return (w :: rest, ts)
  | (_, .word w) :: ts => do return ([w], ← expect ")" ts)
  | ts => unexpected ts (some ")")

/-- The tokens that end a list of commands. -/
def endsList (ts : Tokens) : Bool :=
  isDone ts || [")", ";;", "do", "done", "elif", "else", "esac", "fi", "then", "\x7d"].any
    (beginsWith ts)

def allArguments : List Word := [[.parameter ['@'] true]]

mutual

def readList : Nat → Tokens → Except Mistake (Command × Tokens)
  | 0, ts => unexpected ts none
  | fuel + 1, ts => do
    let (first, ts) ← readStatement fuel (skipLines ts)
    let ts := skipLines ts
    if endsList ts then return (first, ts)
    let (rest, ts) ← readList fuel ts
    return (.inOrder first rest, ts)

/-- Reads a command and what ends it on its line, if that is not the end of the line. -/
def readStatement : Nat → Tokens → Except Mistake (Command × Tokens)
  | 0, ts => unexpected ts none
  | fuel + 1, ts => do
    let (first, ts) ← readPipes fuel ts
    let (first, ts) ← readLinks fuel first ts
    if beginsWith ts ";" then return (first, ts.tail)
    if beginsWith ts "&" then return (.aside first, ts.tail)
    if beginsWith ts "\n" || endsList ts then return (first, ts)
    unexpected ts none

/-- Reads the commands that depend on the success or failure of the ones before them. -/
def readLinks : Nat → Command → Tokens → Except Mistake (Command × Tokens)
  | 0, _, ts => unexpected ts none
  | fuel + 1, first, ts =>
    if beginsWith ts "&&" then do
      let (second, ts) ← readPipes fuel (skipLines ts.tail)
      readLinks fuel (.onSuccess first second) ts
    else if beginsWith ts "||" then do
      let (second, ts) ← readPipes fuel (skipLines ts.tail)
      readLinks fuel (.onFailure first second) ts
    else .ok (first, ts)

/-- Reads commands of which each reads what the one before it prints. -/
def readPipes : Nat → Tokens → Except Mistake (Command × Tokens)
  | 0, ts => unexpected ts none
  | fuel + 1, ts =>
    if beginsWith ts "!" then do
      let (body, ts) ← readPipes fuel ts.tail
      return (.inverted body, ts)
    else do
      let (first, ts) ← readCommand fuel ts
      if beginsWith ts "|" then
        let (rest, ts) ← readPipes fuel (skipLines ts.tail)
        return (.piped first rest, ts)
      return (first, ts)

/-- Reads what follows the condition of a choice. -/
def readBranches : Nat → Command → Tokens → Except Mistake (Command × Tokens)
  | 0, _, ts => unexpected ts none
  | fuel + 1, condition, ts => do
    let (yes, ts) ← readList fuel (← expect "then" ts)
    if beginsWith ts "elif" then
      let (next, ts) ← readList fuel ts.tail
      let (no, ts) ← readBranches fuel next ts
      return (.choice condition yes no, ts)
    if beginsWith ts "else" then
      let (no, ts) ← readList fuel ts.tail
      return (.choice condition yes no, ← expect "fi" ts)
    return (.choice condition yes .nothing, ← expect "fi" ts)

def readArms : Nat → Tokens → Except Mistake (List (List Word × Command) × Tokens)
  | 0, ts => unexpected ts none
  | fuel + 1, ts => do
    let ts := skipLines ts
    if beginsWith ts "esac" then return ([], ts.tail)
    let (patterns, ts) ← readPatterns (if beginsWith ts "(" then ts.tail else ts)
    let ts := skipLines ts
    let (body, ts) ← if endsList ts then pure (.nothing, ts) else readList fuel ts
    if beginsWith ts "esac" then return ([(patterns, body)], ts.tail)
    let (rest, ts) ← readArms fuel (← expect ";;" ts)
    return ((patterns, body) :: rest, ts)

def readBetween : Nat → String → String → Tokens → Except Mistake (Command × Tokens)
  | 0, _, _, ts => unexpected ts none
  | fuel + 1, first, last, ts => do
    let (body, ts) ← readList fuel (← expect first ts)
    return (body, ← expect last ts)

/-- Reads a compound command without its redirections, or a simple command. -/
def readCommand : Nat → Tokens → Except Mistake (Command × Tokens)
  | 0, ts => unexpected ts none
  | fuel + 1, ts => do
    let line := (ts.head?.map (·.1)).getD 1
    let withRedirects := fun (body : Command) (ts : Tokens) => do
      let (redirects, ts) ← readRedirects ts
      return (if redirects.isEmpty then body else .redirected line body redirects, ts)
    if beginsWith ts "(" then
      let (body, ts) ← readBetween fuel "(" ")" ts
      withRedirects (.inside body) ts
    else
      match reserved? ts with
      | some "\x7b" =>
        let (body, ts) ← readBetween fuel "\x7b" "\x7d" ts
        withRedirects body ts
      | some "if" =>
        let (condition, ts) ← readList fuel ts.tail
        let (body, ts) ← readBranches fuel condition ts
        withRedirects body ts
      | some "for" =>
        match ts.tail with
        | (_, t) :: ts =>
          match t.plainText?.filter (isName ·.toList) with
          | none => .error ⟨line, "Bad for loop variable"⟩
          | some name =>
            let ts := skipLines ts
            let (words, ts) ←
              if beginsWith ts "in" then readNames ts.tail
              else pure (allArguments, if beginsWith ts ";" then ts.tail else ts)
            let (body, ts) ← readBetween fuel "do" "done" (skipLines ts)
            withRedirects (.each name words body) ts
        | [] => .error ⟨line, "Bad for loop variable"⟩
      | some "case" =>
        match ts.tail with
        | (_, .word subject) :: ts =>
          let (arms, ts) ← readArms fuel (← expect "in" (skipLines ts))
          withRedirects (.selection subject arms) ts
        | ts => unexpected ts none
      | some word =>
        if word = "while" ∨ word = "until" then
          let (condition, ts) ← readList fuel ts.tail
          let (body, ts) ← readBetween fuel "do" "done" ts
          withRedirects (.loop (word = "until") condition body) ts
        else unexpected ts none
      | none =>
        match ts with
        | (_, t) :: (_, .operator "(") :: (_, .operator ")") :: rest =>
          match t.plainText? with
          | some name =>
            if isName name.toList then
              let (body, ts) ← readCommand fuel (skipLines rest)
              return (.function name body, ts)
            else .error ⟨line, "Bad function name"⟩
          | none => unexpected ts.tail none
        | _ =>
          let ((words, redirects), rest) ← readWords ts
          if words.isEmpty && redirects.isEmpty then unexpected rest none
          else return (.simple line words redirects, rest)

end

/-- Reads the commands up to the end of a line; none when nothing is left. -/
def readStatements : Nat → Nat → Tokens → Except Mistake (Command × Tokens)
  | 0, _, ts => unexpected ts none
  | statements + 1, fuel, ts => do
    let (first, ts) ← readStatement fuel ts
    if isDone ts || beginsWith ts "\n" then return (first, ts.tail)
    if endsList ts then unexpected ts none
    let (rest, ts) ← readStatements statements fuel ts
    return (.inOrder first rest, ts)

def next? (ts : Tokens) : Except Mistake (Option (Command × Tokens)) :=
  let ts := skipLines ts
  if isDone ts then .ok none
  else (readStatements (ts.length + 1) (4 * ts.length + 8) ts).map some

end EnumForge.Shell
