namespace EnumForge.Path

/-- Splits at slashes; between two slashes stands an empty segment. -/
def segments : List Char → List (List Char)
  | [] => [[]]
  | c :: cs =>
    if c = '/' then [] :: segments cs
    else
      match segments cs with
      | [] => [[c]]
      | s :: ss => (c :: s) :: ss

/-- Writes segments with a slash between each two. -/
def ofSegments : List (List Char) → List Char
  | [] => []
  | [s] => s
  | s :: ss => s ++ '/' :: ofSegments ss

theorem ofSegments_cons_cons (s t : List Char) (ss : List (List Char)) :
    ofSegments (s :: t :: ss) = s ++ '/' :: ofSegments (t :: ss) := rfl

theorem segments_ne_nil (s : List Char) : segments s ≠ [] := by
  cases s with
  | nil => simp [segments]
  | cons c cs =>
    unfold segments
    split
    · simp
    · split <;> simp

theorem ofSegments_segments (s : List Char) : ofSegments (segments s) = s := by
  induction s with
  | nil => rfl
  | cons c cs ih =>
    unfold segments
    split
    · next hc =>
      cases h : segments cs with
      | nil => exact absurd h (segments_ne_nil cs)
      | cons t ts => rw [ofSegments_cons_cons, ← h, ih, hc, List.nil_append]
    · split
      · next h => exact absurd h (segments_ne_nil cs)
      · next t ts h =>
        rw [h] at ih
        cases ts with
        | nil => exact congrArg (c :: ·) ih
        | cons u us => exact congrArg (c :: ·) ih

/-- Whether a path begins at the root. -/
def isAbsolute (path : String) : Bool := path.toList.head? == some '/'

/-- The path from a directory to a path; an absolute path stays. -/
def join (dir path : String) : String :=
  if isAbsolute path || dir.isEmpty then path
  else if dir.toList.getLast? = some '/' then dir ++ path
  else dir ++ "/" ++ path

/-- A segment that names no place of its own. -/
def isVoid (segment : List Char) : Bool := segment.isEmpty || segment == ['.']

/-- Drops void segments at the end. -/
def trimVoid (tail : List (List Char)) : List (List Char) :=
  (tail.reverse.dropWhile isVoid).reverse

/-- The path without its last segment; the root and the empty path have no parent. -/
def parent? (path : String) : Option String :=
  match segments path.toList with
  | [] => none
  | first :: tail =>
    match trimVoid tail with
    | [] => if first.isEmpty then none else some ""
    | tail =>
      let rest := trimVoid tail.dropLast
      let text := ofSegments (first :: rest)
      some (String.ofList (if text.isEmpty && isAbsolute path then ['/'] else text))

/-- A path and its parents, the nearest first; the fuel bounds their number. -/
def ancestorsFrom : Nat → String → List String
  | 0, _ => []
  | fuel + 1, path =>
    path :: match parent? path with
      | none => []
      | some p => ancestorsFrom fuel p

/-- A path and its parents, the nearest first. A parent has fewer characters than its path, or is
empty, so each is listed. -/
def ancestors (path : String) : List String := ancestorsFrom (path.length + 2) path

end EnumForge.Path
