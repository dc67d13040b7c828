namespace EnumForge

/-- Puts a key with its value in its place; a value that the key had goes. -/
def placeKey {α : Type} (key : String) (value : α) : List (String × α) → List (String × α)
  | [] => [(key, value)]
  | e :: es =>
    if key < e.1 then (key, value) :: e :: es
    else if key = e.1 then (key, value) :: es
    else e :: placeKey key value es

/-- Keys in ascending order, each with its last value. -/
def resolveKeys {α : Type} (entries : List (String × α)) : List (String × α) :=
  entries.foldl (fun es e => placeKey e.1 e.2 es) []

end EnumForge
