import CaptureRig.Toml.Value

namespace CaptureRig.Toml

/-- A section whose pairs are still to be taken, or have been. -/
structure Slot where
  header : List String
  array : Bool
  pairs? : Option (List (String × Value))

namespace Slot

def ofSection (s : Section) : Slot := ⟨s.header, s.array, some s.pairs⟩

abbrev Slots := List Slot

def headerAt (slots : Slots) (i : Nat) : List String :=
  match slots[i]? with
  | some s => s.header
  | none => []

/-- The first place from `start` on and before `limit` that holds `p`. -/
def findFrom (p : Slot → Bool) (limit : Nat) : Nat → Slots → Nat → Option Nat
  | _, [], _ => none
  | place, s :: rest, start =>
    if place < limit ∧ start ≤ place ∧ p s then some place else findFrom p limit (place + 1) rest start

/-- The next section to read below a path. -/
def nextBelow (slots : Slots) (path : List String) (start limit : Nat) : Option Nat :=
  findFrom (fun s => s.pairs?.isSome && s.header.take path.length == path) limit 0 slots start

/-- The next entry of the list of tables with a header. -/
def nextEntry (slots : Slots) (header : List String) (start limit : Nat) : Nat :=
  (findFrom (fun s => s.array && s.header == header) limit 0 slots start).getD limit

/-- Take the pairs of a section. -/
def take (slots : Slots) (i : Nat) : List (String × Value) × Slots :=
  match slots[i]? with
  | some s => (s.pairs?.getD [], slots.set i { s with pairs? := none })
  | none => ([], slots)

mutual

/-- The table `depth` parts down the header of section `parent`, from the sections from `start` on and before
`limit`, onto the pairs found before. -/
def table? (depth limit : Nat) : Nat → Nat → Nat → List (String × Value) → Slots → Option (List (String × Value) × Slots)
  | 0, _, _, _, _ => none
  | fuel + 1, start, parent, found, slots =>
    let path := headerAt slots parent
    match nextBelow slots (path.take depth) start limit with
    | none => some (found, slots)
    | some place =>
      let header := headerAt slots place
      let array : Bool := match slots[place]? with
        | some s => s.array
        | none => false
      if parent ≠ place ∧ path = header then none
      else
        let parent := if header.length < path.length then place else parent
        match header[depth]? with
        | some key =>
          let child := if array ∧ depth + 1 = header.length
            then (entries? depth limit fuel place [] slots).map fun (items, slots) => (Value.list items, slots)
            else (table? (depth + 1) limit fuel 0 place [] slots).map fun (pairs, slots) => (Value.table pairs, slots)
          match child with
          | none => none
          | some (value, slots) => table? depth limit fuel (place + 1) parent (found ++ [(key, value)]) slots
        | none =>
          if array then none
          else
            let (pairs, slots) := take slots place
            table? depth limit fuel place parent (found ++ pairs) slots

/-- The entries of the list of tables that begins with section `first`. -/
def entries? (depth limit : Nat) : Nat → Nat → List Value → Slots → Option (List Value × Slots)
  | 0, _, _, _ => none
  | fuel + 1, first, found, slots =>
    if limit ≤ first then some (found, slots)
    else
      let next := nextEntry slots (headerAt slots first) (first + 1) limit
      let (pairs, slots) := take slots first
      match table? (depth + 1) next fuel 0 first pairs slots with
      | none => none
      | some (pairs, slots) => entries? depth limit fuel next (found ++ [.table pairs]) slots

end

end Slot

/-- The whole table that the sections make. Every step takes a section, or goes one part down a header. -/
def assemble? (sections : List Section) : Option (List (String × Value)) :=
  let slots := sections.map Slot.ofSection
  let parts := sections.foldl (fun n s => n + s.header.length + 2) 0
  (Slot.table? 0 slots.length (2 * (parts + 1) * (slots.length + 1)) 0 0 [] slots).map (·.1)

/-- The table that a text describes. -/
def parse? (s : String) : Option (List (String × Value)) := do
  assemble? (← Section.ofTokens? (← Token.ofText? s))

end CaptureRig.Toml
