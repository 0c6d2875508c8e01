namespace CaptureRig

/-- Entries in ascending order of their keys. -/
structure Table (κ ν : Type) where
  entries : List (κ × ν) := []

namespace Table

variable {κ ν : Type} [LT κ] [DecidableLT κ] [DecidableEq κ]

/-- Put an entry into its place in an ascending list, over an entry of the same key. -/
def insertEntry (key : κ) (value : ν) : List (κ × ν) → List (κ × ν)
  | [] => [(key, value)]
  | (k, v) :: rest =>
    if key < k then (key, value) :: (k, v) :: rest
    else if key = k then (key, value) :: rest
    else (k, v) :: insertEntry key value rest

def insert (t : Table κ ν) (key : κ) (value : ν) : Table κ ν :=
  ⟨insertEntry key value t.entries⟩

omit [LT κ] [DecidableLT κ] in
def find? (t : Table κ ν) (key : κ) : Option ν :=
  (t.entries.find? (·.1 = key)).map (·.2)

omit [LT κ] [DecidableLT κ] in
def contains (t : Table κ ν) (key : κ) : Bool :=
  (t.find? key).isSome

omit [LT κ] [DecidableLT κ] [DecidableEq κ] in
def size (t : Table κ ν) : Nat := t.entries.length

theorem find?_insertEntry_self (key : κ) (value : ν) (entries : List (κ × ν)) :
    ((insertEntry key value entries).find? (·.1 = key)).map (·.2) = some value := by
  induction entries with
  | nil => simp [insertEntry]
  | cons e rest ih =>
    obtain ⟨k, v⟩ := e
    unfold insertEntry
    split
    · simp
    · split
      · simp
      · rename_i other
        simpa [Ne.symm other] using ih

theorem find?_insertEntry_of_ne {key other : κ} (differ : other ≠ key) (value : ν) (entries : List (κ × ν)) :
    (insertEntry key value entries).find? (·.1 = other) = entries.find? (·.1 = other) := by
  induction entries with
  | nil => simp [insertEntry, Ne.symm differ]
  | cons e rest ih =>
    obtain ⟨k, v⟩ := e
    unfold insertEntry
    split
    · simp [Ne.symm differ]
    · split
      · rename_i same
        subst same
        simp [Ne.symm differ]
      · simp only [List.find?_cons, ih]

@[simp] theorem find?_insert_self (t : Table κ ν) (key : κ) (value : ν) :
    (t.insert key value).find? key = some value :=
  find?_insertEntry_self key value t.entries

theorem find?_insert_of_ne (t : Table κ ν) {key other : κ} (differ : other ≠ key) (value : ν) :
    (t.insert key value).find? other = t.find? other := by
  simp only [find?, insert, find?_insertEntry_of_ne differ]

/-- The last of several pairs of one key counts. -/
def ofList (pairs : List (κ × ν)) : Table κ ν :=
  pairs.foldl (fun t (k, v) => t.insert k v) ⟨[]⟩

end Table

end CaptureRig
