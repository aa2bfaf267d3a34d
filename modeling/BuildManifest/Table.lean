import BuildManifest.Text

/-!
An ordered table from texts to texts. A key keeps the place where it was first
inserted; inserting it again changes only what it stands for. Both the variables
of a manifest and its patterns are tables, and for both the order is visible.
-/

namespace BuildManifest

/-- The keys with their values, in the order of first insertion. -/
structure Table where
  entries : List (Text × Text)
  deriving DecidableEq, Repr

namespace Table

def empty : Table := ⟨[]⟩

def keys (t : Table) : List Text := t.entries.map (·.1)

/-- What the first entry for the key holds. -/
def get? (t : Table) (key : Text) : Option Text :=
  (t.entries.find? (·.1 = key)).map (·.2)

def contains (t : Table) (key : Text) : Bool := (t.get? key).isSome

/-- Overwrites the first entry for the key, or adds one at the end. -/
def insertInto (key value : Text) : List (Text × Text) → List (Text × Text)
  | [] => [(key, value)]
  | e :: rest => if e.1 = key then (key, value) :: rest else e :: insertInto key value rest

def insert (t : Table) (key value : Text) : Table := ⟨insertInto key value t.entries⟩

def ofList (pairs : List (Text × Text)) : Table :=
  pairs.foldl (fun t e => t.insert e.1 e.2) empty

theorem get?_insert_self (t : Table) (key value : Text) :
    (t.insert key value).get? key = some value := by
  obtain ⟨entries⟩ := t
  simp only [get?, insert]
  induction entries with
  | nil => simp [insertInto]
  | cons e rest ih =>
      by_cases h : e.1 = key
      · simp [insertInto, h]
      · simpa [insertInto, h, List.find?_cons] using ih

theorem get?_insert_of_ne (t : Table) {key other : Text} (value : Text) (h : other ≠ key) :
    (t.insert key value).get? other = t.get? other := by
  obtain ⟨entries⟩ := t
  simp only [get?, insert]
  induction entries with
  | nil => simp [insertInto, Ne.symm h]
  | cons e rest ih =>
      by_cases he : e.1 = key
      · simp [insertInto, he, Ne.symm h]
      · by_cases ho : e.1 = other
        · simp [insertInto, ho, h]
        · simpa [insertInto, he, List.find?_cons, ho] using ih

/-- A known key keeps its place and a new one goes to the end. -/
theorem keys_insert (t : Table) (key value : Text) :
    (t.insert key value).keys = if key ∈ t.keys then t.keys else t.keys ++ [key] := by
  obtain ⟨entries⟩ := t
  simp only [keys, insert]
  induction entries with
  | nil => simp [insertInto]
  | cons e rest ih =>
      by_cases h : e.1 = key
      · simp [insertInto, h]
      · simp only [insertInto, h, if_false, List.map_cons, ih]
        have : ¬ key = e.1 := fun h' => h h'.symm
        by_cases hm : key ∈ rest.map (·.1) <;> simp [hm, this]

end Table

end BuildManifest
