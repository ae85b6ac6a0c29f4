/-!
# Named values

`Fields α` lists values under names, in the order in which the names were first given. Setting a
name again keeps its place; removing one keeps the order of the rest.
-/

namespace Docstore

universe u v

abbrev Fields (α : Type u) := List (String × α)

namespace Fields

variable {α : Type u} {β : Type v}

def get? (name : String) : Fields α → Option α
  | [] => none
  | (k, v) :: rest => if k = name then some v else get? name rest

def contains (name : String) (fs : Fields α) : Bool := (get? name fs).isSome

def names (fs : Fields α) : List String := fs.map Prod.fst

/-- Sets a name, in its place if it has one and at the end otherwise. -/
def insert (name : String) (value : α) : Fields α → Fields α
  | [] => [(name, value)]
  | (k, v) :: rest => if k = name then (name, value) :: rest else (k, v) :: insert name value rest

def erase (name : String) : Fields α → Fields α
  | [] => []
  | (k, v) :: rest => if k = name then rest else (k, v) :: erase name rest

/-- Sets every name of the second list. -/
def insertAll (fs gs : Fields α) : Fields α := gs.foldl (fun fs (k, v) => insert k v fs) fs

/-- The fields of a list of pairs, a repeated name keeping its first place and its last value. -/
def ofPairs (pairs : List (String × α)) : Fields α := insertAll [] pairs

@[simp] theorem get?_nil (name : String) : get? name ([] : Fields α) = none := rfl

theorem get?_insert_self (name : String) (value : α) (fs : Fields α) :
    get? name (insert name value fs) = some value := by
  induction fs with
  | nil => simp [insert, get?]
  | cons f rest ih =>
    obtain ⟨k, v⟩ := f
    by_cases h : k = name <;> simp [insert, get?, h, ih]

theorem get?_insert_of_ne {name other : String} (h : other ≠ name) (value : α) (fs : Fields α) :
    get? other (insert name value fs) = get? other fs := by
  induction fs with
  | nil => simp [insert, get?, Ne.symm h]
  | cons f rest ih =>
    obtain ⟨k, v⟩ := f
    by_cases hk : k = name
    · simp [insert, get?, hk, Ne.symm h]
    · by_cases ho : k = other
      · subst ho; simp [insert, get?, h]
      · simp [insert, get?, hk, ho, ih]

theorem mem_of_get? {name : String} {value : α} {fs : Fields α} (h : get? name fs = some value) :
    value ∈ fs.map Prod.snd := by
  induction fs with
  | nil => cases h
  | cons f rest ih =>
    obtain ⟨k, v⟩ := f
    rw [get?] at h
    split at h
    · cases h
      exact .head _
    · exact .tail _ (ih h)

end Fields

end Docstore
