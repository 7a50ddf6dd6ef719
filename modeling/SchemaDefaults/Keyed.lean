/-! # Entries under keys

A collection of values under text keys is the list of its entries in the order of the
keys, each key once. The order is that of the code points, which is also the order of
the UTF-8 bytes. `find?_insert` says what a collection holds after a value is put in.
-/

namespace SchemaDefaults.Keyed

variable {α : Type}

def find? (key : String) : List (String × α) → Option α
  | [] => none
  | (k, value) :: rest => if k = key then some value else find? key rest

/-- Puts a value under a key, in place of the one that was there. -/
def insert (key : String) (value : α) : List (String × α) → List (String × α)
  | [] => [(key, value)]
  | (k, old) :: rest =>
    if k = key then (key, value) :: rest
    else if key < k then (key, value) :: (k, old) :: rest
    else (k, old) :: insert key value rest

/-- The collection of some entries; of two under one key the later counts. -/
def ofList (entries : List (String × α)) : List (String × α) :=
  entries.foldl (fun kept (key, value) => insert key value kept) []

/-- The keys stand in strictly increasing order, so each of them once. -/
def Sorted (entries : List (String × α)) : Prop :=
  (entries.map Prod.fst).Pairwise (· < ·)

@[simp] theorem find?_nil (key : String) : find? key ([] : List (String × α)) = none := rfl

@[simp] theorem find?_cons (key k : String) (value : α) (rest : List (String × α)) :
    find? key ((k, value) :: rest) = if k = key then some value else find? key rest := rfl

/-- Under its own key the new value is found, and all other keys keep theirs. -/
theorem find?_insert (key other : String) (value : α) (entries : List (String × α)) :
    find? other (insert key value entries) =
      if key = other then some value else find? other entries := by
  induction entries with
  | nil => simp [insert]
  | cons entry rest ih =>
      obtain ⟨k, old⟩ := entry
      simp only [insert]
      split
      · rename_i same
        subst same
        by_cases h : k = other <;> simp [h]
      · split
        · simp
        · by_cases h : k = other
          · simp [h]
            rintro rfl
            contradiction
          · simp [h, ih]

/-- A value that is found belongs to an entry under its key. -/
theorem mem_of_find? {key : String} {value : α} {entries : List (String × α)}
    (found : find? key entries = some value) : (key, value) ∈ entries := by
  induction entries with
  | nil => simp at found
  | cons entry rest ih =>
      obtain ⟨k, old⟩ := entry
      by_cases h : k = key
      · simp [h] at found
        simp [h, found]
      · simp [h] at found
        exact List.mem_cons_of_mem _ (ih found)

end SchemaDefaults.Keyed
