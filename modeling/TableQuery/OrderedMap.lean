/-!
# Ordered maps

A map that remembers the order in which its keys first came. Putting a value under a key that is
already there replaces the value and leaves the key in its place.
-/

namespace TableQuery

structure OrderedMap (α β : Type) where
  entries : List (α × β)
  nodup : (entries.map Prod.fst).Nodup
deriving Repr

namespace OrderedMap

variable {α β : Type}

/-!
## Lists of entries

The map's operations work on its list of entries. They are stated on lists first, where they are
plain recursions.
-/

def insertEntry [DecidableEq α] (key : α) (value : β) : List (α × β) → List (α × β)
  | [] => [(key, value)]
  | (k, v) :: rest =>
    if k = key then (k, value) :: rest else (k, v) :: insertEntry key value rest

theorem keys_insertEntry [DecidableEq α] (key : α) (value : β) (entries : List (α × β)) :
    (insertEntry key value entries).map Prod.fst =
      if key ∈ entries.map Prod.fst then entries.map Prod.fst
      else entries.map Prod.fst ++ [key] := by
  induction entries with
  | nil => simp [insertEntry]
  | cons entry rest ih =>
      by_cases h : entry.1 = key
      · simp [insertEntry, h]
      · have h' : ¬ key = entry.1 := fun e => h e.symm
        by_cases hm : key ∈ rest.map Prod.fst
        · simp only [insertEntry, h, if_false, List.map_cons, ih, hm, if_true,
            List.mem_cons, or_true]
        · simp only [insertEntry, h, if_false, List.map_cons, ih, hm,
            List.mem_cons, h', or_self, List.cons_append]

theorem nodup_insertEntry [DecidableEq α] (key : α) (value : β) {entries : List (α × β)}
    (h : (entries.map Prod.fst).Nodup) :
    ((insertEntry key value entries).map Prod.fst).Nodup := by
  rw [keys_insertEntry]
  by_cases hm : key ∈ entries.map Prod.fst
  · rw [if_pos hm]
    exact h
  · rw [if_neg hm, List.nodup_append]
    refine ⟨h, by simp, ?_⟩
    intro a ha b hb hab
    rw [List.mem_singleton] at hb
    rw [hab, hb] at ha
    exact hm ha

/-!
## The map

The keys of a map stand in the order of their first insertion. A value is found and replaced under
its key.
-/

def empty : OrderedMap α β :=
  ⟨[], by simp⟩

instance : Inhabited (OrderedMap α β) := ⟨empty⟩

@[simp] theorem entries_empty : (empty : OrderedMap α β).entries = [] := rfl

def keys (map : OrderedMap α β) : List α :=
  map.entries.map Prod.fst

def size (map : OrderedMap α β) : Nat :=
  map.entries.length

def isEmpty (map : OrderedMap α β) : Bool :=
  map.entries.isEmpty

variable [DecidableEq α]

def get? (map : OrderedMap α β) (key : α) : Option β :=
  map.entries.lookup key

def insert (map : OrderedMap α β) (key : α) (value : β) : OrderedMap α β :=
  ⟨insertEntry key value map.entries, nodup_insertEntry key value map.nodup⟩

/-- The map after inserting pairs in order: a repeated key keeps its first place and its last
value. -/
def ofList (pairs : List (α × β)) : OrderedMap α β :=
  pairs.foldl (fun map pair => map.insert pair.1 pair.2) empty

@[simp] theorem entries_insert (map : OrderedMap α β) (key : α) (value : β) :
    (map.insert key value).entries = insertEntry key value map.entries := rfl

theorem keys_insert (map : OrderedMap α β) (key : α) (value : β) :
    (map.insert key value).keys = if key ∈ map.keys then map.keys else map.keys ++ [key] :=
  keys_insertEntry key value map.entries

theorem lookup_insertEntry (key other : α) (value : β) (entries : List (α × β)) :
    (insertEntry key value entries).lookup other =
      if other = key then some value else entries.lookup other := by
  induction entries with
  | nil =>
      by_cases h : other = key
      · simp [insertEntry, h]
      · simp [insertEntry, h, List.lookup_cons, beq_false_of_ne h]
  | cons entry rest ih =>
      obtain ⟨k, v⟩ := entry
      by_cases hk : k = key
      · by_cases h : other = key
        · simp [insertEntry, hk, h]
        · have hne : other ≠ k := fun e => h (e.trans hk)
          simp [insertEntry, hk, h, List.lookup_cons, beq_false_of_ne h]
      · by_cases ho : other = k
        · have hne : ¬ k = key := hk
          simp [insertEntry, ho, hne]
        · simp [insertEntry, hk, List.lookup_cons, beq_false_of_ne ho, ih]

theorem get?_insert (map : OrderedMap α β) (key other : α) (value : β) :
    (map.insert key value).get? other = if other = key then some value else map.get? other :=
  lookup_insertEntry key other value map.entries

theorem insertEntry_of_not_mem {key : α} {entries : List (α × β)}
    (h : key ∉ entries.map Prod.fst) (value : β) :
    insertEntry key value entries = entries ++ [(key, value)] := by
  induction entries with
  | nil => rfl
  | cons entry entries ih =>
      rw [List.map_cons, List.mem_cons, not_or] at h
      rw [insertEntry, if_neg (Ne.symm h.1), ih h.2, List.cons_append]

theorem ofList_concat (pairs : List (α × β)) (key : α) (value : β) :
    ofList (pairs ++ [(key, value)]) = (ofList pairs).insert key value := by
  rw [ofList, List.foldl_append]
  rfl

end OrderedMap

end TableQuery
