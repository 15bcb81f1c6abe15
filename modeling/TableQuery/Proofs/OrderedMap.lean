import Mathlib.Data.List.Nodup
import TableQuery.OrderedMap

/-!
# Maps of pairs

A map that is made by inserting pairs one by one has every key at the place of its first pair, with
the value of its last pair. If no key is repeated, the map is the list of the pairs.
-/

namespace TableQuery
namespace OrderedMap

theorem lookup_eq_none {α β : Type} [BEq α] [LawfulBEq α] {pairs : List (α × β)} {key : α} :
    pairs.lookup key = none ↔ key ∉ pairs.map Prod.fst := by
  rw [List.lookup_eq_none_iff]
  simp only [bne_iff_ne, List.mem_map, not_exists, not_and]
  exact forall₂_congr fun _ _ => ne_comm

variable {α β : Type} [DecidableEq α]

theorem isSome_get? (map : OrderedMap α β) (key : α) :
    (map.get? key).isSome = true ↔ key ∈ map.keys := by
  rw [get?, keys, Option.isSome_iff_ne_none, Ne, lookup_eq_none, not_not]

/-!
## Lookups and keys
-/

theorem get?_ofList (pairs : List (α × β)) (key : α) :
    (ofList pairs).get? key = pairs.reverse.lookup key := by
  -- The induction takes off the last pair, because that is the one that is set last.
  rw [← pairs.reverse_reverse]
  induction pairs.reverse with
  | nil => rfl
  | cons pair earlier ih =>
      obtain ⟨last, value⟩ := pair
      rw [List.reverse_cons, ofList_concat, get?_insert, ih, List.reverse_append,
        List.reverse_reverse]
      by_cases h : key = last
      · simp [h]
      · simp [h, List.lookup_cons, beq_false_of_ne h]

theorem lookup_map {γ : Type} (name : γ → α) (value : γ → β) (items : List γ) (key : α) :
    (items.map fun item => (name item, value item)).lookup key =
      (items.find? fun item => name item = key).map value := by
  induction items with
  | nil => rfl
  | cons item items ih =>
      rw [List.map_cons, List.lookup_cons, List.find?_cons, ih]
      by_cases h : name item = key
      · simp [h]
      · simp [h, beq_false_of_ne (Ne.symm h)]

theorem get?_ofList_map {γ : Type} (name : γ → α) (value : γ → β) (items : List γ) (key : α) :
    (ofList (items.map fun item => (name item, value item))).get? key =
      (items.reverse.find? fun item => name item = key).map value := by
  rw [get?_ofList, ← List.map_reverse, lookup_map]

theorem keys_ofList (pairs : List (α × β)) :
    (ofList pairs).keys = (pairs.map Prod.fst).eraseDups := by
  rw [← pairs.reverse_reverse]
  induction pairs.reverse with
  | nil => rfl
  | cons pair earlier ih =>
      obtain ⟨last, value⟩ := pair
      rw [List.reverse_cons, ofList_concat, keys_insert, ih, List.map_append, List.map_singleton,
        List.eraseDups_append, List.cons_removeAll, List.nil_removeAll]
      generalize earlier.reverse.map Prod.fst = keys
      by_cases h : last ∈ keys
      · simp [h]
      · simp [h, List.eraseDups_cons]

theorem mem_keys_ofList {pairs : List (α × β)} {key : α} :
    key ∈ (ofList pairs).keys ↔ key ∈ pairs.map Prod.fst := by
  rw [keys_ofList, List.mem_eraseDups]

/-!
## Entries
-/

theorem mem_insertEntry {key : α} {value : β} {entries : List (α × β)} {entry : α × β}
    (h : entry ∈ insertEntry key value entries) : entry = (key, value) ∨ entry ∈ entries := by
  induction entries with
  | nil => exact Or.inl (List.mem_singleton.mp h)
  | cons first rest ih =>
      obtain ⟨found, old⟩ := first
      rw [insertEntry] at h
      split at h
      · next hfound =>
          rcases List.mem_cons.mp h with hentry | hrest
          · exact Or.inl (hfound ▸ hentry)
          · exact Or.inr (List.mem_cons_of_mem _ hrest)
      · rcases List.mem_cons.mp h with hentry | hrest
        · exact Or.inr (hentry ▸ List.mem_cons_self)
        · rcases ih hrest with hentry | hmem
          · exact Or.inl hentry
          · exact Or.inr (List.mem_cons_of_mem _ hmem)

theorem mem_of_mem_entries_ofList {pairs : List (α × β)} {entry : α × β}
    (h : entry ∈ (ofList pairs).entries) : entry ∈ pairs := by
  revert h
  rw [← pairs.reverse_reverse]
  induction pairs.reverse with
  | nil => exact id
  | cons pair earlier ih =>
      obtain ⟨key, value⟩ := pair
      rw [List.reverse_cons, ofList_concat, entries_insert, List.mem_append]
      intro h
      rcases mem_insertEntry h with hlast | hearlier
      · exact Or.inr (List.mem_singleton.mpr hlast)
      · exact Or.inl (ih hearlier)

theorem entries_ofList_iff {pairs : List (α × β)} :
    (ofList pairs).entries = pairs ↔ (pairs.map Prod.fst).Nodup := by
  constructor
  · intro h
    rw [← h]
    exact (ofList pairs).nodup
  · rw [← pairs.reverse_reverse]
    induction pairs.reverse with
    | nil => exact fun _ => rfl
    | cons pair earlier ih =>
        intro h
        obtain ⟨key, value⟩ := pair
        rw [List.reverse_cons, List.map_append, List.nodup_append'] at h
        have hentries := ih h.1
        rw [List.reverse_cons, ofList_concat, entries_insert, hentries]
        apply insertEntry_of_not_mem
        intro hkey
        exact h.2.2 hkey (List.mem_singleton_self key)

end OrderedMap
end TableQuery
