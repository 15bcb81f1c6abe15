import Mathlib.Data.List.Forall2
import TableQuery.Proofs.Text.Parts
import TableQuery.Rest.Parameter

/-!
# Lists of names

The value of a parameter can be a list of names with commas between them. Blanks around a name do not
count, and blanks between two commas are no name. The names that are read from a value are the names
that stand in it, and names that are written into a value, with any blanks around them, are read back.
-/

namespace TableQuery
namespace Rest

/-- A name that can stand in a list. It may have blanks inside. -/
structure IsItem (item : String) : Prop where
  ne_empty : item ≠ ""
  comma : ',' ∉ item.toList
  trimmed : Text.IsTrimmed item.toList

/-- What stands between two commas, and the name that it gives, if it gives one. -/
inductive Entry : String → Option String → Prop where
  | blank {text : String} (h : ∀ c ∈ text.toList, Text.isBlank c = true) : Entry text none
  | item {front item back : String} (hfront : ∀ c ∈ front.toList, Text.isBlank c = true)
    (hback : ∀ c ∈ back.toList, Text.isBlank c = true) (h : IsItem item) :
    Entry (front ++ item ++ back) (some item)

/-!
## Entries

An entry is read by cutting off the blanks at its ends.
-/

def entryName? (entry : List Char) : Option String :=
  if Text.trim entry = [] then none else some (String.ofList (Text.trim entry))

theorem readList_eq_filterMap (text : String) :
    readList (some text) = (Text.splitAll ',' text.toList).filterMap entryName? := by
  rw [readList, listParts]
  induction Text.splitAll ',' text.toList with
  | nil => rfl
  | cons piece pieces ih =>
      rw [List.map_cons]
      by_cases hblank : Text.trim piece = []
      · have hname : entryName? piece = none := if_pos hblank
        rw [List.filter_cons_of_neg (by simp [hblank]), ih, List.filterMap_cons_none hname]
      · have hname : entryName? piece = some (String.ofList (Text.trim piece)) := if_neg hblank
        rw [List.filter_cons_of_pos (by simpa using hblank), List.map_cons, ih,
          List.filterMap_cons_some hname]

theorem comma_not_mem_of_isBlank {cs : List Char} (h : ∀ c ∈ cs, Text.isBlank c = true) :
    ',' ∉ cs := by
  intro hcomma
  have hblank := h ',' hcomma
  cases hblank

theorem Entry.comma_not_mem {text : String} {name : Option String} (h : Entry text name) :
    ',' ∉ text.toList := by
  cases h with
  | blank h => exact comma_not_mem_of_isBlank h
  | item hfront hback h =>
      rw [String.toList_append, String.toList_append, List.mem_append, List.mem_append, not_or,
        not_or]
      exact ⟨⟨comma_not_mem_of_isBlank hfront, h.comma⟩, comma_not_mem_of_isBlank hback⟩

theorem Entry.entryName?_eq {text : String} {name : Option String} (h : Entry text name) :
    entryName? text.toList = name := by
  cases h with
  | blank h => rw [entryName?, if_pos (Text.trim_eq_nil.mpr h)]
  | @item front item back hfront hback h =>
      have hne : item.toList ≠ [] := fun hnil => h.ne_empty (String.toList_eq_nil_iff.mp hnil)
      have htrim : Text.trim (front ++ item ++ back).toList = item.toList := by
        rw [String.toList_append, String.toList_append]
        exact Text.trim_padded hfront hback hne h.trimmed
      rw [entryName?, htrim, if_neg hne, String.ofList_toList]

theorem entry_entryName? {cs : List Char} (h : ',' ∉ cs) :
    Entry (String.ofList cs) (entryName? cs) := by
  rw [entryName?]
  split
  · next hblank =>
      apply Entry.blank
      rw [String.toList_ofList]
      exact Text.trim_eq_nil.mp hblank
  · next hne =>
      rcases Text.exists_padded cs with ⟨front, back, hfront, hback, hcs⟩
      have hitem : IsItem (String.ofList (Text.trim cs)) := by
        constructor
        · intro hempty
          rw [String.ofList_eq_empty_iff] at hempty
          exact hne hempty
        · intro hcomma
          rw [String.toList_ofList] at hcomma
          apply h
          rw [hcs, List.mem_append, List.mem_append]
          exact .inl (.inr hcomma)
        · rw [String.toList_ofList]
          exact Text.isTrimmed_trim cs
      have hparts : String.ofList cs =
          String.ofList front ++ String.ofList (Text.trim cs) ++ String.ofList back := by
        rw [← String.ofList_append, ← String.ofList_append, ← hcs]
      rw [hparts]
      apply Entry.item
      · rw [String.toList_ofList]
        exact hfront
      · rw [String.toList_ofList]
        exact hback
      · exact hitem

/-!
## Texts

A text lists the names that its entries give, and its entries are what stands between its commas.
-/

/-- A text lists names: it is put together from entries, and the names are what the entries give, in
the order of the entries. -/
def Lists (text : String) (items : List String) : Prop :=
  ∃ entries names, List.Forall₂ Entry entries names ∧ text = Text.join "," entries ∧
    items = names.filterMap id

theorem comma_not_mem_entries {entries : List String} {names : List (Option String)}
    (h : List.Forall₂ Entry entries names) : ∀ entry ∈ entries, ',' ∉ entry.toList := by
  induction h with
  | nil => simp
  | cons hentry _ ih => exact List.forall_mem_cons.mpr ⟨hentry.comma_not_mem, ih⟩

theorem filterMap_entryName? {entries : List String} {names : List (Option String)}
    (h : List.Forall₂ Entry entries names) :
    (entries.map String.toList).filterMap entryName? = names.filterMap id := by
  induction h with
  | nil => rfl
  | cons hentry _ ih =>
      rw [List.map_cons, List.filterMap_cons, List.filterMap_cons, ih, hentry.entryName?_eq]
      rfl

theorem Lists.readList_eq {text : String} {items : List String} (h : Lists text items) :
    readList (some text) = items := by
  rcases h with ⟨entries, names, hentries, rfl, rfl⟩
  have hnames := filterMap_entryName? hentries
  have hcommas := comma_not_mem_entries hentries
  cases entries with
  | nil =>
      rw [← hnames]
      rfl
  | cons first entries =>
      rw [readList_eq_filterMap, Text.splitAll_join (by decide) hcommas, hnames]

theorem lists_readList (text : String) : Lists text (readList (some text)) := by
  refine ⟨(Text.splitAll ',' text.toList).map String.ofList,
    (Text.splitAll ',' text.toList).map entryName?, ?_, ?_, ?_⟩
  · rw [List.forall₂_map_left_iff, List.forall₂_map_right_iff, List.forall₂_same]
    intro piece hpiece
    exact entry_entryName? (Text.not_mem_of_mem_splitAll hpiece)
  · apply String.toList_inj.mp
    exact (Text.join_splitAll (by decide) text.toList).symm
  · rw [readList_eq_filterMap, List.filterMap_map]
    rfl

theorem isItem_of_forall₂ {entries : List String} {names : List (Option String)}
    (h : List.Forall₂ Entry entries names) : ∀ item ∈ names.filterMap id, IsItem item := by
  induction h with
  | nil => simp
  | cons hentry _ ih =>
      cases hentry with
      | blank _ => exact ih
      | item _ _ hitem => exact List.forall_mem_cons.mpr ⟨hitem, ih⟩

theorem Lists.isItem {text : String} {items : List String} (h : Lists text items) :
    ∀ item ∈ items, IsItem item := by
  rcases h with ⟨entries, names, hentries, _, rfl⟩
  exact isItem_of_forall₂ hentries

theorem lists_join {items : List String} (h : ∀ item ∈ items, IsItem item) :
    Lists (Text.join "," items) items := by
  refine ⟨items, items.map some, ?_, rfl, ?_⟩
  · rw [List.forall₂_map_right_iff, List.forall₂_same]
    intro item hitem
    have hnone : ∀ c ∈ "".toList, Text.isBlank c = true := by simp
    simpa using Entry.item hnone hnone (h item hitem)
  · rw [List.filterMap_map]
    exact List.filterMap_some.symm

/-- Reading a list and listing names are the same relation. What is read are names that can stand in a
list, and a list that is written again from what was read is the same list. -/
theorem readList_eq_iff_lists (text : String) :
    (∀ items, readList (some text) = items ↔ Lists text items) ∧
    (∀ item ∈ readList (some text), IsItem item) ∧
    readList (some (Text.join "," (readList (some text)))) = readList (some text) := by
  have hitems := (lists_readList text).isItem
  refine ⟨?_, hitems, (lists_join hitems).readList_eq⟩
  intro items
  constructor
  · intro h
    rw [← h]
    exact lists_readList text
  · intro h
    exact h.readList_eq

theorem readList_eq_iff_lists_padded :
    Lists "\u3000id ,, \u2003,\tdue date\u0085" ["id", "due date"] ∧
      IsItem "due date" ∧ readList (some "id,due date") = ["id", "due date"] := by
  have hread : readList (some "\u3000id ,, \u2003,\tdue date\u0085") = ["id", "due date"] := by
    decide +kernel
  rcases readList_eq_iff_lists "\u3000id ,, \u2003,\tdue date\u0085" with ⟨hlists, hitems, hagain⟩
  rw [hread] at hitems hagain
  exact ⟨(hlists _).mp hread, hitems "due date" (by simp), hagain⟩

end Rest
end TableQuery
