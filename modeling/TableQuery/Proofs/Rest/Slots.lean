import TableQuery.Rest.Query

/-!
# Reading parameters one by one

The loop over parameters keeps two things: in the place of every reserved key the value of the last
parameter with that key, and the filters in the order of their parameters. Both are said here without
the loop, as a lookup and as a list.
-/

namespace TableQuery
namespace Rest

def lastValue (parameters : List Parameter) (key : String) : Option String :=
  (parameters.reverse.lookup key).join

def filterOf? (parameter : Parameter) : Option Filter :=
  if isReserved parameter.1 then none else parameter.2.map (Filter.read parameter.1)

/-!
## Slots

A key is reserved just if it has a slot, and no two slots have one key.
-/

namespace Slot

def key : Slot → String
  | page => "page"
  | pageSize => "pageSize"
  | otherPageSize => "page_size"
  | count => "count"
  | distinct => "distinct"
  | entities => "entities"
  | attributes => "attributes"
  | sum => "sum"
  | avg => "avg"
  | min => "min"
  | max => "max"
  | sorting => "sorting"

theorem ofKey?_eq_some_iff {key : String} {slot : Slot} : ofKey? key = some slot ↔ slot.key = key := by
  constructor
  · intro h
    unfold ofKey? at h
    split at h <;> cases h <;> rfl
  · intro h
    rw [← h]
    cases slot <;> rfl

theorem isSome_ofKey? (key : String) : (ofKey? key).isSome = isReserved key := by
  rw [Bool.eq_iff_iff, Option.isSome_iff_exists, isReserved, List.contains_iff_mem]
  constructor
  · intro h
    rcases h with ⟨slot, hslot⟩
    rw [← ofKey?_eq_some_iff.mp hslot]
    cases slot <;> decide
  · intro h
    simp only [reservedKeys, List.mem_cons, List.not_mem_nil, or_false] at h
    rcases h with rfl | rfl | rfl | rfl | rfl | rfl | rfl | rfl | rfl | rfl | rfl | rfl
    all_goals exact ⟨_, rfl⟩

end Slot

/-!
## The loop

One step changes the slot of its key or adds a filter. So the loop keeps last values and filters,
and the query is made of both.
-/

namespace Progress

theorem value_step (progress : Progress) (parameter : Parameter) (slot : Slot) :
    (progress.step parameter).value slot =
      if slot.key = parameter.1 then parameter.2 else progress.value slot := by
  unfold step
  cases hslot : Slot.ofKey? parameter.1 with
  | some set =>
      have hkey : slot = set ↔ slot.key = parameter.1 := by
        rw [← Slot.ofKey?_eq_some_iff, hslot, Option.some_inj, eq_comm]
      simp only [Progress.set, hkey]
  | none =>
      have hkey : ¬ slot.key = parameter.1 := by
        rw [← Slot.ofKey?_eq_some_iff, hslot]
        exact nofun
      rw [if_neg hkey]
      cases parameter.2 <;> rfl

theorem filters_step (progress : Progress) (parameter : Parameter) :
    (progress.step parameter).filters = progress.filters ++ (filterOf? parameter).toList := by
  unfold step filterOf?
  rw [← Slot.isSome_ofKey?]
  cases Slot.ofKey? parameter.1 with
  | some slot => simp [set]
  | none => cases parameter.2 <;> simp

theorem value_foldl (parameters : List Parameter) (progress : Progress) (slot : Slot) :
    (parameters.foldl step progress).value slot =
      (parameters.reverse.lookup slot.key).getD (progress.value slot) := by
  induction parameters generalizing progress with
  | nil => rfl
  | cons parameter parameters ih =>
      rw [List.foldl_cons, ih, value_step, List.reverse_cons, List.lookup_append]
      cases parameters.reverse.lookup slot.key with
      | some value => rfl
      | none =>
          obtain ⟨key, value⟩ := parameter
          by_cases hkey : slot.key = key
          · rw [if_pos hkey, hkey, List.lookup_cons_self]
            rfl
          · have hbeq : (slot.key == key) = false := by simpa using hkey
            rw [if_neg hkey, List.lookup_cons, hbeq]
            rfl

theorem filters_foldl (parameters : List Parameter) (progress : Progress) :
    (parameters.foldl step progress).filters =
      progress.filters ++ parameters.filterMap filterOf? := by
  induction parameters generalizing progress with
  | nil => simp
  | cons parameter parameters ih =>
      rw [List.foldl_cons, ih, filters_step, List.append_assoc]
      cases hfilter : filterOf? parameter <;> simp [hfilter]

end Progress

namespace Query

theorem filters_ofParameters_eq (parameters : List Parameter) :
    (ofParameters parameters).filters = parameters.filterMap filterOf? :=
  Progress.filters_foldl parameters {}

/-- What the loop comes to: the last values of the reserved keys, and the filters. -/
theorem ofParameters_eq_lastValue (parameters : List Parameter) :
    ofParameters parameters =
      { paging := {
          page := readInteger (lastValue parameters "page")
          size := readInteger
            ((lastValue parameters "pageSize").or (lastValue parameters "page_size")) }
        count := readBoolean false (lastValue parameters "count")
        distinct := readBoolean false (lastValue parameters "distinct")
        entities := readBoolean true (lastValue parameters "entities")
        attributes := readList (lastValue parameters "attributes")
        aggregates := {
          sum := readList (lastValue parameters "sum")
          avg := readList (lastValue parameters "avg")
          min := readList (lastValue parameters "min")
          max := readList (lastValue parameters "max") }
        sorting := readList (lastValue parameters "sorting")
        filters := parameters.filterMap filterOf? } := by
  have hvalue : ∀ slot, (parameters.foldl Progress.step {}).value slot =
      lastValue parameters slot.key := by
    intro slot
    rw [Progress.value_foldl, lastValue]
    cases parameters.reverse.lookup slot.key <;> rfl
  have hfilters := filters_ofParameters_eq parameters
  unfold ofParameters Progress.query at hfilters ⊢
  simp only [hvalue, Slot.key]
  exact congrArg _ hfilters

end Query

end Rest
end TableQuery
