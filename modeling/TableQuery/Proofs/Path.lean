import Mathlib.Data.List.Infix
import TableQuery.Path

/-!
# Directories above a path

Going up from a path leaves out its last part, and the idle parts in front of that. So the paths that
are met are beginnings of the path, each one less deep than the one before. No beginning is missed:
every other one differs from a path that is met in idle parts only, and leads to the same place.
-/

namespace TableQuery
namespace Path

/-!
## Parts that lead somewhere

Idle parts count neither for the depth of a path nor for its place.
-/

def steps (path : Path) : Path :=
  path.filter fun part => !isIdle part

def depth (path : Path) : Nat :=
  path.steps.length

theorem steps_cons_of_idle {part : String} (h : isIdle part = true) (rest : Path) :
    steps (part :: rest) = steps rest :=
  List.filter_cons_of_neg (by simp [h])

theorem steps_cons {part : String} (h : ¬ isIdle part = true) (rest : Path) :
    steps (part :: rest) = part :: steps rest :=
  List.filter_cons_of_pos (by simp [h])

theorem steps_append (path rest : Path) : steps (path ++ rest) = path.steps ++ rest.steps :=
  List.filter_append path rest

theorem steps_reverse (path : Path) : steps path.reverse = path.steps.reverse :=
  List.filter_reverse

theorem depth_reverse (path : Path) : depth path.reverse = path.depth := by
  rw [depth, steps_reverse, List.length_reverse, depth]

theorem steps_dropWhile (path : Path) : steps (path.dropWhile isIdle) = path.steps := by
  induction path with
  | nil => rfl
  | cons part rest ih =>
      by_cases hidle : isIdle part = true
      · rw [List.dropWhile_cons_of_pos hidle, ih, steps_cons_of_idle hidle]
      · rw [List.dropWhile_cons_of_neg hidle]

theorem foldlM_follow?_steps (path place : Path) :
    path.steps.foldlM follow? place = path.foldlM follow? place := by
  induction path generalizing place with
  | nil => rfl
  | cons part rest ih =>
      by_cases hidle : isIdle part = true
      · have hfollow : follow? place part = some place := if_pos hidle
        rw [steps_cons_of_idle hidle, List.foldlM_cons, hfollow]
        exact ih place
      · rw [steps_cons hidle, List.foldlM_cons, List.foldlM_cons]
        exact Option.bind_congr fun next _ => ih next

theorem resolve?_steps (path : Path) : path.steps.resolve? = path.resolve? := by
  rw [resolve?, foldlM_follow?_steps, resolve?]

theorem resolve?_append_congr {path other : Path} (h : path.steps = other.steps) (rest : Path) :
    resolve? (path ++ rest) = resolve? (other ++ rest) := by
  rw [← resolve?_steps, ← resolve?_steps (other ++ rest), steps_append, steps_append, h]

/-!
## Going up

All paths are given from the end here, so a path above is a suffix.
-/

theorem suffix_of_mem_aboveReversed {path above : Path} (h : above ∈ aboveReversed path) :
    above <:+ path := by
  induction path with
  | nil => cases h
  | cons part rest ih =>
      rw [aboveReversed] at h
      split at h
      · exact (ih h).trans (List.suffix_cons part rest)
      · rcases List.mem_cons.mp h with rfl | hmem
        · exact (List.dropWhile_suffix isIdle).trans (List.suffix_cons part rest)
        · exact (ih hmem).trans (List.suffix_cons part rest)

theorem depth_lt_of_mem_aboveReversed {path above : Path} (h : above ∈ aboveReversed path) :
    above.depth < path.depth := by
  induction path with
  | nil => cases h
  | cons part rest ih =>
      rw [aboveReversed] at h
      split at h
      · next hidle =>
          show above.depth < (steps (part :: rest)).length
          rw [steps_cons_of_idle hidle]
          exact ih h
      · next hidle =>
          show above.depth < (steps (part :: rest)).length
          rw [steps_cons hidle, List.length_cons, Nat.lt_succ_iff]
          rcases List.mem_cons.mp h with rfl | hmem
          · exact Nat.le_of_eq (congrArg List.length (steps_dropWhile rest))
          · exact Nat.le_of_lt (ih hmem)

theorem pairwise_aboveReversed (path : Path) :
    (aboveReversed path).Pairwise fun lower upper => upper.depth < lower.depth := by
  induction path with
  | nil => exact List.Pairwise.nil
  | cons part rest ih =>
      rw [aboveReversed]
      split
      · exact ih
      · refine List.Pairwise.cons ?_ ih
        intro upper hupper
        rw [depth, depth, steps_dropWhile]
        exact depth_lt_of_mem_aboveReversed hupper

/-- A suffix of a path is the path itself or one that is met on the way up, apart from idle parts. -/
theorem steps_of_suffix {path other : Path} (h : other <:+ path) :
    other.steps = path.steps ∨ ∃ above ∈ aboveReversed path, above.steps = other.steps := by
  induction path with
  | nil =>
      rw [List.suffix_nil.mp h]
      exact .inl rfl
  | cons part rest ih =>
      rcases List.suffix_cons_iff.mp h with rfl | hrest
      · exact .inl rfl
      · rw [aboveReversed]
        split
        · next hidle =>
            rw [steps_cons_of_idle hidle]
            exact ih hrest
        · rcases ih hrest with hsame | ⟨above, habove, hsame⟩
          · refine .inr ⟨rest.dropWhile isIdle, List.mem_cons_self, ?_⟩
            rw [steps_dropWhile, hsame]
          · exact .inr ⟨above, List.mem_cons_of_mem _ habove, hsame⟩

/-!
## A path and the paths above it
-/

theorem prefix_of_mem_upwards {path above : Path} (h : above ∈ path.upwards) : above <+: path := by
  rcases List.mem_cons.mp h with rfl | hmem
  · exact List.prefix_refl above
  · rcases List.mem_map.mp hmem with ⟨reversed, hreversed, rfl⟩
    rw [← List.reverse_suffix, List.reverse_reverse]
    exact suffix_of_mem_aboveReversed hreversed

theorem pairwise_upwards (path : Path) :
    path.upwards.Pairwise fun lower upper => upper.depth < lower.depth := by
  refine List.Pairwise.cons ?_ ?_
  · intro upper hupper
    rcases List.mem_map.mp hupper with ⟨reversed, hreversed, rfl⟩
    rw [depth_reverse, ← depth_reverse path]
    exact depth_lt_of_mem_aboveReversed hreversed
  · rw [List.pairwise_map]
    refine (pairwise_aboveReversed path.reverse).imp ?_
    intro lower upper h
    rw [depth_reverse, depth_reverse]
    exact h

theorem exists_mem_upwards {path other : Path} (h : other <+: path) :
    ∃ above ∈ path.upwards, above.steps = other.steps := by
  rcases steps_of_suffix (List.reverse_suffix.mpr h) with hsame | ⟨reversed, hreversed, hsame⟩
  · refine ⟨path, List.mem_cons_self, ?_⟩
    rw [steps_reverse, steps_reverse] at hsame
    exact (List.reverse_injective hsame).symm
  · refine ⟨reversed.reverse, List.mem_cons_of_mem _ (List.mem_map_of_mem hreversed), ?_⟩
    rw [steps_reverse, hsame, steps_reverse, List.reverse_reverse]

end Path
end TableQuery
