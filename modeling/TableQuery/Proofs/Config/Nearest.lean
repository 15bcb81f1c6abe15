import TableQuery.Config.Search
import TableQuery.Proofs.Path

/-!
# The nearest configuration

A directory is configured by what stands nearest above it. The search stops at the first path where
anything is, even if it is a directory or no configuration can be read from it. So nothing that is
higher up matters.
-/

namespace TableQuery
namespace FileTree

/-!
## What is in a tree

An entry makes a directory of every place on its way. What is found at a path depends only on the
parts of the path that lead somewhere.
-/

/-- Something is where a path leads to: an entry is there, or it is on the way to an entry. -/
def Has (tree : FileTree) (path : Path) : Prop :=
  ∃ place, path.resolve? = some place ∧ ∃ entry ∈ tree.entries, place ∈ entry.1.way

theorem mem_way_of_resolve? {path place : Path} (h : path.resolve? = some place) :
    place ∈ path.way := by
  rw [Path.way, List.mem_filterMap]
  refine ⟨path.length, ?_, ?_⟩
  · rw [List.mem_range]
    exact Nat.lt_succ_self path.length
  · rw [List.take_length]
    exact h

theorem isSome_findAt?_iff {tree : FileTree} {place : Path} :
    (tree.findAt? place).isSome = true ↔ ∃ entry ∈ tree.entries, place ∈ entry.1.way := by
  rw [findAt?]
  cases hentry : tree.entries.reverse.find? fun entry => entry.1.resolve? = some place with
  | some entry =>
      have hmem : entry ∈ tree.entries := List.mem_reverse.mp (List.mem_of_find?_eq_some hentry)
      have hplace : entry.1.resolve? = some place := by simpa using List.find?_some hentry
      exact ⟨fun _ => ⟨entry, hmem, mem_way_of_resolve? hplace⟩, fun _ => rfl⟩
  | none =>
      have hany : (tree.entries.any fun entry => entry.1.way.contains place) = true ↔
          ∃ entry ∈ tree.entries, place ∈ entry.1.way := by
        simp [List.any_eq_true]
      rw [← hany]
      dsimp only
      split
      · next h => exact ⟨fun _ => h, fun _ => rfl⟩
      · next h => exact ⟨fun hsome => absurd hsome (by simp), fun hentry => absurd hentry h⟩

theorem isSome_find?_iff {tree : FileTree} {path : Path} :
    (tree.find? path).isSome = true ↔ tree.Has path := by
  rw [find?, Has]
  cases path.resolve? with
  | none => simp
  | some place =>
      simp only [Option.bind_some, isSome_findAt?_iff, Option.some_inj, exists_eq_left']

theorem find?_eq_none_iff {tree : FileTree} {path : Path} :
    tree.find? path = none ↔ ¬ tree.Has path := by
  rw [← isSome_find?_iff, Option.isSome_iff_ne_none, Ne, not_not]

theorem find?_congr (tree : FileTree) {path other : Path} (h : path.steps = other.steps)
    (rest : Path) : tree.find? (path ++ rest) = tree.find? (other ++ rest) := by
  rw [find?, find?, Path.resolve?_append_congr h]

/-!
## The search

The search stops at the first path of those above a directory where anything is. The paths that it
passed have no entries and are deeper, so what is above the place where it stops has no influence.
-/

/-- A directory is nearest: it is the given one or one above it, it has an entry for its configuration,
and none that is deeper has. -/
structure IsNearest (tree : FileTree) (directory above : Path) : Prop where
  isAbove : above <+: directory
  has : tree.Has (above ++ Config.location)
  deepest : ∀ other : Path, other <+: directory → tree.Has (other ++ Config.location) →
    other.depth ≤ above.depth

def entryOf? (tree : FileTree) (above : Path) : Option (Path × Found) :=
  (tree.find? (above ++ Config.location)).map fun found => (above ++ Config.location, found)

theorem entryOf?_eq_none_iff {tree : FileTree} {above : Path} :
    tree.entryOf? above = none ↔ ¬ tree.Has (above ++ Config.location) := by
  rw [entryOf?, Option.map_eq_none_iff, find?_eq_none_iff]

theorem nearest?_eq_none_iff {tree : FileTree} {directory : Path} :
    tree.nearest? directory = none ↔
      ∀ above, above <+: directory → ¬ tree.Has (above ++ Config.location) := by
  rw [nearest?, List.findSome?_eq_none_iff]
  constructor
  · intro h other hother
    rcases Path.exists_mem_upwards hother with ⟨above, habove, hsteps⟩
    rw [← find?_eq_none_iff, ← tree.find?_congr hsteps, find?_eq_none_iff]
    exact entryOf?_eq_none_iff.mp (h above habove)
  · intro h above habove
    exact entryOf?_eq_none_iff.mpr (h above (Path.prefix_of_mem_upwards habove))

theorem exists_of_nearest? {tree : FileTree} {directory path : Path} {found : Found}
    (h : tree.nearest? directory = some (path, found)) :
    ∃ before above behind, directory.upwards = before ++ above :: behind ∧
      path = above ++ Config.location ∧ tree.find? path = some found ∧
      (∀ lower ∈ before, tree.entryOf? lower = none ∧ above.depth < lower.depth) ∧
      ∀ upper ∈ behind, upper.depth < above.depth := by
  rcases List.findSome?_eq_some_iff.mp h with ⟨before, above, behind, hupwards, hentry, hbefore⟩
  rcases Option.map_eq_some_iff.mp hentry with ⟨found', hfound, hpair⟩
  cases hpair
  have hpairwise := directory.pairwise_upwards
  rw [hupwards, List.pairwise_append, List.pairwise_cons] at hpairwise
  refine ⟨before, above, behind, hupwards, rfl, hfound, ?_, hpairwise.2.1.1⟩
  intro lower hlower
  exact ⟨hbefore lower hlower, hpairwise.2.2 lower hlower above List.mem_cons_self⟩

theorem exists_isNearest {tree : FileTree} {directory path : Path} {found : Found}
    (h : tree.nearest? directory = some (path, found)) :
    ∃ above, tree.IsNearest directory above ∧ path = above ++ Config.location ∧
      tree.find? path = some found := by
  rcases exists_of_nearest? h with ⟨before, above, behind, hupwards, rfl, hfound, hbefore, hbehind⟩
  refine ⟨above, ⟨?_, ?_, ?_⟩, rfl, hfound⟩
  · apply Path.prefix_of_mem_upwards
    rw [hupwards]
    exact List.mem_append_right before List.mem_cons_self
  · rw [← isSome_find?_iff, hfound]
    rfl
  · intro other hother hhas
    -- The search meets a path that differs from the other one in idle parts only.
    rcases Path.exists_mem_upwards hother with ⟨met, hmet, hsteps⟩
    have hdepth : met.depth = other.depth := congrArg List.length hsteps
    rw [hupwards, List.mem_append, List.mem_cons] at hmet
    rw [← hdepth]
    rcases hmet with hlower | rfl | hupper
    · have hnone := (hbefore met hlower).1
      rw [entryOf?, tree.find?_congr hsteps, Option.map_eq_none_iff, find?_eq_none_iff] at hnone
      exact absurd hhas hnone
    · exact Nat.le_refl met.depth
    · exact Nat.le_of_lt (hbehind met hupper)

theorem nearest?_congr {tree changed : FileTree} {directory above path : Path} {found : Found}
    (h : tree.nearest? directory = some (path, found)) (hpath : path = above ++ Config.location)
    (hsame : ∀ other : Path, other <+: directory → above.depth ≤ other.depth →
      changed.find? (other ++ Config.location) = tree.find? (other ++ Config.location)) :
    changed.nearest? directory = some (path, found) := by
  rcases exists_of_nearest? h with ⟨before, stop, behind, hupwards, hstop, hfound, hbefore, _⟩
  have habove : stop = above := List.append_cancel_right (hstop.symm.trans hpath)
  subst habove
  have hmet : ∀ met ∈ before ++ stop :: behind, met <+: directory := by
    rw [← hupwards]
    exact fun met hmet => Path.prefix_of_mem_upwards hmet
  apply List.findSome?_eq_some_iff.mpr
  refine ⟨before, stop, behind, hupwards, ?_, ?_⟩
  · have hstop' := hsame stop (hmet stop (by simp)) (Nat.le_refl stop.depth)
    rw [hstop', ← hstop, hfound]
    rfl
  · intro lower hlower
    rcases hbefore lower hlower with ⟨hnone, hdepth⟩
    rw [hsame lower (hmet lower (by simp [hlower])) (Nat.le_of_lt hdepth)]
    exact hnone

end FileTree

/-!
## Loading

What stands at a path is given to a reader only if it is text. Then the reader settles the outcome.
-/

namespace Config

open FileTree (Found)

variable {read : String → Option Config}

/-- What an entry at a path comes to with a reader. -/
inductive Loads (read : String → Option Config) (path : Path) :
    Found → Except ConfigFault (Config × Path) → Prop where
  | directory : Loads read path .directory (.error .unreadable)
  | encoding {bytes : ByteArray} (h : ¬ bytes.IsValidUTF8) :
    Loads read path (.file bytes) (.error .unreadable)
  | malformed {text : String} (h : read text = none) :
    Loads read path (.file text.toUTF8) (.error .malformed)
  | config {text : String} {config : Config} (h : read text = some config) :
    Loads read path (.file text.toUTF8) (.ok (config, path))

theorem loadFound_text (read : String → Option Config) (path : Path) (text : String) :
    loadFound read path (.file text.toUTF8) =
      (parse read text).map fun config => (config, path) := by
  have htext : (Found.file text.toUTF8).text? = some text := dif_pos text.isValidUTF8
  simp only [loadFound, htext]

theorem loadFound_of_loads {path : Path} {found : Found}
    {outcome : Except ConfigFault (Config × Path)} (h : Loads read path found outcome) :
    loadFound read path found = outcome := by
  cases h with
  | directory => rfl
  | @encoding bytes hbytes =>
      have htext : (Found.file bytes).text? = none := dif_neg hbytes
      simp only [loadFound, htext]
  | malformed htext =>
      rw [loadFound_text, parse, htext]
      rfl
  | config htext =>
      rw [loadFound_text, parse, htext]
      rfl

theorem loads_loadFound (read : String → Option Config) (path : Path) (found : Found) :
    Loads read path found (loadFound read path found) := by
  cases found with
  | directory => exact .directory
  | file bytes =>
      by_cases hbytes : bytes.IsValidUTF8
      · have hfile : bytes = (String.fromUTF8 bytes hbytes).toUTF8 := rfl
        rw [hfile, loadFound_text, parse]
        cases htext : read (String.fromUTF8 bytes hbytes) with
        | none => exact .malformed htext
        | some config => exact .config htext
      · rw [loadFound_of_loads (.encoding hbytes)]
        exact .encoding hbytes

theorem Loads.unique {path : Path} {found : Found} {outcome other : Except ConfigFault (Config × Path)}
    (h : Loads read path found outcome) (hother : Loads read path found other) : outcome = other :=
  (loadFound_of_loads h).symm.trans (loadFound_of_loads hother)

theorem load_of_nearest? {tree : FileTree} {directory path : Path} {found : Found}
    (h : tree.nearest? directory = some (path, found)) :
    Loads read path found (load read tree directory) := by
  rw [load, h]
  exact loads_loadFound read path found

/-- The nearest configuration counts. None is found just if there is no entry for one in a directory or
above it. Otherwise the entry of the deepest directory that has one is found, and loading comes to what
this entry gives, whatever is higher up. A directory and a file that is not text cannot be read, and a
text is malformed just if the reader refuses it. -/
theorem load_nearest (read : String → Option Config) (tree : FileTree) (directory : Path) :
    (tree.nearest? directory = none ↔
      ∀ above, above <+: directory → ¬ tree.Has (above ++ location)) ∧
    (load read tree directory = .error .notFound ↔ tree.nearest? directory = none) ∧
    ∀ path found, tree.nearest? directory = some (path, found) →
      ∃ above, tree.IsNearest directory above ∧ path = above ++ location ∧
        tree.find? path = some found ∧ Loads read path found (load read tree directory) ∧
        ∀ changed : FileTree,
          (∀ other : Path, other <+: directory → above.depth ≤ other.depth →
            changed.find? (other ++ location) = tree.find? (other ++ location)) →
          load read changed directory = load read tree directory := by
  refine ⟨FileTree.nearest?_eq_none_iff, ?_, ?_⟩
  · cases hnearest : tree.nearest? directory with
    | none => simp [load, hnearest]
    | some entry =>
        obtain ⟨path, found⟩ := entry
        have hloads : Loads read path found (load read tree directory) := load_of_nearest? hnearest
        generalize load read tree directory = outcome at hloads
        cases hloads <;> simp
  · intro path found hnearest
    rcases FileTree.exists_isNearest hnearest with ⟨above, habove, hpath, hfound⟩
    refine ⟨above, habove, hpath, hfound, load_of_nearest? hnearest, ?_⟩
    intro changed hsame
    rw [load, load, hnearest, FileTree.nearest?_congr hnearest hpath hsame]

def shadowedTree (found : Found) : FileTree :=
  ⟨[(location, .file "tables \x7bpayments \x7b\x7d\x7d".toUTF8), ("a" :: location, found)]⟩

/-- A directory, a file that is not text and a file that ends too early all hide the configuration
above them, which is loaded from beside them. -/
theorem load_nearest_shadowed :
    (shadowedTree .directory).IsNearest ["a", "", "b"] ["a"] ∧
      load ofText? (shadowedTree .directory) ["a", "", "b"] = .error .unreadable ∧
      load ofText? (shadowedTree (.file ⟨#[0xff]⟩)) ["a", "", "b"] = .error .unreadable ∧
      load ofText? (shadowedTree (.file "\x7btables \x7bpayments \x7bcolumns".toUTF8)) ["a", "", "b"] =
        .error .malformed ∧
      ∃ config, load ofText? (shadowedTree .directory) ["b"] = .ok (config, location) := by
  have hloads : ∀ found, (shadowedTree found).IsNearest ["a", "", "b"] ["a"] ∧
      Loads ofText? ("a" :: location) found (load ofText? (shadowedTree found) ["a", "", "b"]) := by
    intro found
    rcases load_nearest ofText? (shadowedTree found) ["a", "", "b"] with ⟨_, _, hsome⟩
    rcases hsome ("a" :: location) found rfl with ⟨above, hnearest, hpath, _, hloads, _⟩
    have habove : above = ["a"] := List.append_cancel_right (hpath.symm.trans rfl)
    subst habove
    exact ⟨hnearest, hloads⟩
  refine ⟨(hloads .directory).1, ?_, ?_, ?_, ?_⟩
  · exact (hloads .directory).2.unique .directory
  · exact (hloads (.file ⟨#[0xff]⟩)).2.unique (.encoding (by decide +kernel))
  · exact (hloads _).2.unique (.malformed (by decide +kernel))
  · have hread : (ofText? "tables \x7bpayments \x7b\x7d\x7d").isSome = true := by decide +kernel
    rcases Option.isSome_iff_exists.mp hread with ⟨config, hconfig⟩
    have hbeside : Loads ofText? location (.file "tables \x7bpayments \x7b\x7d\x7d".toUTF8)
        (load ofText? (shadowedTree .directory) ["b"]) := load_of_nearest? rfl
    exact ⟨config, hbeside.unique (.config hconfig)⟩

end Config
end TableQuery
