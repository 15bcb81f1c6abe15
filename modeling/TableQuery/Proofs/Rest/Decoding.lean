import TableQuery.Plan.Operands
import TableQuery.Proofs.Rest.Writing

/-!
# Filters as values

A filter is written as the value of a parameter: a caret, the mark of its operator and its operands.
Nothing is lost when a value is read, because what is read is written as the value again, but for the
mark of equality that a bare value does not have. The filters that are read back from what is written
for them are just those that are read from some value.
-/

namespace TableQuery

def Operator.mark : Operator → List Char
  | .eq => ['=']
  | .neq => ['!', '=']
  | .gt => ['>']
  | .gte => ['>', '=']
  | .lt => ['<']
  | .lte => ['<', '=']
  | .between | .like => []

namespace Rest

/-!
## Ranges

A range is cut at its first two points in a row. So the low end has no two points in a row, not even
with the first of the two points behind it.
-/

theorem splitRange?_append {low : List Char} (h : ¬ ['.', '.'] <:+: low ++ ['.'])
    (high : List Char) : splitRange? (low ++ '.' :: '.' :: high) = some (low, high) := by
  induction low with
  | nil => rfl
  | cons c low ih =>
      rw [List.cons_append, List.infix_cons_iff, not_or] at h
      rw [List.cons_append, splitRange?]
      · rw [ih h.2]
        rfl
      · rintro rest rfl hrest
        apply h.1
        cases low with
        | nil => exact List.prefix_refl _
        | cons d low =>
            cases hrest
            exact List.prefix_append ['.', '.'] _

theorem splitRange?_eq_some {cs low high : List Char} (h : splitRange? cs = some (low, high)) :
    cs = low ++ '.' :: '.' :: high ∧ ¬ ['.', '.'] <:+: low ++ ['.'] := by
  fun_induction splitRange? cs generalizing low with
  | case1 => cases h
  | case2 rest =>
      cases h
      exact ⟨rfl, by decide⟩
  | case3 c rest hnot ih =>
      rcases Option.map_eq_some_iff.mp h with ⟨bounds, hbounds, heq⟩
      cases heq
      rcases ih hbounds with ⟨hrest, hlow⟩
      refine ⟨by rw [hrest]; rfl, ?_⟩
      rw [List.cons_append, List.infix_cons_iff]
      rintro (hfront | hinside)
      · -- two points in front would have been found here
        rcases List.cons_prefix_cons.mp hfront with ⟨hc, hfront⟩
        cases hchars : bounds.1 with
        | nil =>
            rw [hchars] at hrest
            exact hnot _ hc.symm hrest
        | cons d more =>
            rw [hchars] at hrest hfront
            rcases List.cons_prefix_cons.mp hfront with ⟨hd, _⟩
            rw [← hd] at hrest
            exact hnot _ hc.symm hrest
      · exact hlow hinside

theorem splitRange?_eq_none_iff {cs : List Char} :
    splitRange? cs = none ↔ ¬ ['.', '.'] <:+: cs := by
  refine ⟨?_, splitRange?_eq_none⟩
  fun_induction splitRange? cs with
  | case1 => simp
  | case2 rest => simp
  | case3 c rest hnot ih =>
      intro h
      rw [Option.map_eq_none_iff] at h
      rw [List.infix_cons_iff]
      rintro (hfront | hinside)
      · rcases List.cons_prefix_cons.mp hfront with ⟨hc, more, hrest⟩
        exact hnot more hc.symm hrest.symm
      · exact ih h hinside

theorem infix_append_point_iff {low : List Char} :
    ¬ ['.', '.'] <:+: low ++ ['.'] ↔ ¬ ['.', '.'] <:+: low ∧ low.getLast? ≠ some '.' := by
  have hpoints : ['.', '.'] <:+ low ++ ['.'] ↔ low.getLast? = some '.' := by
    rw [← List.singleton_suffix_iff_getLast?_eq_some]
    exact @List.suffix_append_self_iff _ ['.'] low ['.']
  rw [List.infix_concat_iff, hpoints, not_or, and_comm]

/-!
## Comparisons

A value is bare if it does not say how it is compared: it is no range and has no mark and no
wildcard. Every other value is written again from what is read.
-/

structure Unmarked (cs : List Char) : Prop where
  start : ∀ c ∈ cs.head?, c ≠ '>' ∧ c ≠ '<' ∧ c ≠ '='
  negation : ¬ ['!', '='] <+: cs

structure IsBare (cs : List Char) : Prop extends Unmarked cs where
  range : ¬ ['.', '.'] <:+: cs
  wildcard : ¬ ('%' ∈ cs ∨ '_' ∈ cs)

/-- The operands that an operator can be read with. -/
inductive Operands : Operator → List (List Char) → Prop where
  | range {low : List Char} (hrange : ¬ ['.', '.'] <:+: low) (hpoint : low.getLast? ≠ some '.')
    (high : List Char) : Operands .between [low, high]
  | marked (operator : Operator) (hmark : operator.mark ≠ []) {operand : List Char}
    (hrange : ¬ ['.', '.'] <:+: operand)
    (hstrict : operator = .gt ∨ operator = .lt → operand.head? ≠ some '=') :
    Operands operator [operand]
  | pattern {operand : List Char} (hrange : ¬ ['.', '.'] <:+: operand)
    (hwildcard : '%' ∈ operand ∨ '_' ∈ operand) (hunmarked : Unmarked operand) :
    Operands .like [operand]

def spelling (operator : Operator) (operands : List (List Char)) : List Char :=
  operator.mark ++ ['.', '.'].intercalate operands

theorem spelling_singleton (operator : Operator) (operand : List Char) :
    spelling operator [operand] = operator.mark ++ operand := by
  simp [spelling, List.intercalate]

theorem spelling_range (low high : List Char) :
    spelling .between [low, high] = low ++ '.' :: '.' :: high := by
  simp [spelling, Operator.mark, List.intercalate]

theorem hasWildcard_iff {cs : List Char} : hasWildcard cs = true ↔ '%' ∈ cs ∨ '_' ∈ cs := by
  simp only [hasWildcard, List.any_eq_true, Bool.or_eq_true, decide_eq_true_eq]
  constructor
  · rintro ⟨c, hc, rfl | rfl⟩
    · exact Or.inl hc
    · exact Or.inr hc
  · rintro (hc | hc)
    · exact ⟨'%', hc, Or.inl rfl⟩
    · exact ⟨'_', hc, Or.inr rfl⟩

theorem comparison_range {cs low high : List Char} (h : splitRange? cs = some (low, high)) :
    comparison cs = (.between, [low, high]) := by
  unfold comparison
  rw [h]

theorem Operands.comparison_spelling {operator : Operator} {operands : List (List Char)}
    (h : Operands operator operands) :
    comparison (spelling operator operands) = (operator, operands) := by
  cases h with
  | range hrange hpoint high =>
      have hsplit := splitRange?_append (infix_append_point_iff.mpr ⟨hrange, hpoint⟩) high
      rw [spelling_range, comparison_range hsplit]
  | marked _ hmark hrange hstrict =>
      have hnone := splitRange?_eq_none hrange
      rw [spelling_singleton]
      cases operator with
      | eq => exact comparison_equal hnone
      | neq => exact (comparison_orEqual hnone).2.2
      | gt => exact (comparison_less hnone (hstrict (Or.inl rfl))).1
      | gte => exact (comparison_orEqual hnone).1
      | lt => exact (comparison_less hnone (hstrict (Or.inr rfl))).2
      | lte => exact (comparison_orEqual hnone).2.1
      | between => exact absurd rfl hmark
      | like => exact absurd rfl hmark
  | pattern hrange hwildcard hunmarked =>
      rw [spelling_singleton]
      exact comparison_pattern (splitRange?_eq_none hrange) (hasWildcard_iff.mpr hwildcard)
        hunmarked.start hunmarked.negation

/-- What is read from a value: operands that the operator can be read with, and that are written as
the value unless the value is bare. -/
def Restores (cs : List Char) (found : Operator × List (List Char)) : Prop :=
  Operands found.1 found.2 ∧
    (spelling found.1 found.2 = cs ∧ ¬ IsBare cs ∨ found = (.eq, [cs]) ∧ IsBare cs)

theorem not_isBare_mark {operator : Operator} (hmark : operator.mark ≠ []) (operand : List Char) :
    ¬ IsBare (operator.mark ++ operand) := by
  intro hbare
  have hstart := hbare.start
  cases operator with
  | eq => exact (hstart '=' rfl).2.2 rfl
  | neq => exact hbare.negation (List.prefix_append ['!', '='] operand)
  | gt => exact (hstart '>' rfl).1 rfl
  | gte => exact (hstart '>' rfl).1 rfl
  | lt => exact (hstart '<' rfl).2.1 rfl
  | lte => exact (hstart '<' rfl).2.1 rfl
  | between => exact hmark rfl
  | like => exact hmark rfl

theorem restores_mark (operator : Operator) (hmark : operator.mark ≠ []) {operand : List Char}
    (hrange : ¬ ['.', '.'] <:+: operator.mark ++ operand)
    (hstrict : operator = .gt ∨ operator = .lt → operand.head? ≠ some '=') :
    Restores (operator.mark ++ operand) (operator, [operand]) := by
  refine ⟨.marked operator hmark ?_ hstrict, Or.inl ⟨?_, not_isBare_mark hmark operand⟩⟩
  · intro hinside
    exact hrange (hinside.trans (List.suffix_append _ _).isInfix)
  · exact spelling_singleton operator operand

theorem restores_range {cs low high : List Char} (h : splitRange? cs = some (low, high)) :
    Restores cs (.between, [low, high]) := by
  rcases splitRange?_eq_some h with ⟨hcs, hlow⟩
  rcases infix_append_point_iff.mp hlow with ⟨hrange, hpoint⟩
  refine ⟨.range hrange hpoint high, Or.inl ⟨?_, ?_⟩⟩
  · rw [spelling_range, hcs]
  · intro hbare
    apply hbare.range
    rw [hcs]
    exact ⟨low, high, by simp⟩

theorem restores_unmarked {cs : List Char} (hrange : ¬ ['.', '.'] <:+: cs) (h : Unmarked cs) :
    Restores cs (if hasWildcard cs then (.like, [cs]) else (.eq, [cs])) := by
  split
  · rename_i hwildcard
    rw [hasWildcard_iff] at hwildcard
    refine ⟨.pattern hrange hwildcard h, Or.inl ⟨spelling_singleton .like cs, ?_⟩⟩
    exact fun hbare => hbare.wildcard hwildcard
  · rename_i hwildcard
    rw [hasWildcard_iff] at hwildcard
    refine ⟨.marked .eq (by decide) hrange (by simp), Or.inr ⟨rfl, ?_⟩⟩
    exact ⟨h, hrange, hwildcard⟩

theorem restores_comparison (cs : List Char) : Restores cs (comparison cs) := by
  cases hsplit : splitRange? cs with
  | some bounds =>
      rw [comparison_range hsplit]
      exact restores_range hsplit
  | none =>
      have hrange := splitRange?_eq_none_iff.mp hsplit
      unfold comparison
      rw [hsplit]
      simp only
      -- the cases are the marks in the order in which they are tried
      split
      · exact restores_mark .gte (by decide) hrange (by simp)
      · exact restores_mark .lte (by decide) hrange (by simp)
      · exact restores_mark .neq (by decide) hrange (by simp)
      · rename_i operand hequal
        refine restores_mark .gt (by decide) hrange fun _ hhead => ?_
        rcases List.head?_eq_some_iff.mp hhead with ⟨more, hmore⟩
        exact hequal more hmore
      · rename_i operand hequal
        refine restores_mark .lt (by decide) hrange fun _ hhead => ?_
        rcases List.head?_eq_some_iff.mp hhead with ⟨more, hmore⟩
        exact hequal more hmore
      · exact restores_mark .eq (by decide) hrange (by simp)
      · rename_i _ _ hneq hgt hlt heq
        apply restores_unmarked hrange
        constructor
        · intro c hc
          rcases List.head?_eq_some_iff.mp hc with ⟨more, rfl⟩
          refine ⟨?_, ?_, ?_⟩
          · rintro rfl
            exact hgt more rfl
          · rintro rfl
            exact hlt more rfl
          · rintro rfl
            exact heq more rfl
        · rintro ⟨more, rfl⟩
          exact hneq more rfl

/-!
## Filters

The caret is the one in front, and no mark of an operator starts with a caret. So a filter without a
caret is not taken for one that has it.
-/

def caret (ignoreCase : Bool) : List Char :=
  if ignoreCase then ['^'] else []

namespace Filter

def text (filter : Filter) : String :=
  .ofList (caret filter.ignoreCase ++
    spelling filter.operator (filter.values.map String.toList))

/-- A filter that is read back from its value. The values have to be as many as the operator takes. A
single value is not a range, and the low end of a range ends where the range is cut. Nothing but the
mark of the operator is taken for a mark, and nothing but the caret for a caret. -/
structure Recoverable (filter : Filter) : Prop where
  count : filter.values.length = filter.operator.operands.length
  single : filter.operator ≠ .between → ∀ value ∈ filter.values, ¬ ['.', '.'] <:+: value.toList
  low : filter.operator = .between → ∀ low ∈ filter.values.head?,
    ¬ ['.', '.'] <:+: low.toList ∧ low.toList.getLast? ≠ some '.' ∧
      (filter.ignoreCase = false → low.toList.head? ≠ some '^')
  strict : filter.operator = .gt ∨ filter.operator = .lt →
    ∀ value ∈ filter.values, value.toList.head? ≠ some '='
  pattern : filter.operator = .like → ∀ value ∈ filter.values,
    ('%' ∈ value.toList ∨ '_' ∈ value.toList) ∧
      (∀ c ∈ value.toList.head?, c ≠ '>' ∧ c ≠ '<' ∧ c ≠ '=') ∧ ¬ ['!', '='] <+: value.toList ∧
      (filter.ignoreCase = false → value.toList.head? ≠ some '^')

theorem ofChars_caret_append (field : String) {ignoreCase : Bool} {rest : List Char}
    (h : ignoreCase = false → rest.head? ≠ some '^') :
    ofChars field (caret ignoreCase ++ rest) =
      ⟨field, (comparison rest).1, (comparison rest).2.map String.ofList, ignoreCase⟩ := by
  cases ignoreCase with
  | true => rfl
  | false =>
      cases rest with
      | nil => rfl
      | cons c rest =>
          have hc : c ≠ '^' := by simpa using h rfl
          simp [ofChars, caret, hc]

theorem exists_caret (cs : List Char) :
    ∃ ignoreCase rest, cs = caret ignoreCase ++ rest ∧
      (ignoreCase = false → rest.head? ≠ some '^') := by
  by_cases hcaret : cs.head? = some '^'
  · rcases List.head?_eq_some_iff.mp hcaret with ⟨rest, hrest⟩
    exact ⟨true, rest, hrest, by simp⟩
  · exact ⟨false, cs, rfl, fun _ => hcaret⟩

theorem head?_spelling_of_mark {operator : Operator} (hmark : operator.mark ≠ [])
    (operand : List Char) : (spelling operator [operand]).head? ≠ some '^' := by
  rw [spelling_singleton]
  cases operator with
  | between => exact absurd rfl hmark
  | like => exact absurd rfl hmark
  | _ => simp [Operator.mark]

theorem head?_spelling_range {low : List Char} (h : low.head? ≠ some '^') (high : List Char) :
    (spelling .between [low, high]).head? ≠ some '^' := by
  rw [spelling_range]
  cases low with
  | nil => simp
  | cons c low => exact h

theorem Recoverable.operands {filter : Filter} (h : filter.Recoverable) :
    Operands filter.operator (filter.values.map String.toList) ∧
      (filter.ignoreCase = false →
        (spelling filter.operator (filter.values.map String.toList)).head? ≠ some '^') := by
  obtain ⟨field, operator, values, ignoreCase⟩ := filter
  have hcount := h.count
  cases operator with
  | between =>
      match values, hcount with
      | [low, high], _ =>
          rcases h.low rfl low rfl with ⟨hrange, hpoint, hcaret⟩
          exact ⟨.range hrange hpoint high.toList,
            fun hcase => head?_spelling_range (hcaret hcase) high.toList⟩
  | like =>
      rcases List.length_eq_one_iff.mp hcount with ⟨value, rfl⟩
      rcases h.pattern rfl value (by simp) with ⟨hwildcard, hstart, hnegation, hcaret⟩
      have hrange := h.single (by simp) value (by simp)
      refine ⟨.pattern hrange hwildcard ⟨hstart, hnegation⟩, fun hcase => ?_⟩
      simpa [spelling_singleton, Operator.mark] using hcaret hcase
  | _ =>
      rcases List.length_eq_one_iff.mp hcount with ⟨value, rfl⟩
      have hrange := h.single (by simp) value (by simp)
      have hstrict := fun hoperator => h.strict hoperator value (by simp)
      exact ⟨.marked _ (by simp [Operator.mark]) hrange hstrict,
        fun _ => head?_spelling_of_mark (by simp [Operator.mark]) value.toList⟩

end Filter

theorem Operands.recoverable {operator : Operator} {operands : List (List Char)}
    (h : Operands operator operands) (field : String) {ignoreCase : Bool}
    (hcaret : ignoreCase = false → (spelling operator operands).head? ≠ some '^') :
    Filter.Recoverable ⟨field, operator, operands.map String.ofList, ignoreCase⟩ := by
  cases h with
  | @range low hrange hpoint high =>
      have hlow : ignoreCase = false → low.head? ≠ some '^' := by
        intro hcase hhead
        apply hcaret hcase
        rw [spelling_range, List.head?_append, hhead]
        rfl
      constructor
      · rfl
      · simp
      · simpa using ⟨hrange, hpoint, hlow⟩
      · simp
      · simp
  | @marked _ hmark operand hrange hstrict =>
      have hpattern : operator ≠ .like := by
        rintro rfl
        exact hmark rfl
      have hbetween : operator ≠ .between := by
        rintro rfl
        exact hmark rfl
      constructor
      · cases operator <;> first | rfl | exact absurd rfl hbetween
      · intro _
        simpa using hrange
      · exact fun hoperator => absurd hoperator hbetween
      · simpa using hstrict
      · exact fun hoperator => absurd hoperator hpattern
  | @pattern operand hrange hwildcard hunmarked =>
      have hstart := hunmarked.start
      have hnegation := hunmarked.negation
      rw [spelling_singleton] at hcaret
      constructor
      · rfl
      · simpa using hrange
      · simp
      · simp
      · simpa using ⟨hwildcard, hstart, hnegation, hcaret⟩

namespace Filter

theorem recoverable_read (field raw : String) : (read field raw).Recoverable := by
  rcases exists_caret raw.toList with ⟨ignoreCase, rest, hraw, hcaret⟩
  rcases restores_comparison rest with ⟨hoperands, hspelling⟩
  rw [read, hraw, ofChars_caret_append field hcaret]
  apply hoperands.recoverable
  intro hcase
  rcases hspelling with ⟨hspelling, _⟩ | ⟨heq, _⟩
  · rw [hspelling]
    exact hcaret hcase
  · rw [heq, spelling_singleton]
    simp [Operator.mark]

theorem toList_text (filter : Filter) :
    filter.text.toList = caret filter.ignoreCase ++
      spelling filter.operator (filter.values.map String.toList) :=
  String.toList_ofList

theorem Recoverable.read_text {filter : Filter} (h : filter.Recoverable) :
    read filter.field filter.text = filter := by
  rcases h.operands with ⟨hoperands, hcaret⟩
  have hvalues : (filter.values.map String.toList).map String.ofList = filter.values := by
    simp [Function.comp_def]
  rw [read, toList_text, ofChars_caret_append filter.field hcaret, hoperands.comparison_spelling]
  simp only [hvalues]

/-- A filter is written as a value, or, if the value is bare, as the value with the mark of equality
behind its caret. -/
def Completed (raw : String) (filter : Filter) : Prop :=
  ∃ ignoreCase rest, raw.toList = caret ignoreCase ++ rest ∧
    (ignoreCase = false → rest.head? ≠ some '^') ∧
    (¬ IsBare rest → filter.text = raw) ∧
    (IsBare rest → filter.operator = .eq ∧
      filter.text.toList = caret ignoreCase ++ '=' :: rest)

theorem completed_read (field raw : String) : Completed raw (read field raw) := by
  rcases exists_caret raw.toList with ⟨ignoreCase, rest, hraw, hcaret⟩
  refine ⟨ignoreCase, rest, hraw, hcaret, ?_⟩
  rcases restores_comparison rest with ⟨_, hspelling⟩
  have hvalues : ((comparison rest).2.map String.ofList).map String.toList = (comparison rest).2 := by
    simp [Function.comp_def]
  have htext : (read field raw).text.toList =
      caret ignoreCase ++ spelling (comparison rest).1 (comparison rest).2 := by
    rw [toList_text, read, hraw, ofChars_caret_append field hcaret]
    simp only [hvalues]
  rcases hspelling with ⟨hspelling, hbare⟩ | ⟨heq, hbare⟩
  · refine ⟨fun _ => ?_, fun h => absurd h hbare⟩
    rw [hspelling, ← hraw] at htext
    exact String.toList_inj.mp htext
  · refine ⟨fun h => absurd hbare h, fun _ => ⟨?_, ?_⟩⟩
    · rw [read, hraw, ofChars_caret_append field hcaret, heq]
    · rw [htext, heq, spelling_singleton]
      rfl

/-- What is read from a value is written as the value again, but for the mark of equality, and is read
from there as the same filter. A filter is read back from its value just if it is recoverable. -/
theorem read_text_iff_recoverable :
    (∀ field raw, Completed raw (read field raw) ∧
      read field (read field raw).text = read field raw) ∧
    ∀ filter, read filter.field filter.text = filter ↔ filter.Recoverable := by
  refine ⟨fun field raw => ⟨completed_read field raw, ?_⟩, fun filter => ⟨?_, Recoverable.read_text⟩⟩
  · exact (recoverable_read field raw).read_text
  · intro h
    -- What is read from any value is recoverable, and the filter is read from its own one.
    rw [← h]
    exact recoverable_read filter.field filter.text

/-- A low end with a point behind it is cut too early. -/
example : read "f" (Filter.mk "f" .between ["1.", "2"] false).text =
    ⟨"f", .between, ["1", ".2"], false⟩ := by
  decide +kernel

end Filter

end Rest
end TableQuery
