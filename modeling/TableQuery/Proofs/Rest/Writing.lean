import TableQuery.Query.Scalar
import TableQuery.Proofs.Decimal.PlainNotation
import TableQuery.Proofs.OrderedMap
import TableQuery.Proofs.Rest.Lists
import TableQuery.Proofs.Rest.Slots
import TableQuery.Proofs.Text.Classes

/-!
# Writing parameters

How lists, switches, numbers and comparisons are written as values of parameters, and that they are
read back. If no two parameters have one key, the order of the parameters does not count.
-/

namespace TableQuery
namespace Rest

/-!
## Values of reserved keys

A name can stand in a list if it has characters, and no comma or blank among them.
-/

def IsListed (name : String) : Prop :=
  name.toList ≠ [] ∧ ∀ c ∈ name.toList, c ≠ ',' ∧ Text.isBlank c = false

theorem IsListed.isItem {name : String} (h : IsListed name) : IsItem name where
  ne_empty hempty := h.1 (String.toList_eq_nil_iff.mpr hempty)
  comma hcomma := (h.2 ',' hcomma).1 rfl
  trimmed := Text.isTrimmed_of_forall fun c hc => (h.2 c hc).2

theorem readList_join {names : List String} (h : ∀ name ∈ names, IsListed name) :
    readList (some (Text.join "," names)) = names :=
  (lists_join fun name hname => (h name hname).isItem).readList_eq

theorem readBoolean_booleanText (default value : Bool) :
    readBoolean default (some (booleanText value)) = value := by
  cases value <;> decide +kernel +revert

def pageText (word : UInt32) : String :=
  String.ofList (Decimal.paddedDigits 1 word.toNat)

theorem unsigned?_digits {digits : List Char} (hne : digits ≠ [])
    (h : ∀ c ∈ digits, c.isDigit = true) : unsigned? digits = some (Decimal.digitsValue digits) := by
  have hall : digits.all Char.isDigit = true := List.all_eq_true.mpr h
  have hempty : digits.isEmpty = false := by simpa using hne
  unfold unsigned?
  split
  · rename_i rest
    exact absurd (h '+' (by simp)) (by decide)
  · simp [hall, hempty]

theorem readInteger_pageText (word : UInt32) : readInteger (some (pageText word)) = some word := by
  have hdigits : ∀ c ∈ Decimal.paddedDigits 1 word.toNat, c.isDigit = true :=
    fun c hc => Decimal.isDigit_of_mem_paddedDigits hc
  have hne : Decimal.paddedDigits 1 word.toNat ≠ [] := by
    intro hnil
    have hlength := Decimal.length_paddedDigits 1 word.toNat
    rw [hnil] at hlength
    simp only [List.length_nil] at hlength
    omega
  have htrim : Text.trim (Decimal.paddedDigits 1 word.toNat) = Decimal.paddedDigits 1 word.toNat :=
    Text.trim_eq_self fun c hc => Text.isBlank_eq_false_of_isDigit (hdigits c hc)
  simp only [readInteger, pageText, Option.bind_eq_bind, Option.bind_some, String.toList_ofList,
    htrim, unsigned?_digits hne hdigits, Decimal.digitsValue_paddedDigits,
    pageWord?_toNat]

/-!
## Keys
-/

theorem lookup_of_mem {parameters : List Parameter} (hnodup : (parameters.map Prod.fst).Nodup)
    {parameter : Parameter} (hmem : parameter ∈ parameters) :
    parameters.lookup parameter.1 = some parameter.2 := by
  induction parameters with
  | nil => cases hmem
  | cons first parameters ih =>
      obtain ⟨key, value⟩ := first
      rw [List.map_cons, List.nodup_cons] at hnodup
      rcases List.mem_cons.mp hmem with rfl | hrest
      · exact List.lookup_cons_self
      · have hne : parameter.1 ≠ key := by
          intro heq
          exact hnodup.1 (List.mem_map.mpr ⟨parameter, hrest, heq⟩)
        have hbeq : (parameter.1 == key) = false := by simpa using hne
        rw [List.lookup_cons, hbeq]
        exact ih hnodup.2 hrest

theorem lastValue_of_mem {parameters : List Parameter} (hnodup : (parameters.map Prod.fst).Nodup)
    {parameter : Parameter} (hmem : parameter ∈ parameters) :
    lastValue parameters parameter.1 = parameter.2 := by
  have hreverse : (parameters.reverse.map Prod.fst).Nodup := by
    rw [List.map_reverse]
    exact (List.reverse_perm _).nodup_iff.mpr hnodup
  rw [lastValue, lookup_of_mem hreverse (List.mem_reverse.mpr hmem)]
  rfl

theorem lastValue_eq_none {parameters : List Parameter} {key : String}
    (h : key ∉ parameters.map Prod.fst) : lastValue parameters key = none := by
  have hlookup : parameters.reverse.lookup key = none := by
    rw [OrderedMap.lookup_eq_none, List.map_reverse, List.mem_reverse]
    exact h
  rw [lastValue, hlookup]
  rfl

/-!
## Comparisons

The operand stands behind the mark of its operator. There must not be two points in a row, which would
make a range.
-/

theorem splitRange?_eq_none {cs : List Char} (h : ¬ ['.', '.'] <:+: cs) : splitRange? cs = none := by
  fun_induction splitRange? cs with
  | case1 => rfl
  | case2 rest => exact absurd (List.prefix_append ['.', '.'] rest).isInfix h
  | case3 c rest _ ih =>
      rw [ih fun hpoints => h (hpoints.trans (List.suffix_cons c rest).isInfix)]
      rfl

theorem splitRange?_cons {c : Char} (h : c ≠ '.') {rest : List Char}
    (hrest : splitRange? rest = none) : splitRange? (c :: rest) = none := by
  rw [splitRange?]
  · rw [hrest]
    rfl
  · intro _ hc
    exact fun _ => h hc

theorem comparison_less {operand : List Char} (hrange : splitRange? operand = none)
    (hne : operand.head? ≠ some '=') :
    comparison ('>' :: operand) = (.gt, [operand]) ∧
      comparison ('<' :: operand) = (.lt, [operand]) := by
  unfold comparison
  rw [splitRange?_cons (by decide) hrange, splitRange?_cons (by decide) hrange]
  cases operand with
  | nil => exact ⟨rfl, rfl⟩
  | cons c operand =>
      have hc : c ≠ '=' := by simpa using hne
      simp [hc]

theorem comparison_equal {operand : List Char} (hrange : splitRange? operand = none) :
    comparison ('=' :: operand) = (.eq, [operand]) := by
  unfold comparison
  rw [splitRange?_cons (by decide) hrange]
  rfl

theorem comparison_orEqual {operand : List Char} (hrange : splitRange? operand = none) :
    comparison ('>' :: '=' :: operand) = (.gte, [operand]) ∧
      comparison ('<' :: '=' :: operand) = (.lte, [operand]) ∧
      comparison ('!' :: '=' :: operand) = (.neq, [operand]) := by
  have hequal : splitRange? ('=' :: operand) = none := splitRange?_cons (by decide) hrange
  unfold comparison
  rw [splitRange?_cons (by decide) hequal, splitRange?_cons (by decide) hequal,
    splitRange?_cons (by decide) hequal]
  exact ⟨rfl, rfl, rfl⟩

theorem comparison_pattern {pattern : List Char} (hrange : splitRange? pattern = none)
    (hwildcard : hasWildcard pattern = true)
    (hstart : ∀ c ∈ pattern.head?, c ≠ '>' ∧ c ≠ '<' ∧ c ≠ '=')
    (hnot : ¬ ['!', '='] <+: pattern) : comparison pattern = (.like, [pattern]) := by
  unfold comparison
  rw [hrange]
  simp only
  split
  · exact absurd rfl (hstart '>' rfl).1
  · exact absurd rfl (hstart '<' rfl).2.1
  · exact absurd (List.prefix_append ['!', '='] _) hnot
  · exact absurd rfl (hstart '>' rfl).1
  · exact absurd rfl (hstart '<' rfl).2.1
  · exact absurd rfl (hstart '=' rfl).2.2
  · rw [if_pos hwildcard]

theorem Filter.ofChars_of_comparison {cs : List Char} {operator : Operator} {operand : List Char}
    (field : String) (hcaret : cs.head? ≠ some '^') (h : comparison cs = (operator, [operand])) :
    Filter.ofChars field cs = ⟨field, operator, [.ofList operand], false⟩ := by
  cases cs with
  | nil => simp [Filter.ofChars, h]
  | cons c cs =>
      have hc : c ≠ '^' := by simpa using hcaret
      simp [Filter.ofChars, hc, h]

theorem Filter.ofChars_caret {cs : List Char} {operator : Operator} {operand : List Char}
    (field : String) (h : comparison cs = (operator, [operand])) :
    Filter.ofChars field ('^' :: cs) = ⟨field, operator, [.ofList operand], true⟩ := by
  simp [Filter.ofChars, h]

end Rest
end TableQuery
