import TableQuery.Proofs.Decimal.Exactness
import TableQuery.Proofs.OrderedMap
import TableQuery.Result.Row

/-!
# Reading rows

The first cell with a name is the one that is read, so what comes later under the same name changes
nothing. A value is read as it was put in, at its own type. A number can also be read at other types of
numbers, and then it is the same number or it is not read at all.
-/

namespace TableQuery

/-!
## Types of values

A value of a readable type is found in its cell. Only an empty cell stands for a value that is
missing.
-/

inductive Plain : (α : Type) → [OfCell α] → [ToCell α] → Prop where
  | boolean : Plain Bool
  | int32 : Plain Int32
  | int64 : Plain Int64
  | float : Plain Binary64
  | decimal : Plain Decimal
  | string : Plain String
  | cell : Plain Cell

/-- The types that a cell is read as, with or without a missing value. -/
inductive Readable : (α : Type) → [OfCell α] → [ToCell α] → Prop where
  | plain {α : Type} [OfCell α] [ToCell α] (h : Plain α) : Readable α
  | optional {α : Type} [OfCell α] [ToCell α] (h : Plain α) : Readable (Option α)

theorem Plain.ofCell?_toCell {α : Type} [OfCell α] [ToCell α] (h : Plain α) (x : α) :
    OfCell.ofCell? (ToCell.toCell x) = some x := by
  cases h with
  | int32 =>
      show Cell.int32? (Cell.int32 x) = some x
      simp [Cell.int32?, Cell.int64?]
  | _ => rfl

theorem Plain.eq_null {α : Type} [OfCell α] [ToCell α] (h : Plain α) {x : α}
    (hnull : ToCell.toCell x = .null) : (⟨α, x⟩ : (α : Type) × α) = ⟨Cell, .null⟩ := by
  cases h with
  | cell =>
      have hx : x = .null := hnull
      rw [hx]
  | _ => cases hnull

theorem ofCell?_option {α : Type} [OfCell α] {cell : Cell} (h : cell ≠ .null) :
    (OfCell.ofCell? cell : Option (Option α)) = (OfCell.ofCell? cell).map some := by
  cases cell with
  | null => exact absurd rfl h
  | _ => rfl

theorem Readable.ofCell?_toCell {α : Type} [OfCell α] [ToCell α] (h : Readable α) (x : α)
    (hx : (⟨α, x⟩ : (α : Type) × α) ≠ ⟨Option Cell, some .null⟩) :
    OfCell.ofCell? (ToCell.toCell x) = some x := by
  cases h with
  | plain h => exact h.ofCell?_toCell x
  | @optional α _ _ h =>
      cases x with
      | none => rfl
      | some y =>
          have hcell : ToCell.toCell y ≠ .null := by
            intro hnull
            apply hx
            cases h.eq_null hnull
            rfl
          show OfCell.ofCell? (ToCell.toCell y) = some (some y)
          rw [ofCell?_option hcell, h.ofCell?_toCell y]
          rfl

/-!
## Numbers

A cell holds a whole number, a decimal or neither. Reading it at a type of numbers gives this
number, or nothing if the type does not have it.
-/

namespace Cell

def integer? : Cell → Option Int
  | int32 value => some value.toInt
  | int64 value => some value.toInt
  | _ => none

def number? : Cell → Option ℚ
  | int32 value => some value.toInt
  | int64 value => some value.toInt
  | decimal value => some value.value
  | _ => none

theorem number?_of_integer? {cell : Cell} {n : Int} (h : cell.integer? = some n) :
    cell.number? = some (n : ℚ) := by
  cases cell with
  | int32 value =>
      cases h
      rfl
  | int64 value =>
      cases h
      rfl
  | _ => cases h

theorem int64?_eq_some_iff {cell : Cell} {x : Int64} :
    cell.int64? = some x ↔ cell.integer? = some x.toInt := by
  cases cell with
  | int32 value =>
      rw [int64?, integer?, Option.some_inj, Option.some_inj, ← Int64.toInt_inj,
        Int32.toInt_toInt64]
  | int64 value => rw [int64?, integer?, Option.some_inj, Option.some_inj, Int64.toInt_inj]
  | _ => simp [int64?, integer?]

theorem int32?_eq_some_iff {cell : Cell} {x : Int32} :
    cell.int32? = some x ↔ cell.integer? = some x.toInt := by
  rw [← Int32.toInt_toInt64, ← int64?_eq_some_iff, int32?]
  cases cell.int64? with
  | none => simp
  | some value =>
      simp only [Option.some_inj]
      constructor
      · intro h
        split at h
        · next hsame =>
            cases h
            exact hsame.symm
        · cases h
      · rintro rfl
        rw [Int32.toInt32_toInt64, if_pos rfl]

theorem decimal?_of_int64? {cell : Cell} {x : Int64} (h : cell.int64? = some x) :
    cell.decimal? = some (.ofInt64 x) := by
  cases cell with
  | int32 value =>
      cases h
      rfl
  | int64 value =>
      cases h
      rfl
  | _ => cases h

theorem number?_of_decimal? {cell : Cell} {d : Decimal} (h : cell.decimal? = some d) :
    cell.number? = some d.value := by
  cases cell with
  | int32 value =>
      cases h
      rw [number?, Decimal.value_ofInt64, Int32.toInt_toInt64]
  | int64 value =>
      cases h
      rw [number?, Decimal.value_ofInt64]
  | decimal value =>
      cases h
      rfl
  | _ => cases h

end Cell

inductive Numeric : (α : Type) → [OfCell α] → Prop where
  | int32 : Numeric Int32
  | int64 : Numeric Int64
  | decimal : Numeric Decimal
  | optional {α : Type} [OfCell α] (h : Numeric α) : Numeric (Option α)

inductive IsNumber : {α : Type} → α → ℚ → Prop where
  | int32 (x : Int32) : IsNumber x x.toInt
  | int64 (x : Int64) : IsNumber x x.toInt
  | decimal (x : Decimal) : IsNumber x x.value
  | present {α : Type} {x : α} {number : ℚ} (h : IsNumber x number) : IsNumber (some x) number

theorem Numeric.isNumber {α : Type} [OfCell α] (h : Numeric α) {cell : Cell} {number : ℚ} {x : α}
    (hnumber : cell.number? = some number) (hx : OfCell.ofCell? cell = some x) :
    IsNumber x number := by
  induction h with
  | int32 =>
      have hinteger := Cell.number?_of_integer? (Cell.int32?_eq_some_iff.mp hx)
      cases hnumber.symm.trans hinteger
      exact .int32 x
  | int64 =>
      have hinteger := Cell.number?_of_integer? (Cell.int64?_eq_some_iff.mp hx)
      cases hnumber.symm.trans hinteger
      exact .int64 x
  | decimal =>
      cases hnumber.symm.trans (Cell.number?_of_decimal? hx)
      exact .decimal x
  | optional _ ih =>
      -- A cell with a number is not empty, so it is read as a present value.
      have hcell : cell ≠ .null := by
        rintro rfl
        cases hnumber
      rw [ofCell?_option hcell] at hx
      rcases Option.map_eq_some_iff.mp hx with ⟨y, hy, rfl⟩
      exact .present (ih hy)

theorem exists_toInt_eq_iff {n : Int} :
    (∃ x : Int32, x.toInt = n) ↔ -2 ^ 31 ≤ n ∧ n < 2 ^ 31 := by
  constructor
  · rintro ⟨x, rfl⟩
    exact ⟨x.le_toInt, x.toInt_lt⟩
  · intro h
    exact ⟨.ofInt n, Int32.toInt_ofInt_of_le h.1 h.2⟩

/-!
## Rows

A new cell is read only if it is the first one with its name. So however many cells are added, a
name that was there is read as before.
-/

namespace Row

def names (row : Row) : List String :=
  row.cells.map Prod.fst

theorem get?_eq_none_iff {row : Row} {name : String} : row.get? name = none ↔ name ∉ row.names :=
  OrderedMap.lookup_eq_none

theorem get?_push {α : Type} [ToCell α] (row : Row) (name : String) (x : α) (other : String) :
    (row.push name x).get? other =
      (row.get? other).or (if other = name then some (ToCell.toCell x) else none) := by
  rw [get?, push, List.lookup_append, List.lookup_cons, get?]
  by_cases h : other = name
  · simp [h]
  · have hbeq : (other == name) = false := by simpa using h
    rw [hbeq, if_neg h]
    rfl

theorem read_eq_ok_iff {α : Type} [OfCell α] {row : Row} {name : String} {x : α} :
    row.read α name = .ok x ↔ ∃ cell, row.get? name = some cell ∧ OfCell.ofCell? cell = some x := by
  unfold read
  cases row.get? name with
  | none => simp
  | some cell =>
      simp only [Option.some_inj, exists_eq_left']
      cases (OfCell.ofCell? cell : Option α) with
      | none => simp
      | some value => simp

theorem read_eq_missingColumn_iff {α : Type} [OfCell α] {row : Row} {name column : String} :
    row.read α name = .error (.missingColumn column) ↔ column = name ∧ name ∉ row.names := by
  rw [← get?_eq_none_iff]
  unfold read
  cases row.get? name with
  | none => simp [eq_comm]
  | some cell =>
      dsimp only
      split <;> simp

theorem read_congr (α : Type) [OfCell α] {row row' : Row} {name : String}
    (h : row.get? name = row'.get? name) : row.read α name = row'.read α name := by
  rw [read, read, h]

theorem read_push {α : Type} [ToCell α] (β : Type) [OfCell β] {row : Row} {name other : String}
    (x : α) (h : name ∈ row.names ∨ other ≠ name) :
    (row.push name x).read β other = row.read β other := by
  apply read_congr
  rw [get?_push]
  by_cases hother : other = name
  · have hfound : row.get? other ≠ none := by
      rw [Ne, get?_eq_none_iff, hother, not_not]
      exact h.resolve_right fun hne => hne hother
    rcases Option.ne_none_iff_exists'.mp hfound with ⟨cell, hcell⟩
    rw [hcell]
    rfl
  · rw [if_neg hother, Option.or_none]

def pushAll (row : Row) (fields : List (String × Cell)) : Row :=
  fields.foldl (fun row field => row.push field.1 field.2) row

theorem names_push {α : Type} [ToCell α] (row : Row) (name : String) (x : α) :
    (row.push name x).names = row.names ++ [name] := by
  simp [names, push]

theorem read_pushAll (α : Type) [OfCell α] {row : Row} {name : String} (h : name ∈ row.names)
    (fields : List (String × Cell)) : (row.pushAll fields).read α name = row.read α name := by
  -- The name stays in the row, so each step leaves its read as it is.
  induction fields generalizing row with
  | nil => rfl
  | cons field fields ih =>
      have hmem : name ∈ (row.push field.1 field.2).names := by
        rw [names_push]
        exact List.mem_append_left _ h
      have hstep : (row.push field.1 field.2).read α name = row.read α name := by
        apply read_push
        by_cases hname : name = field.1
        · exact .inl (hname ▸ h)
        · exact .inr hname
      exact (ih hmem).trans hstep

theorem read_push_self {α : Type} [OfCell α] [ToCell α] (h : Readable α) {row : Row} {name : String}
    {x : α} (hx : (⟨α, x⟩ : (α : Type) × α) ≠ ⟨Option Cell, some .null⟩) (hname : name ∉ row.names) :
    (row.push name x).read α name = .ok x := by
  rw [read_eq_ok_iff]
  refine ⟨ToCell.toCell x, ?_, h.ofCell?_toCell x hx⟩
  rw [get?_push, get?_eq_none_iff.mpr hname, if_pos rfl]
  rfl

theorem exists_read_int32_iff {row : Row} {name : String} :
    (∃ x, row.read Int32 name = .ok x) ↔
      ∃ cell n, row.get? name = some cell ∧ cell.integer? = some n ∧ -2 ^ 31 ≤ n ∧ n < 2 ^ 31 := by
  constructor
  · rintro ⟨x, hread⟩
    rcases read_eq_ok_iff.mp hread with ⟨cell, hcell, hx⟩
    exact ⟨cell, x.toInt, hcell, Cell.int32?_eq_some_iff.mp hx, exists_toInt_eq_iff.mp ⟨x, rfl⟩⟩
  · rintro ⟨cell, n, hcell, hn, hrange⟩
    rcases exists_toInt_eq_iff.mpr hrange with ⟨x, rfl⟩
    exact ⟨x, read_eq_ok_iff.mpr ⟨cell, hcell, Cell.int32?_eq_some_iff.mpr hn⟩⟩

theorem read_wider {row : Row} {name : String} {x : Int32} (h : row.read Int32 name = .ok x) :
    ∃ (y : Int64) (d : Decimal), row.read Int64 name = .ok y ∧ row.read Decimal name = .ok d ∧
      y.toInt = x.toInt ∧ d.value = x.toInt := by
  rcases read_eq_ok_iff.mp h with ⟨cell, hcell, hx⟩
  have hinteger : cell.integer? = some x.toInt64.toInt := by
    rw [Int32.toInt_toInt64]
    exact Cell.int32?_eq_some_iff.mp hx
  have hword : cell.int64? = some x.toInt64 := Cell.int64?_eq_some_iff.mpr hinteger
  refine ⟨x.toInt64, .ofInt64 x.toInt64, ?_, ?_, Int32.toInt_toInt64 x, ?_⟩
  · exact read_eq_ok_iff.mpr ⟨cell, hcell, hword⟩
  · exact read_eq_ok_iff.mpr ⟨cell, hcell, Cell.decimal?_of_int64? hword⟩
  · rw [Decimal.value_ofInt64, Int32.toInt_toInt64]

/-- Reading rows. A value of a readable type is read as it was added, if it is the first one under its
name, and a later one changes nothing; a present value that is an empty cell is the only exception. A
column is missing just if no cell has its name. A number that is read is the number in the row, and a
word of 32 bits is read just if the row has a whole number that such a word can hold. -/
theorem read_first_write (row : Row) (name : String) :
    (∀ (α : Type) [OfCell α] [ToCell α] (x : α), Readable α →
      (⟨α, x⟩ : (α : Type) × α) ≠ ⟨Option Cell, some .null⟩ → name ∉ row.names →
      (row.push name x).read α name = .ok x) ∧
    (∀ (α β : Type) [ToCell α] [OfCell β] (x : α) (other : String),
      name ∈ row.names ∨ other ≠ name →
      (row.push name x).read β other = row.read β other) ∧
    (∀ (α : Type) [OfCell α] (fields : List (String × Cell)), name ∈ row.names →
      (row.pushAll fields).read α name = row.read α name) ∧
    (∀ (α : Type) [OfCell α] (column : String),
      row.read α name = .error (.missingColumn column) ↔ column = name ∧ name ∉ row.names) ∧
    (∀ (α : Type) [OfCell α] (cell : Cell) (number : ℚ) (x : α), Numeric α →
      row.get? name = some cell → cell.number? = some number → row.read α name = .ok x →
      IsNumber x number) ∧
    ((∃ x, row.read Int32 name = .ok x) ↔
      ∃ cell n, row.get? name = some cell ∧ cell.integer? = some n ∧ -2 ^ 31 ≤ n ∧ n < 2 ^ 31) ∧
    ∀ x : Int32, row.read Int32 name = .ok x →
      ∃ (y : Int64) (d : Decimal), row.read Int64 name = .ok y ∧ row.read Decimal name = .ok d ∧
        y.toInt = x.toInt ∧ d.value = x.toInt := by
  refine ⟨?_, ?_, ?_, ?_, ?_, ?_, ?_⟩
  · intro α _ _ x h hx hname
    exact read_push_self h hx hname
  · intro α β _ _ x other h
    exact read_push β x h
  · intro α _ fields h
    exact read_pushAll α h fields
  · intro α _ column
    exact read_eq_missingColumn_iff
  · intro α _ cell number x h hcell hnumber hread
    rcases read_eq_ok_iff.mp hread with ⟨found, hfound, hx⟩
    cases hcell.symm.trans hfound
    exact h.isNumber hnumber hx
  · exact exists_read_int32_iff
  · intro x hread
    exact read_wider hread

/-- A row with the largest word of 32 bits, and with another cell under the same name. -/
def doubledRow : Row :=
  ⟨[("id", .int64 2147483647), ("id", .string "late")]⟩

theorem read_first_write_doubled :
    (doubledRow.push "note" (some (Cell.int32 7))).read (Option Cell) "note" =
        .ok (some (.int32 7)) ∧
      (doubledRow.push "id" false).read Bool "id" = doubledRow.read Bool "id" ∧
      (doubledRow.pushAll [("note", .null), ("id", .null)]).read Int64 "id" = .ok 2147483647 ∧
      IsNumber (some (2147483647 : Int32)) (2147483647 : Int64).toInt ∧
      ∃ (y : Int64) (d : Decimal), doubledRow.read Int64 "id" = .ok y ∧
        doubledRow.read Decimal "id" = .ok d ∧ y.toInt = 2147483647 ∧ d.value = 2147483647 := by
  rcases read_first_write doubledRow "id" with ⟨_, hpush, hpushAll, _, hnumber, _, hwider⟩
  refine ⟨?_, ?_, ?_, ?_, ?_⟩
  · apply (read_first_write doubledRow "note").1 _ _ (.optional .cell) _ (by decide)
    intro h
    cases h
  · exact hpush Bool Bool false "id" (.inl (by decide))
  · exact hpushAll Int64 [("note", .null), ("id", .null)] (by decide)
  · exact hnumber (Option Int32) _ _ _ (.optional .int32) rfl rfl rfl
  · rcases hwider 2147483647 rfl with ⟨y, d, hy, hd, hinteger, hvalue⟩
    exact ⟨y, d, hy, hd, hinteger, by simpa using hvalue⟩

end Row

end TableQuery
