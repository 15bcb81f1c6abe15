/-!
# Paging

A page number and a page size choose a window of rows. Both are words of 32 bits, so that the
position of the first row of a page always fits a word of 64 bits.
-/

namespace TableQuery

def pageWord? (n : Nat) : Option UInt32 :=
  if n < Nat.pow 2 32 then some (.ofNat n) else none

theorem pageWord?_toNat (word : UInt32) : pageWord? word.toNat = some word := by
  rw [pageWord?, if_pos word.toNat_lt, UInt32.ofNat_toNat]

/-- The page to show, counted from one, and the number of rows on a page. -/
structure Paging where
  page : Option UInt32 := none
  size : Option UInt32 := none
deriving DecidableEq, Repr

namespace Paging

def limit (paging : Paging) : Option UInt64 :=
  paging.size.map UInt32.toUInt64

theorem toNat_limit (paging : Paging) :
    paging.limit.map UInt64.toNat = paging.size.map UInt32.toNat := by
  rw [limit, Option.map_map]
  rfl

/-- The rows before the page. A page zero is shown as the first page. -/
def offset (paging : Paging) : Option UInt64 :=
  match paging.page, paging.size with
  | some page, some size => some (.ofNat ((page.toNat - 1) * size.toNat))
  | _, _ => none

theorem offset_lt (page size : UInt32) : (page.toNat - 1) * size.toNat < Nat.pow 2 64 := by
  have hpage : page.toNat - 1 < Nat.pow 2 32 :=
    Nat.lt_of_le_of_lt (Nat.sub_le page.toNat 1) page.toNat_lt
  have hsize : size.toNat < Nat.pow 2 32 := size.toNat_lt
  calc (page.toNat - 1) * size.toNat
      ≤ (page.toNat - 1) * Nat.pow 2 32 := Nat.mul_le_mul_left _ (Nat.le_of_lt hsize)
    _ < Nat.pow 2 32 * Nat.pow 2 32 := Nat.mul_lt_mul_of_pos_right hpage (by decide)
    _ = Nat.pow 2 64 := by decide

theorem toNat_offset (page size : UInt32) :
    (Paging.mk (some page) (some size)).offset.map UInt64.toNat =
      some ((page.toNat - 1) * size.toNat) := by
  simp only [offset, Option.map_some, UInt64.toNat_ofNat', Option.some.injEq]
  exact Nat.mod_eq_of_lt (offset_lt page size)

end Paging

end TableQuery
