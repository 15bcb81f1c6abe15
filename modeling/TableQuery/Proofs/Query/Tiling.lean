import Mathlib.Algebra.Order.Ring.Nat
import Mathlib.Logic.ExistsUnique
import TableQuery.Query.Paging

/-!
# Tiling

The pages of one size lie side by side: each page begins where the page before it ends, and the first
one begins with the first row. So every row that pages can reach is on exactly one page. No bound of a
page is too large for a word of 64 bits, not even the end of the last page.
-/

namespace TableQuery
namespace Paging

/-- A page of a size has a window: its offset and its limit. -/
structure Window (page size : UInt32) (offset limit : UInt64) : Prop where
  offset_eq : (Paging.mk (some page) (some size)).offset = some offset
  limit_eq : (Paging.mk (some page) (some size)).limit = some limit

/-- A row, counted from zero, is in the window of a page. -/
def Shows (page size : UInt32) (row : Nat) : Prop :=
  ∃ offset limit, Window page size offset limit ∧
    offset.toNat ≤ row ∧ row < offset.toNat + limit.toNat

/-!
## Bounds of a window

The end of a window is at most a product of two words of 32 bits. The bounds of a window say which
page it is of, and of which size.
-/

theorem exists_window (page size : UInt32) : ∃ offset limit, Window page size offset limit :=
  ⟨_, _, rfl, rfl⟩

namespace Window

variable {page size : UInt32} {offset limit : UInt64}

theorem toNat_offset (h : Window page size offset limit) :
    offset.toNat = (page.toNat - 1) * size.toNat := by
  have hnumber := Paging.toNat_offset page size
  rw [h.offset_eq] at hnumber
  exact Option.some.inj hnumber

theorem toNat_limit (h : Window page size offset limit) : limit.toNat = size.toNat := by
  have hnumber := Paging.toNat_limit ⟨some page, some size⟩
  rw [h.limit_eq] at hnumber
  exact Option.some.inj hnumber

theorem toNat_end (h : Window page size offset limit) :
    offset.toNat + limit.toNat = (page.toNat - 1 + 1) * size.toNat := by
  rw [h.toNat_offset, h.toNat_limit, Nat.succ_mul]

theorem end_lt (h : Window page size offset limit) : offset.toNat + limit.toNat < 2 ^ 64 := by
  have hpage : page.toNat - 1 + 1 ≤ 2 ^ 32 - 1 := by
    have hlt := page.toNat_lt
    omega
  have hsize : size.toNat ≤ 2 ^ 32 - 1 := Nat.le_sub_one_of_lt size.toNat_lt
  calc offset.toNat + limit.toNat
      = (page.toNat - 1 + 1) * size.toNat := h.toNat_end
    _ ≤ (2 ^ 32 - 1) * (2 ^ 32 - 1) := Nat.mul_le_mul hpage hsize
    _ < 2 ^ 64 := by decide

theorem of_toNat (hoffset : offset.toNat = (page.toNat - 1) * size.toNat)
    (hlimit : limit.toNat = size.toNat) : Window page size offset limit := by
  rcases exists_window page size with ⟨offset', limit', h⟩
  have hoffset' : offset' = offset := UInt64.toNat_inj.mp (h.toNat_offset.trans hoffset.symm)
  have hlimit' : limit' = limit := UInt64.toNat_inj.mp (h.toNat_limit.trans hlimit.symm)
  rw [← hoffset', ← hlimit']
  exact h

theorem next (h : Window page size offset limit) (hpage : 1 ≤ page.toNat)
    (hnext : page.toNat + 1 < 2 ^ 32) : Window (page + 1) size (offset + limit) limit := by
  have hsucc : (page + 1).toNat = page.toNat - 1 + 1 + 1 := by
    rw [UInt32.toNat_add, UInt32.toNat_one, Nat.mod_eq_of_lt hnext, Nat.sub_add_cancel hpage]
  apply of_toNat
  · rw [UInt64.toNat_add, Nat.mod_eq_of_lt h.end_lt, h.toNat_end, hsucc]
    rfl
  · exact h.toNat_limit

end Window

/-!
## The page of a row

The page of a row is found by division.
-/

theorem shows_iff {page size : UInt32} {row : Nat} :
    Shows page size row ↔
      (page.toNat - 1) * size.toNat ≤ row ∧ row < (page.toNat - 1 + 1) * size.toNat := by
  constructor
  · rintro ⟨offset, limit, hwindow, hle, hlt⟩
    rw [hwindow.toNat_end] at hlt
    rw [hwindow.toNat_offset] at hle
    exact ⟨hle, hlt⟩
  · intro h
    rcases exists_window page size with ⟨offset, limit, hwindow⟩
    refine ⟨offset, limit, hwindow, ?_⟩
    rw [hwindow.toNat_end, hwindow.toNat_offset]
    exact h

theorem shows_iff_div {page size : UInt32} {row : Nat} (hsize : 0 < size.toNat) :
    Shows page size row ↔ row / size.toNat = page.toNat - 1 := by
  rw [shows_iff]
  constructor
  · intro h
    exact Nat.div_eq_of_lt_le h.1 h.2
  · intro h
    rw [← h]
    constructor
    · exact Nat.div_mul_le_self row size.toNat
    · rw [Nat.succ_mul]
      exact Nat.lt_div_mul_add hsize

theorem existsUnique_shows {size : UInt32} {row : Nat} (hrow : row < (2 ^ 32 - 1) * size.toNat) :
    ∃! page : UInt32, 1 ≤ page.toNat ∧ Shows page size row := by
  -- If pages were empty there would be no row below the bound.
  have hsize : 0 < size.toNat := by
    apply Nat.pos_of_ne_zero
    intro hzero
    rw [hzero, Nat.mul_zero] at hrow
    exact Nat.not_lt_zero row hrow
  have hdiv : row / size.toNat < 2 ^ 32 - 1 := (Nat.div_lt_iff_lt_mul hsize).mpr hrow
  have hnumber : (UInt32.ofNat (row / size.toNat + 1)).toNat = row / size.toNat + 1 :=
    UInt32.toNat_ofNat_of_lt' (Nat.add_lt_of_lt_sub hdiv)
  refine ⟨UInt32.ofNat (row / size.toNat + 1), ⟨?_, ?_⟩, ?_⟩
  · rw [hnumber]
    exact Nat.le_add_left 1 (row / size.toNat)
  · rw [shows_iff_div hsize, hnumber]
    rfl
  · rintro page ⟨hpage, hshows⟩
    rw [shows_iff_div hsize] at hshows
    apply UInt32.toNat_inj.mp
    rw [hnumber, hshows, Nat.sub_add_cancel hpage]

/-- The pages of a size tile the rows. Neither the rows before a page nor the rows up to its end are
more than a word of 64 bits can count. The next page begins where a page ends, page zero is the first
page, and each row that pages can reach is on one page and no other. -/
theorem pages_tile (size : UInt32) :
    (∀ page : UInt32, (page.toNat - 1) * size.toNat < 2 ^ 64 ∧
      ∃ offset limit, Window page size offset limit ∧
        offset.toNat = (page.toNat - 1) * size.toNat ∧ limit.toNat = size.toNat ∧
        offset.toNat + limit.toNat < 2 ^ 64) ∧
    (∀ (page : UInt32) (offset limit : UInt64), 1 ≤ page.toNat → page.toNat + 1 < 2 ^ 32 →
      Window page size offset limit → Window (page + 1) size (offset + limit) limit) ∧
    (∀ offset limit, Window 0 size offset limit ↔ Window 1 size offset limit) ∧
    ∀ row : Nat, row < (2 ^ 32 - 1) * size.toNat →
      ∃! page : UInt32, 1 ≤ page.toNat ∧ Shows page size row := by
  refine ⟨?_, ?_, ?_, ?_⟩
  · intro page
    refine ⟨offset_lt page size, ?_⟩
    rcases exists_window page size with ⟨offset, limit, h⟩
    exact ⟨offset, limit, h, h.toNat_offset, h.toNat_limit, h.end_lt⟩
  · intro page offset limit hpage hnext h
    exact h.next hpage hnext
  · intro offset limit
    constructor
    · intro h
      exact .of_toNat h.toNat_offset h.toNat_limit
    · intro h
      exact .of_toNat h.toNat_offset h.toNat_limit
  · intro row hrow
    exact existsUnique_shows hrow

theorem pages_tile_widest :
    Window (4294967294 + 1) 4294967295 (18446744056529682435 + 4294967295) 4294967295 ∧
      ∃! page : UInt32, 1 ≤ page.toNat ∧ Shows page 4294967295 18446744065119617024 := by
  rcases pages_tile 4294967295 with ⟨_, hnext, _, hrows⟩
  constructor
  · exact hnext 4294967294 18446744056529682435 4294967295 (by decide) (by decide) ⟨rfl, rfl⟩
  · exact hrows 18446744065119617024 (by decide)

end Paging
end TableQuery
