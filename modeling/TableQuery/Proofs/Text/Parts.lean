import Mathlib.Data.List.TakeWhile
import TableQuery.Proofs.Text.Runs
import TableQuery.Text.Blank
import TableQuery.Text.Parts

/-!
# Parts that are put together and cut again

Pieces without the separator, put together with the separator between them, are found again by cutting
at the separator, and every text is put together from the pieces that it is cut into. Cutting off the
blanks at the ends of a piece leaves the rest of the piece as it is.
-/

namespace TableQuery
namespace Text

/-!
## Pieces between separators
-/

theorem splitAll_piece {separator : Char} {piece : List Char} (h : separator ∉ piece) :
    splitAll separator piece = [piece] := by
  induction piece with
  | nil => rfl
  | cons c piece ih =>
      simp only [List.mem_cons, not_or] at h
      have hc : ¬ c = separator := fun heq => h.1 heq.symm
      simp only [splitAll, hc, if_false, ih h.2]

theorem splitAll_piece_append {separator : Char} {piece : List Char} (h : separator ∉ piece)
    (rest : List Char) :
    splitAll separator (piece ++ separator :: rest) = piece :: splitAll separator rest := by
  induction piece with
  | nil => simp [splitAll]
  | cons c piece ih =>
      simp only [List.mem_cons, not_or] at h
      have hc : ¬ c = separator := fun heq => h.1 heq.symm
      simp only [List.cons_append, splitAll, hc, if_false, ih h.2]

/-- Texts without the separator are found again. No text at all is one empty piece. -/
theorem splitAll_join {separator : String} {c : Char} (hseparator : separator.toList = [c])
    {first : String} {texts : List String} (h : ∀ text ∈ first :: texts, c ∉ text.toList) :
    splitAll c (join separator (first :: texts)).toList = (first :: texts).map String.toList := by
  induction texts generalizing first with
  | nil => exact splitAll_piece (h first (by simp))
  | cons second texts ih =>
      have hrest := @ih second fun text htext => h text (List.mem_cons_of_mem first htext)
      rw [join, String.toList_append, String.toList_append, hseparator, List.append_assoc,
        List.singleton_append, splitAll_piece_append (h first (by simp)), hrest]
      · rfl
      · simp

theorem splitAll_ne_nil (separator : Char) (cs : List Char) : splitAll separator cs ≠ [] := by
  cases cs with
  | nil => simp [splitAll]
  | cons c rest =>
      rw [splitAll]
      split
      · simp
      · split <;> simp

theorem not_mem_of_mem_splitAll {separator : Char} {cs piece : List Char}
    (h : piece ∈ splitAll separator cs) : separator ∉ piece := by
  induction cs generalizing piece with
  | nil =>
      rw [splitAll, List.mem_singleton] at h
      rw [h]
      exact List.not_mem_nil
  | cons c rest ih =>
      rw [splitAll] at h
      split at h
      · rcases List.mem_cons.mp h with hnil | hmem
        · rw [hnil]
          exact List.not_mem_nil
        · exact ih hmem
      · next hc =>
          split at h
          · next hnil => exact absurd hnil (splitAll_ne_nil separator rest)
          · next head pieces hsplit =>
              rw [hsplit] at ih
              rcases List.mem_cons.mp h with hhead | hmem
              · rw [hhead, List.mem_cons, not_or]
                exact ⟨fun heq => hc heq.symm, ih (by simp)⟩
              · exact ih (List.mem_cons_of_mem head hmem)

theorem join_cons_cons (separator first second : String) (texts : List String) :
    join separator (first :: second :: texts) =
      first ++ separator ++ join separator (second :: texts) :=
  rfl

theorem toList_join_cons (separator : String) (c : Char) (piece : List Char) (texts : List String) :
    (join separator (String.ofList (c :: piece) :: texts)).toList =
      c :: (join separator (String.ofList piece :: texts)).toList := by
  cases texts with
  | nil => simp [join]
  | cons second texts =>
      rw [join_cons_cons, join_cons_cons]
      simp only [String.toList_append, String.toList_ofList, List.cons_append]

theorem join_splitAll {separator : String} {c : Char} (hseparator : separator.toList = [c])
    (cs : List Char) : (join separator ((splitAll c cs).map String.ofList)).toList = cs := by
  induction cs with
  | nil => rfl
  | cons d rest ih =>
      rw [splitAll]
      cases hsplit : splitAll c rest with
      | nil => exact absurd hsplit (splitAll_ne_nil c rest)
      | cons piece pieces =>
          rw [hsplit, List.map_cons] at ih
          split
          · next heq =>
              rw [List.map_cons, List.map_cons, join_cons_cons, String.toList_append,
                String.toList_append, hseparator, ih, heq]
              rfl
          · rw [List.map_cons, toList_join_cons, ih]

/-!
## Blanks around a piece

Only blanks are cut off, and nothing is left just if there are only blanks.
-/

structure IsTrimmed (cs : List Char) : Prop where
  first : ∀ c ∈ cs.head?, isBlank c = false
  last : ∀ c ∈ cs.getLast?, isBlank c = false

theorem trimEnd_append {item back : List Char} (hback : ∀ c ∈ back, isBlank c = true)
    (hlast : ∀ c ∈ item.getLast?, isBlank c = false) : trimEnd (item ++ back) = item := by
  have hrun : ∀ c ∈ back.reverse, isBlank c = true := fun c hc => hback c (List.mem_reverse.mp hc)
  have hrest : ∀ c ∈ item.reverse.head?, isBlank c = false := by
    rw [List.head?_reverse]
    exact hlast
  rw [trimEnd, List.reverse_append, (takeWhile_dropWhile_append hrun hrest).2, List.reverse_reverse]

theorem trim_padded {front item back : List Char} (hfront : ∀ c ∈ front, isBlank c = true)
    (hback : ∀ c ∈ back, isBlank c = true) (hne : item ≠ []) (h : IsTrimmed item) :
    trim (front ++ item ++ back) = item := by
  have hhead : ∀ c ∈ (item ++ back).head?, isBlank c = false := by
    cases item with
    | nil => exact absurd rfl hne
    | cons c item => exact h.first
  rw [trim, List.append_assoc, (takeWhile_dropWhile_append hfront hhead).2,
    trimEnd_append hback h.last]

theorem exists_trimEnd_append (cs : List Char) :
    ∃ back, (∀ c ∈ back, isBlank c = true) ∧ cs = trimEnd cs ++ back := by
  refine ⟨(cs.reverse.takeWhile isBlank).reverse, ?_, ?_⟩
  · intro c hc
    exact List.mem_takeWhile_imp (List.mem_reverse.mp hc)
  · rw [trimEnd, ← List.reverse_append, List.takeWhile_append_dropWhile, List.reverse_reverse]

theorem exists_padded (cs : List Char) :
    ∃ front back, (∀ c ∈ front, isBlank c = true) ∧ (∀ c ∈ back, isBlank c = true) ∧
      cs = front ++ trim cs ++ back := by
  rcases exists_trimEnd_append (cs.dropWhile isBlank) with ⟨back, hback, hrest⟩
  refine ⟨cs.takeWhile isBlank, back, fun c hc => List.mem_takeWhile_imp hc, hback, ?_⟩
  rw [trim, List.append_assoc, ← hrest, List.takeWhile_append_dropWhile]

theorem isTrimmed_trim (cs : List Char) : IsTrimmed (trim cs) := by
  constructor
  · rcases exists_trimEnd_append (cs.dropWhile isBlank) with ⟨back, _, hrest⟩
    have hhead := head?_dropWhile isBlank cs
    rw [hrest] at hhead
    intro c hc
    apply hhead c
    rw [List.head?_append, show (trimEnd _).head? = some c from hc]
    rfl
  · rw [trim, trimEnd, List.getLast?_reverse]
    exact head?_dropWhile isBlank _

theorem IsTrimmed.trim_eq {cs : List Char} (h : IsTrimmed cs) : trim cs = cs := by
  cases cs with
  | nil => rfl
  | cons c cs =>
      have hnone : ∀ c ∈ ([] : List Char), isBlank c = true := fun c hc => absurd hc List.not_mem_nil
      simpa using trim_padded hnone hnone (List.cons_ne_nil c cs) h

theorem isTrimmed_of_forall {cs : List Char} (h : ∀ c ∈ cs, isBlank c = false) : IsTrimmed cs where
  first c hc := h c (List.mem_of_mem_head? hc)
  last c hc := h c (List.mem_of_getLast? hc)

theorem trim_eq_self {cs : List Char} (h : ∀ c ∈ cs, isBlank c = false) : trim cs = cs :=
  (isTrimmed_of_forall h).trim_eq

theorem trim_eq_nil {cs : List Char} : trim cs = [] ↔ ∀ c ∈ cs, isBlank c = true := by
  rw [trim, trimEnd, List.reverse_eq_nil_iff, List.dropWhile_eq_nil_iff]
  constructor
  · intro h c hc
    rw [← List.takeWhile_append_dropWhile (p := isBlank) (l := cs), List.mem_append] at hc
    rcases hc with hfront | hback
    · exact List.mem_takeWhile_imp hfront
    · exact h c (List.mem_reverse.mpr hback)
  · intro h c hc
    exact h c ((List.dropWhile_suffix isBlank).subset (List.mem_reverse.mp hc))

end Text
end TableQuery
