import TableQuery.Proofs.Sql.Grouping

/-!
# Conjunctions

If no operator stands inside a comparison or a range, the text of a condition ends in front of the
next `AND` that is not that of its range. So only the `AND`s between conditions can be regrouped.
-/

namespace TableQuery
namespace Sql
namespace Expr

/-!
## Conditions

An expression is conjunctive if it joins conditions and each of them compares operands only. A
condition starts with an operand as it is, and no `AND` stands behind this operand. So it is known
where a condition ends.
-/

mutual

/-- Whether an expression joins conditions, and each of them compares operands only. The same holds
for the arguments of calls. -/
def isConjunctive : Expr → Bool
  | binary left .and right => left.isConjunctive && right.isConjunctive
  | binary left _ right =>
    left.isOperand && right.isOperand && (left.isConjunctive && right.isConjunctive)
  | between operand low high =>
    operand.isOperand && low.isOperand && high.isOperand &&
      (operand.isConjunctive && low.isConjunctive && high.isConjunctive)
  | call _ arguments => isConjunctiveList arguments
  | _ => true

def isConjunctiveList : List Expr → Bool
  | [] => true
  | expr :: rest => expr.isConjunctive && isConjunctiveList rest

end

def isCondition : Expr → Bool
  | binary _ .and _ => false
  | _ => true

structure Conjunctive (expr : Expr) : Prop where
  clear : expr.isClear = true
  conjunctive : expr.isConjunctive = true

namespace Conjunctive

theorem of_mem {function : String} {exprs : List Expr} (h : Conjunctive (.call function exprs)) :
    ∀ expr ∈ exprs, Conjunctive expr := by
  have hall : ∀ exprs : List Expr, isConjunctiveList exprs = exprs.all isConjunctive := by
    intro exprs
    induction exprs with
    | nil => rfl
    | cons expr exprs ih => rw [isConjunctiveList, ih, List.all_cons]
  intro expr hmem
  have hconjunctive := h.conjunctive
  rw [isConjunctive, hall, List.all_eq_true] at hconjunctive
  exact ⟨isClear_of_mem h.clear expr hmem, hconjunctive expr hmem⟩

theorem and {left right : Expr} (h : Conjunctive (.binary left .and right)) :
    Conjunctive left ∧ Conjunctive right := by
  rcases h with ⟨hclear, hconjunctive⟩
  simp only [isClear, isConjunctive, Bool.and_eq_true] at hclear hconjunctive
  exact ⟨⟨hclear.1, hconjunctive.1⟩, ⟨hclear.2, hconjunctive.2⟩⟩

theorem comparison {left right : Expr} {operator : BinaryOperator} (hoperator : operator ≠ .and)
    (h : Conjunctive (.binary left operator right)) :
    (left.isOperand = true ∧ Conjunctive left) ∧ right.isOperand = true ∧ Conjunctive right := by
  rcases h with ⟨hclear, hconjunctive⟩
  rw [isConjunctive] at hconjunctive
  · simp only [isClear, Bool.and_eq_true] at hclear hconjunctive
    exact ⟨⟨hconjunctive.1.1, hclear.1, hconjunctive.2.1⟩, hconjunctive.1.2, hclear.2,
      hconjunctive.2.2⟩
  · exact hoperator

theorem range {operand low high : Expr} (h : Conjunctive (.between operand low high)) :
    (operand.isOperand = true ∧ Conjunctive operand) ∧ (low.isOperand = true ∧ Conjunctive low) ∧
      high.isOperand = true ∧ Conjunctive high := by
  rcases h with ⟨hclear, hconjunctive⟩
  simp only [isClear, isConjunctive, Bool.and_eq_true] at hclear hconjunctive
  exact ⟨⟨hconjunctive.1.1.1, hclear.1.1, hconjunctive.2.1.1⟩,
    ⟨hconjunctive.1.1.2, hclear.1.2, hconjunctive.2.1.2⟩, hconjunctive.1.2, hclear.2,
    hconjunctive.2.2⟩

end Conjunctive

def Joins (lexemes : List Lexeme) : Prop :=
  ∀ next ∈ lexemes.head?, next = BinaryOperator.and.lexeme

theorem Joins.closed {lexemes : List Lexeme} (h : Joins lexemes) : Closed lexemes := by
  intro next hnext
  rw [h next hnext]
  decide

theorem exists_led_of_isCondition {condition : Expr} (h : Conjunctive condition)
    (hcondition : condition.isCondition = true) :
    ∃ operand rest, Led condition operand rest := by
  cases condition with
  | binary left operator right =>
      have hoperator : operator ≠ .and := by
        rintro rfl
        cases hcondition
      exact ⟨_, _, .operator (h.comparison hoperator).1.1 operator right⟩
  | between operand low high => exact ⟨_, _, .range h.range.1.1 low high⟩
  | _ => exact ⟨_, _, .operand rfl⟩

theorem Led.not_joins {condition operand : Expr} {rest : List Lexeme}
    (h : Led condition operand rest) (hcondition : condition.isCondition = true)
    (hrest : rest ≠ []) (more : List Lexeme) : ¬ Joins (rest ++ more) := by
  intro hjoins
  cases h with
  | operand => exact hrest rfl
  | operator _ operator right =>
      cases BinaryOperator.lexeme_inj (hjoins _ rfl)
      cases hcondition
  | range _ low high => exact absurd (hjoins _ rfl) (by decide)

theorem condition_append_inj {condition other : Expr} {more more' : List Lexeme}
    (hcondition : Conjunctive condition) (hother : Conjunctive other)
    (halone : condition.isCondition = true) (halone' : other.isCondition = true)
    (hmore : Joins more) (hmore' : Joins more')
    (hshorter : ∀ {part part' : Expr}, part.lexemes.length < condition.lexemes.length →
      Conjunctive part → Conjunctive part' → part.lexemes = part'.lexemes →
        Linked Reassociates part part')
    (h : condition.lexemes ++ more = other.lexemes ++ more') :
    Linked Reassociates condition other ∧ more = more' := by
  rcases exists_led_of_isCondition hcondition halone with ⟨operand, rest, hled⟩
  rcases exists_led_of_isCondition hother halone' with ⟨operand', rest', hled'⟩
  rcases hled.append_inj hled' hcondition.clear hother.clear hmore.closed hmore'.closed h with
    ⟨hmatches, hrest⟩
  have hend : rest = [] ↔ rest' = [] := by
    constructor
    · rintro rfl
      by_contra hne
      exact hled'.not_joins halone' hne more' (hrest ▸ hmore)
    · rintro rfl
      by_contra hne
      exact hled.not_joins halone hne more (hrest ▸ hmore')
  -- Each operand of the condition is linked to the one at the same place in the other condition.
  have hoperand : ∀ {part part' : Expr}, Matches part part' → Conjunctive part → Conjunctive part' →
      part.lexemes.length ≤ condition.lexemes.length → Linked Reassociates part part' :=
    fun hsame hpart hpart' hle =>
      hsame.linked Conjunctive.of_mem hpart hpart' fun hlt => hshorter (by omega)
  cases hled with
  | operand _ =>
      cases hled' with
      | operand _ => exact ⟨hoperand hmatches hcondition hother (Nat.le_refl _), hrest⟩
      | operator _ operator right => cases hend.mp rfl
      | range _ low high => cases hend.mp rfl
  | operator _ operator right =>
      cases hled' with
      | operand _ => cases hend.mpr rfl
      | operator _ operator' right' =>
          rcases List.cons.inj hrest with ⟨hoperator, hbehind⟩
          cases BinaryOperator.lexeme_inj hoperator
          have hcomparison : operator ≠ .and := by
            rintro rfl
            cases halone
          rcases hcondition.comparison hcomparison with ⟨⟨_, hleft⟩, hright, hright'⟩
          rcases hother.comparison hcomparison with ⟨⟨_, hleft'⟩, hother, hother'⟩
          rcases operand_append_inj hright hother hright'.clear hother'.clear hmore.closed
            hmore'.closed hbehind with ⟨hlast, hsame⟩
          simp only [lexemes, List.length_append, List.length_cons] at hoperand
          exact ⟨.binary operator (hoperand hmatches hleft hleft' (by omega))
            (hoperand hlast hright' hother' (by omega)), hsame⟩
      | range _ low high => exact absurd (List.cons.inj hrest).1 operator.lexeme_ne_between
  | range _ low high =>
      cases hled' with
      | operand _ => cases hend.mpr rfl
      | operator _ operator right =>
          exact absurd (List.cons.inj hrest).1.symm operator.lexeme_ne_between
      | range _ low' high' =>
          rcases hcondition.range with ⟨⟨_, hfirst⟩, ⟨hlow, hlow'⟩, hhigh, hhigh'⟩
          rcases hother.range with ⟨⟨_, hother⟩, ⟨hlower, hlower'⟩, hupper, hupper'⟩
          have hbounds := (List.cons.inj hrest).2
          simp only [lexemes, List.append_eq, List.append_assoc, List.cons_append] at hbounds
          rcases operand_append_inj hlow hlower hlow'.clear hlower'.clear (closed_operator .and _)
            (closed_operator .and _) hbounds with ⟨hleast, hbehind⟩
          rcases operand_append_inj hhigh hupper hhigh'.clear hupper'.clear hmore.closed
            hmore'.closed (List.cons.inj hbehind).2 with ⟨hgreatest, hsame⟩
          simp only [lexemes, List.length_append, List.length_cons] at hoperand
          exact ⟨.between (hoperand hmatches hfirst hother (by omega))
            (hoperand hleast hlow' hlower' (by omega))
            (hoperand hgreatest hhigh' hupper' (by omega)), hsame⟩

inductive Joined : Expr → Expr → List Lexeme → Prop where
  | alone {condition : Expr} (h : condition.isCondition = true) : Joined condition condition []
  | and {condition : Expr} (h : condition.isCondition = true) (rest : Expr) :
    Joined (.binary condition .and rest) condition (BinaryOperator.and.lexeme :: rest.lexemes)

theorem exists_joined (expr : Expr) (h : expr.isConjunctive = true) :
    ∃ chain condition rest, Linked Reassociates expr chain ∧ chain.isConjunctive = true ∧
      Joined chain condition rest := by
  by_cases hcondition : expr.isCondition = true
  · exact ⟨expr, expr, [], .refl expr, h, .alone hcondition⟩
  · cases expr with
    | binary left operator right =>
        cases operator with
        | and =>
            rw [isConjunctive, Bool.and_eq_true] at h
            rcases exists_joined left h.1 with ⟨chain, condition, rest, hlinked, hchain, hjoined⟩
            have hleft : Linked Reassociates (.binary left .and right) (.binary chain .and right) :=
              .binary .and hlinked (.refl right)
            cases hjoined with
            | alone halone =>
                exact ⟨_, _, _, hleft, by rw [isConjunctive, hchain, h.2]; rfl, .and halone right⟩
            | and halone more =>
                rw [isConjunctive, Bool.and_eq_true] at hchain
                refine ⟨_, _, _, hleft.trans (.step (.conjunction _ _ _)), ?_, .and halone _⟩
                rw [isConjunctive, isConjunctive, hchain.1, hchain.2, h.2]
                rfl
        | _ => exact absurd rfl hcondition
    | _ => exact absurd rfl hcondition

theorem Joined.lexemes_eq {expr condition : Expr} {rest : List Lexeme}
    (h : Joined expr condition rest) : expr.lexemes = condition.lexemes ++ rest := by
  cases h with
  | alone => rw [List.append_nil]
  | and => rfl

theorem Joined.joins {expr condition : Expr} {rest : List Lexeme} (h : Joined expr condition rest) :
    Joins rest := by
  intro next hnext
  cases h with
  | alone => cases hnext
  | and =>
      cases hnext
      rfl

theorem Joined.condition {expr condition : Expr} {rest : List Lexeme}
    (h : Joined expr condition rest) (hexpr : Conjunctive expr) :
    condition.isCondition = true ∧ Conjunctive condition := by
  cases h with
  | alone h => exact ⟨h, hexpr⟩
  | and h rest => exact ⟨h, hexpr.and.1⟩

/-- Conditions with the same lexemes that compare operands differ in how the `AND`s between them are
grouped. -/
theorem linked_of_conjunctive {expr other : Expr} (hexpr : Conjunctive expr)
    (hother : Conjunctive other) (h : expr.lexemes = other.lexemes) :
    Linked Reassociates expr other := by
  have hshorter : ∀ {part part' : Expr}, part.lexemes.length < expr.lexemes.length →
      Conjunctive part → Conjunctive part' → part.lexemes = part'.lexemes →
        Linked Reassociates part part' :=
    fun _ hpart hpart' hsame => linked_of_conjunctive hpart hpart' hsame
  rcases expr.exists_joined hexpr.conjunctive with
    ⟨chain, condition, rest, hlinked, hchain, hjoined⟩
  rcases other.exists_joined hother.conjunctive with
    ⟨chain', condition', rest', hlinked', hchain', hjoined'⟩
  have hregrouped := hlinked.mono Reassociates.regroups
  have hregrouped' := hlinked'.mono Reassociates.regroups
  have hclear : Conjunctive chain := ⟨hregrouped.isClear_eq ▸ hexpr.clear, hchain⟩
  have hclear' : Conjunctive chain' := ⟨hregrouped'.isClear_eq ▸ hother.clear, hchain'⟩
  have hlexemes : expr.lexemes = condition.lexemes ++ rest := by
    rw [hregrouped.lexemes_eq hexpr.clear, hjoined.lexemes_eq]
  have hsame : condition.lexemes ++ rest = condition'.lexemes ++ rest' := by
    rw [← hlexemes, h, hregrouped'.lexemes_eq hother.clear, hjoined'.lexemes_eq]
  have hlength := congrArg List.length hlexemes
  rw [List.length_append] at hlength
  rcases condition_append_inj (hjoined.condition hclear).2 (hjoined'.condition hclear').2
    (hjoined.condition hclear).1 (hjoined'.condition hclear').1 hjoined.joins hjoined'.joins
    (fun hlt => hshorter (by omega)) hsame with ⟨hfirst, hrest⟩
  refine hlinked.trans (.trans ?_ hlinked'.symm)
  cases hjoined with
  | alone _ =>
      cases hjoined' with
      | alone _ => exact hfirst
      | and _ more => cases hrest
  | and _ more =>
      cases hjoined' with
      | alone _ => cases hrest
      | and _ more' =>
          rw [List.length_cons] at hlength
          exact .binary .and hfirst (hshorter (by omega) hclear.and.2 hclear'.and.2
            (List.cons.inj hrest).2)
termination_by expr.lexemes.length

/-- The text of an expression says what it is made of, but not how it is grouped. Two expressions
have one text just if one can be regrouped into the other. If comparisons and ranges have operands
only, it says the whole expression but for how the `AND`s between conditions are grouped. -/
theorem render_eq_iff_linked {expr other : Expr} (hexpr : expr.isClear = true)
    (hother : other.isClear = true) :
    (expr.render = other.render ↔ Linked Regroups expr other) ∧
      (expr.isConjunctive = true → other.isConjunctive = true →
        (expr.render = other.render ↔ Linked Reassociates expr other)) := by
  constructor
  · constructor
    · intro h
      exact linked_of_lexemes_eq hexpr hother (lexemes_eq_of_render_eq hexpr hother h)
    · intro h
      exact h.render_eq
  · intro hconjunctive hconjunctive'
    constructor
    · intro h
      exact linked_of_conjunctive ⟨hexpr, hconjunctive⟩ ⟨hother, hconjunctive'⟩
        (lexemes_eq_of_render_eq hexpr hother h)
    · intro h
      exact (h.mono Reassociates.regroups).render_eq

/-- Three conditions, grouped from the left. One of them is a range, and it starts with a call whose
argument is made of three conditions again. -/
def leftGrouped : Expr :=
  .binary
    (.binary (.binary (.column "AND") .like (.string "' AND '")) .and
      (.between (.call "f" [.binary (.binary (.boolean true) .and (.column "b")) .and .countAll])
        (.number ⟨true, 50000, 5, by decide, by decide⟩) (.call "g" [])))
    .and (.binary (.column "BETWEEN") .le (.column "c"))

def rightGrouped : Expr :=
  .binary (.binary (.column "AND") .like (.string "' AND '")) .and
    (.binary
      (.between (.call "f" [.binary (.boolean true) .and (.binary (.column "b") .and .countAll)])
        (.number ⟨true, 50000, 5, by decide, by decide⟩) (.call "g" []))
      .and (.binary (.column "BETWEEN") .le (.column "c")))

theorem render_eq_iff_linked_nested :
    leftGrouped.render =
        "AND LIKE ''' AND ''' AND f(true AND b AND COUNT(*)) BETWEEN -0.50000 AND g() " ++
          "AND BETWEEN <= c" ∧
      Linked Reassociates leftGrouped rightGrouped := by
  have hrender : leftGrouped.render = rightGrouped.render := by decide +kernel
  have hiff := (render_eq_iff_linked (by decide +kernel : leftGrouped.isClear = true)
    (by decide +kernel : rightGrouped.isClear = true)).2 (by decide +kernel) (by decide +kernel)
  exact ⟨by decide +kernel, hiff.mp hrender⟩

def leftDepth : Expr → Nat
  | binary left .and right => max left.leftDepth right.leftDepth
  | binary left _ right => max (left.leftDepth + 1) right.leftDepth
  | _ => 0

theorem compositional_leftDepth : Compositional leftDepth where
  binary operator hleft hright := by
    cases operator <;> simp only [leftDepth, hleft, hright]
  between _ _ _ := rfl
  argument _ _ _ _ := rfl

def comparedLeft : Expr :=
  .binary (.binary (.column "a") .eq (.column "b")) .eq (.column "c")

def comparedRight : Expr :=
  .binary (.column "a") .eq (.binary (.column "b") .eq (.column "c"))

/-- The text does not say how comparisons are grouped, although no conditions are joined here. -/
theorem render_comparedLeft_eq_comparedRight :
    comparedLeft.isClear = true ∧ comparedRight.isClear = true ∧
      comparedLeft.render = comparedRight.render ∧
      ¬ Linked Reassociates comparedLeft comparedRight := by
  refine ⟨by decide +kernel, by decide +kernel, by decide +kernel, ?_⟩
  intro h
  have hdepth : comparedLeft.leftDepth = comparedRight.leftDepth := by
    apply h.view_eq compositional_leftDepth
    intro expr other hstep
    cases hstep with
    | conjunction first second third => simp only [leftDepth, Nat.max_assoc]
  exact absurd hdepth (by decide)

end Expr
end Sql
end TableQuery
