import TableQuery.Proofs.Sql.Operands

/-!
# Grouping of expressions

Expressions are written without parentheses around their operators. So the text of an expression
says which operands it has and which operators stand between them, but not how they are grouped: two
expressions have one text just if each can be regrouped into the other.

The first operand can always be brought to the front, and operands with the same lexemes are the
same, but for the grouping inside the arguments of calls.
-/

namespace TableQuery
namespace Sql
namespace Expr

/-!
## Regrouping

Steps of some kind can be taken at any place inside an expression. What they do not change there,
they do not change in the whole expression.
-/

/-- Expressions that come from each other by steps of some kind, at any places inside them. -/
inductive Linked (step : Expr → Expr → Prop) : Expr → Expr → Prop where
  | step {expr other : Expr} (h : step expr other) : Linked step expr other
  | refl (expr : Expr) : Linked step expr expr
  | symm {expr other : Expr} (h : Linked step expr other) : Linked step other expr
  | trans {first second third : Expr} (h : Linked step first second)
    (h' : Linked step second third) : Linked step first third
  | binary {left left' right right' : Expr} (operator : BinaryOperator)
    (hleft : Linked step left left') (hright : Linked step right right') :
    Linked step (.binary left operator right) (.binary left' operator right')
  | between {operand operand' low low' high high' : Expr} (hoperand : Linked step operand operand')
    (hlow : Linked step low low') (hhigh : Linked step high high') :
    Linked step (.between operand low high) (.between operand' low' high')
  | argument {expr other : Expr} (function : String) (before after : List Expr)
    (h : Linked step expr other) :
    Linked step (.call function (before ++ expr :: after))
      (.call function (before ++ other :: after))

/-- Three conditions that must all hold, grouped from the left and from the right. -/
inductive Reassociates : Expr → Expr → Prop where
  | conjunction (first second third : Expr) :
    Reassociates (.binary (.binary first .and second) .and third)
      (.binary first .and (.binary second .and third))

/-- Two operators that stand one behind the other, grouped from the left and from the right. A range
is an operator too, and between its bounds it has an `AND` like that of conditions. -/
inductive Regroups : Expr → Expr → Prop where
  | operators (first second third : Expr) (operator operator' : BinaryOperator) :
    Regroups (.binary (.binary first operator second) operator' third)
      (.binary first operator (.binary second operator' third))
  | behindRange (operand low high last : Expr) (operator : BinaryOperator) :
    Regroups (.binary (.between operand low high) operator last)
      (.between operand low (.binary high operator last))
  | beforeRange (first operand low high : Expr) (operator : BinaryOperator) :
    Regroups (.between (.binary first operator operand) low high)
      (.binary first operator (.between operand low high))
  | ranges (operand low middle low' high : Expr) :
    Regroups (.between (.between operand low middle) low' high)
      (.between operand low (.between middle low' high))
  | bounds (operand low middle high : Expr) :
    Regroups (.between operand (.binary low .and middle) high)
      (.between operand low (.binary middle .and high))

/-- A view of expressions that is put together from views of their parts. -/
structure Compositional {α : Type} (view : Expr → α) : Prop where
  binary : ∀ {left left' right right' : Expr} (operator : BinaryOperator),
    view left = view left' → view right = view right' →
      view (.binary left operator right) = view (.binary left' operator right')
  between : ∀ {operand operand' low low' high high' : Expr},
    view operand = view operand' → view low = view low' → view high = view high' →
      view (.between operand low high) = view (.between operand' low' high')
  argument : ∀ {expr other : Expr} (function : String) (before after : List Expr),
    view expr = view other →
      view (.call function (before ++ expr :: after)) =
        view (.call function (before ++ other :: after))

namespace Linked

variable {step : Expr → Expr → Prop}

instance : Trans (Linked step) (Linked step) (Linked step) :=
  ⟨.trans⟩

theorem view_eq {α : Type} {view : Expr → α} (hview : Compositional view)
    (hstep : ∀ {expr other : Expr}, step expr other → view expr = view other) {expr other : Expr}
    (h : Linked step expr other) : view expr = view other := by
  induction h with
  | step h => exact hstep h
  | refl expr => rfl
  | symm _ ih => exact ih.symm
  | trans _ _ ih ih' => exact ih.trans ih'
  | binary operator _ _ ihleft ihright => exact hview.binary operator ihleft ihright
  | between _ _ _ ihoperand ihlow ihhigh => exact hview.between ihoperand ihlow ihhigh
  | argument function before after _ ih => exact hview.argument function before after ih

theorem mono {step' : Expr → Expr → Prop}
    (hstep : ∀ {expr other : Expr}, step expr other → step' expr other) {expr other : Expr}
    (h : Linked step expr other) : Linked step' expr other := by
  induction h with
  | step h => exact .step (hstep h)
  | refl expr => exact .refl expr
  | symm _ ih => exact .symm ih
  | trans _ _ ih ih' => exact .trans ih ih'
  | binary operator _ _ ihleft ihright => exact .binary operator ihleft ihright
  | between _ _ _ ihoperand ihlow ihhigh => exact .between ihoperand ihlow ihhigh
  | argument function before after _ ih => exact .argument function before after ih

theorem call (function : String) {exprs others : List Expr}
    (h : List.Forall₂ (Linked step) exprs others) :
    Linked step (.call function exprs) (.call function others) := by
  -- The arguments are exchanged from the first to the last one.
  suffices hbehind : ∀ before : List Expr,
      Linked step (.call function (before ++ exprs)) (.call function (before ++ others)) from
    hbehind []
  induction h with
  | nil => exact fun before => .refl _
  | @cons expr other exprs others hexpr _ ih =>
      intro before
      refine .trans (.argument function before exprs hexpr) ?_
      have hrest := ih (before ++ [other])
      rwa [List.append_assoc, List.append_assoc] at hrest

end Linked

theorem renderMore_append (before after : List Expr) :
    renderMore (before ++ after) = renderMore before ++ renderMore after := by
  induction before with
  | nil => rw [List.nil_append, renderMore, String.empty_append]
  | cons expr before ih =>
      rw [List.cons_append, renderMore, renderMore, ih, String.append_assoc, String.append_assoc,
        String.append_assoc]

theorem renderList_congr {expr other : Expr} (before after : List Expr)
    (h : expr.render = other.render) :
    renderList (before ++ expr :: after) = renderList (before ++ other :: after) := by
  cases before with
  | nil => rw [List.nil_append, List.nil_append, renderList, renderList, h]
  | cons first before =>
      rw [List.cons_append, List.cons_append, renderList, renderList, renderMore_append,
        renderMore_append, renderMore, renderMore, h]

theorem compositional_render : Compositional render where
  binary operator hleft hright := by rw [render, render, hleft, hright]
  between hoperand hlow hhigh := by rw [render, render, hoperand, hlow, hhigh]
  argument function before after h := by rw [render, render, renderList_congr before after h]

theorem compositional_isClear : Compositional isClear where
  binary operator hleft hright := by rw [isClear, isClear, hleft, hright]
  between hoperand hlow hhigh := by rw [isClear, isClear, hoperand, hlow, hhigh]
  argument function before after h := by
    simp only [isClear, isClearList_eq_all, List.all_append, List.all_cons, h]

theorem Regroups.render_eq {expr other : Expr} (h : Regroups expr other) :
    expr.render = other.render := by
  have hand : " AND " = " " ++ BinaryOperator.and.sql ++ " " := by decide
  cases h <;> simp only [render, hand, String.append_assoc]

theorem Regroups.isClear_eq {expr other : Expr} (h : Regroups expr other) :
    expr.isClear = other.isClear := by
  cases h <;> simp only [isClear, Bool.and_assoc]

theorem Reassociates.regroups {expr other : Expr} (h : Reassociates expr other) :
    Regroups expr other := by
  cases h with
  | conjunction first second third => exact .operators first second third .and .and

theorem Linked.render_eq {expr other : Expr} (h : Linked Regroups expr other) :
    expr.render = other.render :=
  h.view_eq compositional_render Regroups.render_eq

theorem Linked.isClear_eq {expr other : Expr} (h : Linked Regroups expr other) :
    expr.isClear = other.isClear :=
  h.view_eq compositional_isClear Regroups.isClear_eq

/-!
## The first operand

By regrouping from the left to the right, the first operand comes to the front of an expression.
What stands behind it is an operator and an expression again. Behind the word of a range stand both
bounds with an `AND` between them, which are the lexemes of an expression as well.
-/

/-- An expression starts with an operand, and these lexemes stand behind it. -/
inductive Led : Expr → Expr → List Lexeme → Prop where
  | operand {operand : Expr} (h : operand.isOperand = true) : Led operand operand []
  | operator {operand : Expr} (h : operand.isOperand = true) (operator : BinaryOperator)
    (right : Expr) :
    Led (.binary operand operator right) operand (operator.lexeme :: right.lexemes)
  | range {operand : Expr} (h : operand.isOperand = true) (low high : Expr) :
    Led (.between operand low high) operand (.word "BETWEEN" :: (Expr.binary low .and high).lexemes)

theorem exists_led (expr : Expr) :
    ∃ led operand rest, Linked Regroups expr led ∧ Led led operand rest := by
  cases expr with
  | binary left operator right =>
      rcases exists_led left with ⟨led, operand, rest, hlinked, hled⟩
      have hleft : Linked Regroups (.binary left operator right) (.binary led operator right) :=
        .binary operator hlinked (.refl right)
      cases hled with
      | operand h => exact ⟨_, _, _, hleft, .operator h operator right⟩
      | operator h first second =>
          exact ⟨_, _, _, hleft.trans (.step (.operators _ _ _ _ _)), .operator h first _⟩
      | range h low high =>
          exact ⟨_, _, _, hleft.trans (.step (.behindRange _ _ _ _ _)), .range h low _⟩
  | between middle low high =>
      rcases exists_led middle with ⟨led, operand, rest, hlinked, hled⟩
      have hmiddle : Linked Regroups (.between middle low high) (.between led low high) :=
        .between hlinked (.refl low) (.refl high)
      cases hled with
      | operand h => exact ⟨_, _, _, hmiddle, .range h low high⟩
      | operator h first second =>
          exact ⟨_, _, _, hmiddle.trans (.step (.beforeRange _ _ _ _ _)), .operator h first _⟩
      | range h low' high' =>
          exact ⟨_, _, _, hmiddle.trans (.step (.ranges _ _ _ _ _)), .range h low' _⟩
  | _ => exact ⟨_, _, _, .refl _, .operand rfl⟩

theorem closed_nil : Closed [] := by
  intro next hnext
  cases hnext

theorem closed_operator (operator : BinaryOperator) (rest : List Lexeme) :
    Closed (operator.lexeme :: rest) := by
  intro next hnext
  cases hnext
  cases operator <;> simp [BinaryOperator.lexeme]

namespace Led

variable {expr operand : Expr} {rest : List Lexeme}

theorem lexemes_eq (h : Led expr operand rest) : expr.lexemes = operand.lexemes ++ rest := by
  cases h with
  | operand h => rw [List.append_nil]
  | operator h operator right => rfl
  | range h low high => rfl

theorem isOperand (h : Led expr operand rest) : operand.isOperand = true := by
  cases h with
  | operand h => exact h
  | operator h operator right => exact h
  | range h low high => exact h

theorem isClear (h : Led expr operand rest) (hclear : expr.isClear = true) :
    operand.isClear = true := by
  cases h with
  | operand h => exact hclear
  | operator h operator right =>
      simp only [Expr.isClear, Bool.and_eq_true] at hclear
      exact hclear.1
  | range h low high =>
      simp only [Expr.isClear, Bool.and_eq_true] at hclear
      exact hclear.1.1

theorem rest_cases (h : Led expr operand rest) (hclear : expr.isClear = true) :
    rest = [] ∨
      ∃ (next : Lexeme) (back : Expr), rest = next :: back.lexemes ∧ back.isClear = true := by
  cases h with
  | operand h => exact Or.inl rfl
  | operator h operator right =>
      simp only [Expr.isClear, Bool.and_eq_true] at hclear
      exact Or.inr ⟨_, right, rfl, hclear.2⟩
  | range h low high =>
      simp only [Expr.isClear, Bool.and_eq_true] at hclear
      refine Or.inr ⟨_, .binary low .and high, rfl, ?_⟩
      rw [Expr.isClear, hclear.1.2, hclear.2]
      rfl

theorem closed_append (h : Led expr operand rest) {more : List Lexeme} (hmore : Closed more) :
    Closed (rest ++ more) := by
  cases h with
  | operand h => exact hmore
  | operator h operator right => exact closed_operator operator _
  | range h low high => exact closed_word "BETWEEN" _

theorem append_inj {other operand' : Expr} {rest' more more' : List Lexeme}
    (h : Led expr operand rest) (h' : Led other operand' rest') (hclear : expr.isClear = true)
    (hclear' : other.isClear = true) (hmore : Closed more) (hmore' : Closed more')
    (hsame : expr.lexemes ++ more = other.lexemes ++ more') :
    Matches operand operand' ∧ rest ++ more = rest' ++ more' := by
  rw [h.lexemes_eq, h'.lexemes_eq, List.append_assoc, List.append_assoc] at hsame
  exact operand_append_inj h.isOperand h'.isOperand (h.isClear hclear) (h'.isClear hclear')
    (h.closed_append hmore) (h'.closed_append hmore') hsame

end Led

end Expr

theorem BinaryOperator.lexeme_inj {operator operator' : BinaryOperator}
    (h : operator.lexeme = operator'.lexeme) : operator = operator' := by
  revert h
  cases operator <;> cases operator' <;> decide

theorem BinaryOperator.lexeme_ne_between (operator : BinaryOperator) :
    operator.lexeme ≠ .word "BETWEEN" := by
  cases operator <;> decide

namespace Expr

theorem Linked.lexemes_eq {expr other : Expr} (h : Linked Regroups expr other)
    (hclear : expr.isClear = true) : expr.lexemes = other.lexemes :=
  lexemes_eq_of_render_eq hclear (h.isClear_eq ▸ hclear) h.render_eq

theorem exists_behind {expr front : Expr} (hexpr : expr.isClear = true)
    (hfront : front.isClear = true) {next : Lexeme} {rest : List Lexeme}
    (hnext : Closed (next :: rest)) (h : expr.lexemes = front.lexemes ++ next :: rest) :
    ∃ back : Expr, back.isClear = true ∧ back.lexemes = rest := by
  rcases expr.exists_led with ⟨led, operand, more, hlinked, hled⟩
  rcases front.exists_led with ⟨led', operand', more', hlinked', hled'⟩
  have hclear : led.isClear = true := hlinked.isClear_eq ▸ hexpr
  have hclear' : led'.isClear = true := hlinked'.isClear_eq ▸ hfront
  have hlexemes : expr.lexemes = led.lexemes := hlinked.lexemes_eq hexpr
  have hmore : more = more' ++ next :: rest := by
    have hsame : led.lexemes ++ [] = led'.lexemes ++ next :: rest := by
      rw [List.append_nil, ← hlexemes, h, hlinked'.lexemes_eq hfront]
    have hbehind := (hled.append_inj hled' hclear hclear' closed_nil hnext hsame).2
    rwa [List.append_nil] at hbehind
  -- The operands in front are taken off together until the front part has come to its end.
  rcases hled.rest_cases hclear with rfl | ⟨first, back, rfl, hback⟩
  · exact absurd hmore.symm (List.append_ne_nil_of_right_ne_nil _ (List.cons_ne_nil _ _))
  · rcases hled'.rest_cases hclear' with rfl | ⟨first', back', rfl, hback'⟩
    · exact ⟨back, hback, (List.cons.inj hmore).2⟩
    · have hshorter : back.lexemes.length < expr.lexemes.length := by
        rw [hlexemes, hled.lexemes_eq]
        simp only [List.length_append, List.length_cons]
        omega
      exact exists_behind hback hback' hnext (List.cons.inj hmore).2
termination_by expr.lexemes.length

/-!
## Expressions with one text

If the lower bound of a range goes on behind that of another one, then with an `AND` that is in the
upper bound of the other one. So ranges with the same lexemes can be regrouped too.
-/

theorem length_le_lexemesMore {expr : Expr} {exprs : List Expr} (h : expr ∈ exprs) :
    expr.lexemes.length ≤ (lexemesMore exprs).length := by
  induction exprs with
  | nil => cases h
  | cons first exprs ih =>
      rw [lexemesMore, List.length_cons, List.length_append]
      rcases List.mem_cons.mp h with rfl | hrest
      · omega
      · have hle := ih hrest
        omega

theorem length_lt_call {expr : Expr} {exprs : List Expr} (function : String) (h : expr ∈ exprs) :
    expr.lexemes.length < (Expr.call function exprs).lexemes.length := by
  have hle : expr.lexemes.length ≤ (lexemesList exprs).length := by
    cases exprs with
    | nil => cases h
    | cons first exprs =>
        rw [lexemesList, List.length_append]
        rcases List.mem_cons.mp h with rfl | hrest
        · omega
        · have hmore := length_le_lexemesMore hrest
          omega
  simp only [lexemes, List.length_cons, List.length_append]
  omega

theorem Matches.linked {step : Expr → Expr → Prop} {p : Expr → Prop} {operand other : Expr}
    (h : Matches operand other)
    (hp : ∀ {function exprs}, p (.call function exprs) → ∀ expr ∈ exprs, p expr)
    (hoperand : p operand) (hother : p other)
    (hshorter : ∀ {expr expr' : Expr}, expr.lexemes.length < operand.lexemes.length →
      p expr → p expr' → expr.lexemes = expr'.lexemes → Linked step expr expr') :
    Linked step operand other := by
  cases h with
  | refl => exact .refl _
  | call function hall =>
      apply Linked.call
      rw [List.forall₂_iff_zip] at hall ⊢
      refine ⟨hall.1, fun {expr expr'} hzip => ?_⟩
      rcases List.of_mem_zip hzip with ⟨hmem, hmem'⟩
      exact hshorter (length_lt_call function hmem) (hp hoperand expr hmem) (hp hother expr' hmem')
        (hall.2 hzip)

theorem isClear_of_mem {function : String} {exprs : List Expr}
    (h : (Expr.call function exprs).isClear = true) : ∀ expr ∈ exprs, expr.isClear = true := by
  simp only [isClear, isClearList_eq_all, Bool.and_eq_true, List.all_eq_true] at h
  exact h.2

section

variable {bound : Nat}
  (hshorter : ∀ {expr other : Expr}, expr.lexemes.length < bound → expr.isClear = true →
    other.isClear = true → expr.lexemes = other.lexemes → Linked Regroups expr other)

include hshorter

theorem linked_bounds_of_append {operand low high low' high' : Expr} (hlow : low.isClear = true)
    (hhigh : high.isClear = true) (hlow' : low'.isClear = true) (hhigh' : high'.isClear = true)
    (hbound : (Expr.binary low' .and high').lexemes.length ≤ bound) {more : List Lexeme}
    (hmore : low'.lexemes = low.lexemes ++ more)
    (h : BinaryOperator.and.lexeme :: high.lexemes =
      more ++ BinaryOperator.and.lexeme :: high'.lexemes) :
    Linked Regroups (.between operand low high) (.between operand low' high') := by
  have hlengths : (Expr.binary low' .and high').lexemes.length =
      low.lexemes.length + 1 + high.lexemes.length := by
    rw [lexemes, hmore, List.append_assoc, ← h, List.length_append, List.length_cons, Nat.add_assoc,
      Nat.add_comm 1]
  cases more with
  | nil =>
      rw [List.append_nil] at hmore
      exact .between (.refl operand) (hshorter (by omega) hlow hlow' hmore.symm)
        (hshorter (by omega) hhigh hhigh' (List.cons.inj h).2)
  | cons first more =>
      rcases List.cons.inj h with ⟨rfl, hrest⟩
      rcases exists_behind hlow' hlow (closed_operator .and more) hmore with ⟨middle, hmiddle, rfl⟩
      have hjoined : (Expr.binary middle .and high').isClear = true := by
        rw [isClear, hmiddle, hhigh']
        rfl
      have hjoined' : (Expr.binary low .and middle).isClear = true := by
        rw [isClear, hlow, hmiddle]
        rfl
      have hupper : Linked Regroups high (.binary middle .and high') :=
        hshorter (by omega) hhigh hjoined hrest
      have hlower : Linked Regroups low' (.binary low .and middle) := by
        refine hshorter ?_ hlow' hjoined' hmore
        rw [lexemes, List.length_append, List.length_cons] at hbound
        omega
      calc
        Linked Regroups (.between operand low high)
            (.between operand low (.binary middle .and high')) :=
          .between (.refl operand) (.refl low) hupper
        Linked Regroups _ (.between operand (.binary low .and middle) high') :=
          .symm (.step (.bounds operand low middle high'))
        Linked Regroups _ (.between operand low' high') :=
          .between (.refl operand) hlower.symm (.refl high')

theorem linked_bounds {operand low high low' high' : Expr} (hlow : low.isClear = true)
    (hhigh : high.isClear = true) (hlow' : low'.isClear = true) (hhigh' : high'.isClear = true)
    (hbound : (Expr.binary low .and high).lexemes.length ≤ bound)
    (h : (Expr.binary low .and high).lexemes = (Expr.binary low' .and high').lexemes) :
    Linked Regroups (.between operand low high) (.between operand low' high') := by
  have hbound' : (Expr.binary low' .and high').lexemes.length ≤ bound := h ▸ hbound
  rw [lexemes, lexemes] at h
  rcases List.append_eq_append_iff.mp h with ⟨more, hmore, hrest⟩ | ⟨more, hmore, hrest⟩
  · exact linked_bounds_of_append hshorter hlow hhigh hlow' hhigh' hbound' hmore hrest
  · exact (linked_bounds_of_append hshorter hlow' hhigh' hlow hhigh hbound hmore hrest).symm

end

theorem linked_of_lexemes_eq {expr other : Expr} (hexpr : expr.isClear = true)
    (hother : other.isClear = true) (h : expr.lexemes = other.lexemes) :
    Linked Regroups expr other := by
  have hshorter : ∀ {part part' : Expr}, part.lexemes.length < expr.lexemes.length →
      part.isClear = true → part'.isClear = true → part.lexemes = part'.lexemes →
        Linked Regroups part part' :=
    fun _ hpart hpart' hsame => linked_of_lexemes_eq hpart hpart' hsame
  rcases expr.exists_led with ⟨led, operand, rest, hlinked, hled⟩
  rcases other.exists_led with ⟨led', operand', rest', hlinked', hled'⟩
  have hclear : led.isClear = true := hlinked.isClear_eq ▸ hexpr
  have hclear' : led'.isClear = true := hlinked'.isClear_eq ▸ hother
  have hlexemes : expr.lexemes = led.lexemes := hlinked.lexemes_eq hexpr
  have hsame : led.lexemes ++ [] = led'.lexemes ++ [] := by
    rw [← hlexemes, h, hlinked'.lexemes_eq hother]
  rcases hled.append_inj hled' hclear hclear' closed_nil closed_nil hsame with ⟨hmatches, hrest⟩
  rw [List.append_nil, List.append_nil] at hrest
  have hlength : expr.lexemes.length = operand.lexemes.length + rest.length := by
    rw [hlexemes, hled.lexemes_eq, List.length_append]
  have hoperand : Linked Regroups operand operand' :=
    hmatches.linked isClear_of_mem (hled.isClear hclear) (hled'.isClear hclear')
      fun hlt => hshorter (by omega)
  refine hlinked.trans (.trans ?_ hlinked'.symm)
  cases hled with
  | operand _ =>
      cases hled' with
      | operand _ => exact hoperand
      | operator _ operator right => cases hrest
      | range _ low high => cases hrest
  | operator _ operator right =>
      cases hled' with
      | operand _ => cases hrest
      | operator _ operator' right' =>
          rcases List.cons.inj hrest with ⟨hoperator, hright⟩
          cases BinaryOperator.lexeme_inj hoperator
          simp only [isClear, Bool.and_eq_true] at hclear hclear'
          rw [List.length_cons] at hlength
          exact .binary operator hoperand (hshorter (by omega) hclear.2 hclear'.2 hright)
      | range _ low high => exact absurd (List.cons.inj hrest).1 operator.lexeme_ne_between
  | range _ low high =>
      cases hled' with
      | operand _ => cases hrest
      | operator _ operator right =>
          exact absurd (List.cons.inj hrest).1.symm operator.lexeme_ne_between
      | range _ low' high' =>
          simp only [isClear, Bool.and_eq_true] at hclear hclear'
          rw [List.length_cons] at hlength
          have hbounds : Linked Regroups (.between operand low high)
              (.between operand low' high') :=
            linked_bounds hshorter hclear.1.2 hclear.2 hclear'.1.2 hclear'.2 (by omega)
              (List.cons.inj hrest).2
          exact hbounds.trans (.between hoperand (.refl low') (.refl high'))
termination_by expr.lexemes.length

end Expr
end Sql
end TableQuery
