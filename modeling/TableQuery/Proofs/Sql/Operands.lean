import Mathlib.Data.List.Forall2
import TableQuery.Proofs.Sql.ReadBack

/-!
# Operands of expressions

The lexemes of an expression say where its operands end, and which operands they are, if names are
told apart from truth values. Calls are known up to the lexemes of their arguments.
-/

namespace TableQuery
namespace Sql
namespace Expr

/-!
## Expressions whose text is clear

An expression is clear if its names are plain and no truth values, and no number in it is a negative
zero. Clear expressions with one text have one list of lexemes.
-/

def isClearName (name : String) : Bool :=
  isPlainName name && name != booleanText true && name != booleanText false

mutual

/-- Whether all names in an expression are plain and no truth values, and no number is a negative
zero. -/
def isClear : Expr → Bool
  | column name => isClearName name
  | string _ => true
  | number value => !(value.negative && value.magnitude == 0)
  | boolean _ => true
  | binary left _ right => left.isClear && right.isClear
  | between operand low high => operand.isClear && low.isClear && high.isClear
  | call function arguments => isClearName function && isClearList arguments
  | countAll => true

def isClearList : List Expr → Bool
  | [] => true
  | expr :: rest => expr.isClear && isClearList rest

end

theorem isClearList_eq_all (exprs : List Expr) : isClearList exprs = exprs.all isClear := by
  induction exprs with
  | nil => rfl
  | cons expr exprs ih => rw [isClearList, ih, List.all_cons]

theorem isPlainName_of_isClearName {name : String} (h : isClearName name = true) :
    isPlainName name = true := by
  simp only [isClearName, Bool.and_eq_true] at h
  exact h.1.1

theorem ne_booleanText_of_isClearName {name : String} (h : isClearName name = true) (value : Bool) :
    name ≠ booleanText value := by
  simp only [isClearName, Bool.and_eq_true, bne_iff_ne] at h
  cases value with
  | true => exact h.1.2
  | false => exact h.2

mutual

theorem isPlain_of_isClear (expr : Expr) (h : expr.isClear = true) : expr.isPlain = true := by
  cases expr with
  | column name => exact isPlainName_of_isClearName h
  | binary left operator right =>
      simp only [isClear, Bool.and_eq_true] at h
      rw [isPlain, isPlain_of_isClear left h.1, isPlain_of_isClear right h.2]
      rfl
  | between operand low high =>
      simp only [isClear, Bool.and_eq_true] at h
      rw [isPlain, isPlain_of_isClear operand h.1.1, isPlain_of_isClear low h.1.2,
        isPlain_of_isClear high h.2]
      rfl
  | call function arguments =>
      simp only [isClear, Bool.and_eq_true] at h
      rw [isPlain, isPlainName_of_isClearName h.1, isPlainList_of_isClearList arguments h.2]
      rfl
  | _ => rfl

theorem isPlainList_of_isClearList (exprs : List Expr) (h : isClearList exprs = true) :
    isPlainList exprs = true := by
  cases exprs with
  | nil => rfl
  | cons expr exprs =>
      simp only [isClearList, Bool.and_eq_true] at h
      rw [isPlainList, isPlain_of_isClear expr h.1, isPlainList_of_isClearList exprs h.2]
      rfl

end

theorem lexemes_eq_of_render_eq {expr other : Expr} (hexpr : expr.isClear = true)
    (hother : other.isClear = true) (h : expr.render = other.render) :
    expr.lexemes = other.lexemes := by
  have hleft := expr.lexes_render (expr.isPlain_of_isClear hexpr) [] stops_nil
  have hright := other.lexes_render (other.isPlain_of_isClear hother) [] stops_nil
  rw [h, hright] at hleft
  simpa [lexemes?_nil] using hleft.symm

/-!
## Where operands end

Parentheses in the lexemes of an expression are balanced, and commas stand inside them only. So an
expression ends in front of the first comma or closing parenthesis that stands outside. An operand
is known by its first lexeme, and by whether an opening parenthesis stands behind it.
-/

def isOperand : Expr → Bool
  | binary _ _ _ => false
  | between _ _ _ => false
  | _ => true

/-- The lexemes from the first comma or closing parenthesis on that stands outside of parentheses,
if this many are open. -/
def outside : Nat → List Lexeme → List Lexeme
  | _, [] => []
  | depth, .symbol .openParen :: rest => outside (depth + 1) rest
  | 0, .symbol .closeParen :: rest => .symbol .closeParen :: rest
  | depth + 1, .symbol .closeParen :: rest => outside depth rest
  | 0, .symbol .comma :: rest => .symbol .comma :: rest
  | depth, _ :: rest => outside depth rest

theorem outside_operator (depth : Nat) (operator : BinaryOperator) (rest : List Lexeme) :
    outside depth (operator.lexeme :: rest) = outside depth rest := by
  cases operator <;> simp [BinaryOperator.lexeme, outside]

mutual

theorem outside_lexemes (depth : Nat) (expr : Expr) (rest : List Lexeme) :
    outside depth (expr.lexemes ++ rest) = outside depth rest := by
  cases expr with
  | column name => simp [lexemes, outside]
  | string content => simp [lexemes, outside]
  | number value => simp [lexemes, outside]
  | boolean value => simp [lexemes, outside]
  | binary left operator right =>
      rw [lexemes, List.append_assoc, outside_lexemes, List.cons_append, outside_operator,
        outside_lexemes]
  | between operand low high =>
      simp only [lexemes, List.append_assoc, List.cons_append]
      rw [outside_lexemes, outside, outside_lexemes, outside, outside_lexemes]
      all_goals simp
  | call function arguments =>
      simp only [lexemes, List.append_assoc, List.cons_append]
      rw [outside, outside, outside_lexemesList]
      · simp [outside]
      all_goals simp
  | countAll => simp [lexemes, outside]

theorem outside_lexemesList (depth : Nat) (exprs : List Expr) (rest : List Lexeme) :
    outside (depth + 1) (lexemesList exprs ++ rest) = outside (depth + 1) rest := by
  cases exprs with
  | nil => rfl
  | cons expr exprs =>
      rw [lexemesList, List.append_assoc, outside_lexemes, outside_lexemesMore]

theorem outside_lexemesMore (depth : Nat) (exprs : List Expr) (rest : List Lexeme) :
    outside (depth + 1) (lexemesMore exprs ++ rest) = outside (depth + 1) rest := by
  cases exprs with
  | nil => rfl
  | cons expr exprs =>
      rw [lexemesMore, List.cons_append, outside, List.append_assoc, outside_lexemes,
        outside_lexemesMore]
      all_goals simp

end

def Separates (lexemes : List Lexeme) : Prop :=
  ∀ next ∈ lexemes.head?, next = .symbol .comma ∨ next = .symbol .closeParen

theorem outside_of_separates {rest : List Lexeme} (h : Separates rest) : outside 0 rest = rest := by
  cases rest with
  | nil => rfl
  | cons next rest => rcases h next rfl with rfl | rfl <;> rfl

theorem separates_closeParen {rest : List Lexeme} : Separates (.symbol .closeParen :: rest) := by
  intro next hnext
  cases hnext
  exact Or.inr rfl

theorem separates_lexemesMore (exprs : List Expr) {rest : List Lexeme} (h : Separates rest) :
    Separates (lexemesMore exprs ++ rest) := by
  cases exprs with
  | nil => exact h
  | cons expr exprs =>
      intro next hnext
      cases hnext
      exact Or.inl rfl

theorem lexemes_append_inj {expr other : Expr} {rest rest' : List Lexeme} (hrest : Separates rest)
    (hrest' : Separates rest') (h : expr.lexemes ++ rest = other.lexemes ++ rest') :
    expr.lexemes = other.lexemes ∧ rest = rest' := by
  have hsame : rest = rest' := by
    have houtside := congrArg (outside 0) h
    rwa [outside_lexemes, outside_lexemes, outside_of_separates hrest,
      outside_of_separates hrest'] at houtside
  subst hsame
  exact ⟨List.append_cancel_right h, rfl⟩

theorem exists_lexemes_eq_cons (expr : Expr) :
    ∃ first rest, expr.lexemes = first :: rest ∧ ∀ symbol, first ≠ .symbol symbol := by
  cases expr with
  | binary left operator right =>
      rcases exists_lexemes_eq_cons left with ⟨first, rest, hlexemes, hfirst⟩
      exact ⟨first, _, by rw [lexemes, hlexemes, List.cons_append], hfirst⟩
  | between operand low high =>
      rcases exists_lexemes_eq_cons operand with ⟨first, rest, hlexemes, hfirst⟩
      exact ⟨first, _, by rw [lexemes, hlexemes, List.cons_append], hfirst⟩
  | _ => exact ⟨_, _, rfl, by simp⟩

theorem lexemesMore_append_inj {exprs others : List Expr} {rest rest' : List Lexeme}
    (h : lexemesMore exprs ++ .symbol .closeParen :: rest =
      lexemesMore others ++ .symbol .closeParen :: rest') :
    List.Forall₂ (fun expr other => expr.lexemes = other.lexemes) exprs others ∧ rest = rest' := by
  induction exprs generalizing others with
  | nil =>
      cases others with
      | nil => exact ⟨.nil, (List.cons.inj h).2⟩
      | cons other others => cases (List.cons.inj h).1
  | cons expr exprs ih =>
      cases others with
      | nil => cases (List.cons.inj h).1
      | cons other others =>
          simp only [lexemesMore, List.cons_append, List.append_assoc, List.cons.injEq,
            true_and] at h
          rcases lexemes_append_inj (separates_lexemesMore exprs separates_closeParen)
            (separates_lexemesMore others separates_closeParen) h with ⟨hfirst, hmore⟩
          rcases ih hmore with ⟨hall, hrest⟩
          exact ⟨.cons hfirst hall, hrest⟩

theorem lexemesList_append_inj {exprs others : List Expr} {rest rest' : List Lexeme}
    (h : lexemesList exprs ++ .symbol .closeParen :: rest =
      lexemesList others ++ .symbol .closeParen :: rest') :
    List.Forall₂ (fun expr other => expr.lexemes = other.lexemes) exprs others ∧ rest = rest' := by
  cases exprs with
  | nil =>
      cases others with
      | nil => exact ⟨.nil, (List.cons.inj h).2⟩
      | cons other others =>
          rcases other.exists_lexemes_eq_cons with ⟨first, _, hlexemes, hfirst⟩
          rw [lexemesList, lexemesList, hlexemes] at h
          exact absurd (List.cons.inj h).1.symm (hfirst _)
  | cons expr exprs =>
      cases others with
      | nil =>
          rcases expr.exists_lexemes_eq_cons with ⟨first, _, hlexemes, hfirst⟩
          rw [lexemesList, lexemesList, hlexemes] at h
          exact absurd (List.cons.inj h).1 (hfirst _)
      | cons other others =>
          rw [lexemesList, lexemesList, List.append_assoc, List.append_assoc] at h
          rcases lexemes_append_inj (separates_lexemesMore exprs separates_closeParen)
            (separates_lexemesMore others separates_closeParen) h with ⟨hfirst, hmore⟩
          rcases lexemesMore_append_inj hmore with ⟨hall, hrest⟩
          exact ⟨.cons hfirst hall, hrest⟩

/-- Operands that are the same, or calls of one function whose arguments have the same lexemes. -/
inductive Matches : Expr → Expr → Prop where
  | refl (operand : Expr) : Matches operand operand
  | call (function : String) {exprs others : List Expr}
    (h : List.Forall₂ (fun expr other => expr.lexemes = other.lexemes) exprs others) :
    Matches (.call function exprs) (.call function others)

def lexeme? : Expr → Option Lexeme
  | column name => some (.word name)
  | string content => some (.text content)
  | number value => some (.number value)
  | boolean value => some (.word (booleanText value))
  | _ => none

theorem lexemes_of_lexeme? {operand : Expr} {lexeme : Lexeme} (h : operand.lexeme? = some lexeme) :
    operand.lexemes = [lexeme] := by
  cases operand <;> cases h <;> rfl

def ofLexeme? : Lexeme → Option Expr
  | .word name =>
    if name = booleanText true then some (boolean true)
    else if name = booleanText false then some (boolean false)
    else some (column name)
  | .text content => some (string content)
  | .number value => some (number value)
  | .symbol _ => none

theorem ofLexeme?_of_lexeme? {operand : Expr} {lexeme : Lexeme} (hclear : operand.isClear = true)
    (h : operand.lexeme? = some lexeme) : ofLexeme? lexeme = some operand := by
  cases operand with
  | column name =>
      cases h
      rw [ofLexeme?, if_neg (ne_booleanText_of_isClearName hclear true),
        if_neg (ne_booleanText_of_isClearName hclear false)]
  | boolean value =>
      cases h
      cases value <;> rfl
  | _ => cases h <;> rfl

theorem eq_call_or_countAll {operand : Expr} (hoperand : operand.isOperand = true)
    (h : operand.lexeme? = none) :
    (∃ function exprs, operand = .call function exprs) ∨ operand = .countAll := by
  cases operand with
  | call function exprs => exact Or.inl ⟨function, exprs, rfl⟩
  | countAll => exact Or.inr rfl
  | binary left operator right => cases hoperand
  | between operand low high => cases hoperand
  | _ => cases h

theorem exists_openParen {operand : Expr} (hoperand : operand.isOperand = true)
    (h : operand.lexeme? = none) :
    ∃ function rest, operand.lexemes = .word function :: .symbol .openParen :: rest := by
  rcases eq_call_or_countAll hoperand h with ⟨function, exprs, rfl⟩ | rfl
  · exact ⟨_, _, rfl⟩
  · exact ⟨_, _, rfl⟩

theorem openParen_cons_ne {lexeme : Lexeme} {function : String} {rest more : List Lexeme}
    (hrest : Closed rest) : lexeme :: rest ≠ .word function :: .symbol .openParen :: more := by
  intro h
  rw [(List.cons.inj h).2] at hrest
  exact hrest _ rfl rfl

theorem call_append_inj {operand other : Expr} {rest rest' : List Lexeme}
    (hoperand : operand.isOperand = true) (hother : other.isOperand = true)
    (hcall : operand.lexeme? = none) (hcall' : other.lexeme? = none)
    (h : operand.lexemes ++ rest = other.lexemes ++ rest') :
    Matches operand other ∧ rest = rest' := by
  -- The arguments of a call do not start with a star.
  have hstar : ∀ (exprs : List Expr) (rest rest' : List Lexeme),
      lexemesList exprs ++ .symbol .closeParen :: rest ≠ .symbol .star :: rest' := by
    intro exprs rest rest' h
    cases exprs with
    | nil => cases (List.cons.inj h).1
    | cons expr exprs =>
        rcases expr.exists_lexemes_eq_cons with ⟨first, _, hlexemes, hfirst⟩
        rw [lexemesList, hlexemes] at h
        exact hfirst _ (List.cons.inj h).1
  rcases eq_call_or_countAll hoperand hcall with ⟨function, exprs, rfl⟩ | rfl
  · rcases eq_call_or_countAll hother hcall' with ⟨function', others, rfl⟩ | rfl
    · simp only [lexemes, List.cons_append, List.append_assoc, List.nil_append, List.cons.injEq,
        Lexeme.word.injEq, true_and] at h
      rcases h with ⟨rfl, harguments⟩
      rcases lexemesList_append_inj harguments with ⟨hall, hrest⟩
      exact ⟨.call function hall, hrest⟩
    · simp only [lexemes, List.cons_append, List.append_assoc, List.nil_append, List.cons.injEq,
        true_and] at h
      exact absurd h.2 (hstar exprs rest _)
  · rcases eq_call_or_countAll hother hcall' with ⟨function', others, rfl⟩ | rfl
    · simp only [lexemes, List.cons_append, List.append_assoc, List.nil_append, List.cons.injEq,
        true_and] at h
      exact absurd h.2.symm (hstar others rest' _)
    · exact ⟨.refl _, List.append_cancel_left h⟩

theorem operand_append_inj {operand other : Expr} {rest rest' : List Lexeme}
    (hoperand : operand.isOperand = true) (hother : other.isOperand = true)
    (hclear : operand.isClear = true) (hclear' : other.isClear = true) (hrest : Closed rest)
    (hrest' : Closed rest') (h : operand.lexemes ++ rest = other.lexemes ++ rest') :
    Matches operand other ∧ rest = rest' := by
  cases hsingle : operand.lexeme? with
  | none =>
      cases hsingle' : other.lexeme? with
      | none => exact call_append_inj hoperand hother hsingle hsingle' h
      | some lexeme =>
          rcases exists_openParen hoperand hsingle with ⟨function, more, hcall⟩
          rw [lexemes_of_lexeme? hsingle', hcall] at h
          exact absurd h.symm (openParen_cons_ne hrest')
  | some lexeme =>
      cases hsingle' : other.lexeme? with
      | none =>
          rcases exists_openParen hother hsingle' with ⟨function, more, hcall⟩
          rw [lexemes_of_lexeme? hsingle, hcall] at h
          exact absurd h (openParen_cons_ne hrest)
      | some lexeme' =>
          rw [lexemes_of_lexeme? hsingle, lexemes_of_lexeme? hsingle'] at h
          rcases List.cons.inj h with ⟨rfl, hsame⟩
          have hread := ofLexeme?_of_lexeme? hclear hsingle
          rw [ofLexeme?_of_lexeme? hclear' hsingle'] at hread
          cases hread
          exact ⟨.refl _, hsame⟩

end Expr
end Sql
end TableQuery
