import TableQuery.Proofs.Sql.Injection

/-!
# Line breaks

Names, numbers and the words of a statement stand on one line, but the texts in its conditions are
written as they are. So the line breaks of a statement are those of the texts that its plan
compares with.
-/

namespace TableQuery

namespace Text

def isLineBreak (c : Char) : Bool :=
  c == '\n' || c == '\r'

def lineBreaks (text : String) : List Char :=
  text.toList.filter isLineBreak

def IsSingleLine (text : String) : Prop :=
  '\n' ∉ text.toList ∧ '\r' ∉ text.toList

end Text

open Text Outcome

def Scalar.texts : Scalar → List String
  | string content => [content]
  | number _ => []
  | boolean _ => []

/-- The texts that a plan compares with, in the order of its filters. -/
def Plan.texts (plan : Plan) : List String :=
  plan.filters.flatMap fun criterion => criterion.values.flatMap Scalar.texts

/-!
## Pieces of text

Texts in a row have the line breaks of each. A text between apostrophes keeps its line breaks, and
no other lexeme has any.
-/

namespace Text

theorem isLineBreak_iff {c : Char} : isLineBreak c = true ↔ c = '\n' ∨ c = '\r' := by
  simp only [isLineBreak, Bool.or_eq_true, beq_iff_eq]

theorem lineBreaks_append (left right : String) :
    lineBreaks (left ++ right) = lineBreaks left ++ lineBreaks right := by
  rw [lineBreaks, String.toList_append, List.filter_append, lineBreaks, lineBreaks]

theorem lineBreaks_eq_nil_of_forall {text : String}
    (h : ∀ c ∈ text.toList, isLineBreak c = false) : lineBreaks text = [] := by
  refine List.filter_eq_nil_iff.mpr fun c hc => ?_
  rw [h c hc]
  exact Bool.false_ne_true

theorem isSingleLine_iff {text : String} : IsSingleLine text ↔ lineBreaks text = [] := by
  rw [lineBreaks, List.filter_eq_nil_iff]
  constructor
  · intro h c hc hbreak
    rcases isLineBreak_iff.mp hbreak with rfl | rfl
    · exact h.1 hc
    · exact h.2 hc
  · intro h
    exact ⟨fun hc => h _ hc rfl, fun hc => h _ hc rfl⟩

theorem lineBreaks_join {separator : String} (h : lineBreaks separator = [])
    (texts : List String) :
    lineBreaks (Text.join separator texts) = texts.flatMap lineBreaks := by
  induction texts with
  | nil => rfl
  | cons first rest ih =>
      cases rest with
      | nil => rw [Text.join, List.flatMap_singleton]
      | cons second rest =>
          rw [List.flatMap_cons, ← ih, Text.join, lineBreaks_append, lineBreaks_append, h,
            List.append_nil]
          exact List.cons_ne_nil second rest

theorem isLineBreak_eq_false_of_isDigit {c : Char} (h : c.isDigit = true) :
    isLineBreak c = false := by
  refine Bool.eq_false_iff.mpr fun hbreak => ?_
  rcases isLineBreak_iff.mp hbreak with rfl | rfl
  · cases h
  · cases h

end Text

theorem Decimal.lineBreaks_text (d : Decimal) : lineBreaks d.text = [] := by
  refine lineBreaks_eq_nil_of_forall fun c hc => ?_
  rw [Decimal.text, String.toList_ofList] at hc
  rcases Decimal.mem_chars hc with hdigit | rfl | rfl
  · exact isLineBreak_eq_false_of_isDigit hdigit
  · rfl
  · rfl

namespace Sql

theorem lineBreaks_of_isPlainName {name : String} (h : isPlainName name = true) :
    lineBreaks name = [] := by
  have hparts := all_isNamePart_of_isPlainName h
  refine lineBreaks_eq_nil_of_forall fun c hc => ?_
  have hpart := List.all_eq_true.mp hparts c hc
  refine Bool.eq_false_iff.mpr fun hbreak => ?_
  rcases isLineBreak_iff.mp hbreak with rfl | rfl
  · cases hpart
  · cases hpart

def Lexeme.lineBreaks : Lexeme → List Char
  | word _ => []
  | text content => Text.lineBreaks content
  | number _ => []
  | symbol _ => []

theorem filter_isLineBreak_doubled (cs : List Char) :
    (doubled cs).filter isLineBreak = cs.filter isLineBreak := by
  induction cs with
  | nil => rfl
  | cons c cs ih =>
      rw [doubled]
      split
      · next hquote =>
          have hbreak : isLineBreak '\'' = false := rfl
          rw [hquote, List.filter_cons, List.filter_cons, List.filter_cons, hbreak, ih]
          rfl
      · rw [List.filter_cons, List.filter_cons, ih]

theorem lineBreaks_literal (content : String) :
    lineBreaks (literal content) = lineBreaks content := by
  have hquote : ['\''].filter isLineBreak = [] := rfl
  rw [lineBreaks, literal, String.toList_ofList, List.filter_append, hquote, List.append_nil,
    List.filter_cons_of_neg (by decide), filter_isLineBreak_doubled, lineBreaks]

theorem BinaryOperator.lineBreaks_sql (operator : BinaryOperator) :
    lineBreaks operator.sql = operator.lexeme.lineBreaks := by
  cases operator <;> rfl

namespace Expr

mutual

theorem lineBreaks_render (expr : Expr) (h : expr.isPlain = true) :
    lineBreaks expr.render = expr.lexemes.flatMap Lexeme.lineBreaks := by
  cases expr with
  | column name => exact lineBreaks_of_isPlainName h
  | string content =>
      rw [render, lexemes, List.flatMap_singleton, lineBreaks_literal, Lexeme.lineBreaks]
  | number value => exact value.lineBreaks_text
  | boolean value => cases value <;> rfl
  | binary left operator right =>
      simp only [isPlain, Bool.and_eq_true] at h
      have hblank : lineBreaks " " = [] := rfl
      simp only [render, lexemes, lineBreaks_append, List.flatMap_append, List.flatMap_cons, hblank,
        operator.lineBreaks_sql, lineBreaks_render left h.1, lineBreaks_render right h.2,
        List.append_nil, List.append_assoc]
  | between operand low high =>
      simp only [isPlain, Bool.and_eq_true] at h
      have hbetween : lineBreaks " BETWEEN " = (Lexeme.word "BETWEEN").lineBreaks := rfl
      have hand : lineBreaks " AND " = (Lexeme.word "AND").lineBreaks := rfl
      simp only [render, lexemes, lineBreaks_append, List.flatMap_append, List.flatMap_cons,
        hbetween, hand, lineBreaks_render operand h.1.1, lineBreaks_render low h.1.2,
        lineBreaks_render high h.2, List.append_assoc]
  | call function arguments =>
      simp only [isPlain, Bool.and_eq_true] at h
      have hopen : lineBreaks "(" = (Lexeme.symbol .openParen).lineBreaks := rfl
      have hclose : lineBreaks ")" = (Lexeme.symbol .closeParen).lineBreaks := rfl
      have hfunction : lineBreaks function = (Lexeme.word function).lineBreaks :=
        lineBreaks_of_isPlainName h.1
      simp only [render, lexemes, lineBreaks_append, List.flatMap_append, List.flatMap_cons,
        List.flatMap_nil, hfunction, hopen, hclose, lineBreaks_renderList arguments h.2,
        List.append_nil, List.append_assoc]
  | countAll => rfl

theorem lineBreaks_renderList (exprs : List Expr) (h : isPlainList exprs = true) :
    lineBreaks (renderList exprs) = (lexemesList exprs).flatMap Lexeme.lineBreaks := by
  cases exprs with
  | nil => rfl
  | cons expr exprs =>
      simp only [isPlainList, Bool.and_eq_true] at h
      rw [renderList, lexemesList, lineBreaks_append, List.flatMap_append,
        lineBreaks_render expr h.1, lineBreaks_renderMore exprs h.2]

theorem lineBreaks_renderMore (exprs : List Expr) (h : isPlainList exprs = true) :
    lineBreaks (renderMore exprs) = (lexemesMore exprs).flatMap Lexeme.lineBreaks := by
  cases exprs with
  | nil => rfl
  | cons expr exprs =>
      simp only [isPlainList, Bool.and_eq_true] at h
      have hcomma : lineBreaks ", " = (Lexeme.symbol .comma).lineBreaks := rfl
      rw [renderMore, lexemesMore, lineBreaks_append, lineBreaks_append, List.flatMap_cons,
        List.flatMap_append, hcomma, lineBreaks_render expr h.1, lineBreaks_renderMore exprs h.2,
        List.append_assoc]

end

end Expr

/-!
## Statements

A statement has the line breaks of its lexemes.
-/

theorem flatMap_lineBreaks_joined {separator : Lexeme} (h : separator.lineBreaks = [])
    (parts : List (List Lexeme)) :
    (joined separator parts).flatMap Lexeme.lineBreaks =
      parts.flatMap fun part => part.flatMap Lexeme.lineBreaks := by
  induction parts with
  | nil => rfl
  | cons first rest ih =>
      cases rest with
      | nil => rw [joined, List.flatMap_singleton]
      | cons second rest =>
          rw [List.flatMap_cons, ← ih, joined, List.flatMap_append, List.flatMap_cons, h,
            List.nil_append]
          exact List.cons_ne_nil second rest

theorem ResultColumn.lineBreaks_render (column : ResultColumn) (h : column.isPlain = true) :
    lineBreaks column.render = column.lexemes.flatMap Lexeme.lineBreaks := by
  obtain ⟨expr, name⟩ := column
  simp only [isPlain, Bool.and_eq_true] at h
  have hexpr := expr.lineBreaks_render h.1
  cases name with
  | none => exact hexpr
  | some name =>
      have has : lineBreaks " AS " = (Lexeme.word "AS").lineBreaks := rfl
      have hname : lineBreaks name = (Lexeme.word name).lineBreaks :=
        lineBreaks_of_isPlainName h.2
      simp only [render, lexemes, lineBreaks_append, List.flatMap_append, List.flatMap_cons,
        List.flatMap_nil, hexpr, has, hname, List.append_nil, List.append_assoc]

theorem OrderTerm.lineBreaks_render (term : OrderTerm) (h : term.expr.isPlain = true) :
    lineBreaks term.render = term.lexemes.flatMap Lexeme.lineBreaks := by
  have hblank : lineBreaks " " = [] := rfl
  have hdirection : lineBreaks term.direction.keyword =
      (Lexeme.word term.direction.keyword).lineBreaks := by
    cases term.direction <;> rfl
  simp only [render, lexemes, lineBreaks_append, List.flatMap_append, List.flatMap_singleton,
    hblank, hdirection, term.expr.lineBreaks_render h, List.append_nil]

namespace Select

theorem lineBreaks_clause {keyword : String} {keywords : List Lexeme} {α : Type}
    {text : α → String} {lexemes : α → List Lexeme} {content : Option α}
    (hkeyword : lineBreaks keyword = keywords.flatMap Lexeme.lineBreaks)
    (hcontent : ∀ item ∈ content,
      lineBreaks (text item) = (lexemes item).flatMap Lexeme.lineBreaks) :
    lineBreaks (clause keyword (content.map text)) =
      (clauseLexemes keywords (content.map lexemes)).flatMap Lexeme.lineBreaks := by
  cases content with
  | none => rfl
  | some item =>
      have hblank : lineBreaks " " = [] := rfl
      simp only [Option.map_some, clause, clauseLexemes, lineBreaks_append, List.flatMap_append,
        hblank, hkeyword, hcontent item rfl, List.nil_append, List.append_nil]

theorem lineBreaks_join {α : Type} {text : α → String} {lexemes : α → List Lexeme} {items : List α}
    (h : ∀ item ∈ items, lineBreaks (text item) = (lexemes item).flatMap Lexeme.lineBreaks) :
    lineBreaks (Text.join ", " (items.map text)) =
      (joined (.symbol .comma) (items.map lexemes)).flatMap Lexeme.lineBreaks := by
  rw [Text.lineBreaks_join rfl, flatMap_lineBreaks_joined rfl, List.flatMap_map, List.flatMap_map]
  exact congrArg List.flatten (List.map_congr_left h)

theorem lineBreaks_renderColumns {columns : List ResultColumn}
    (h : ∀ column ∈ columns, column.isPlain = true) :
    lineBreaks (renderColumns columns) = (columnsLexemes columns).flatMap Lexeme.lineBreaks := by
  unfold renderColumns columnsLexemes
  split
  · rfl
  · exact lineBreaks_join fun column hcolumn => column.lineBreaks_render (h column hcolumn)

theorem lineBreaks_order {order : List OrderTerm} (h : ∀ term ∈ order, term.expr.isPlain = true) :
    lineBreaks (clause "ORDER BY" (renderOrder? order)) =
      (clauseLexemes [.word "ORDER", .word "BY"] (orderLexemes? order)).flatMap
        Lexeme.lineBreaks := by
  have hterms := lineBreaks_join fun term hterm => OrderTerm.lineBreaks_render term (h term hterm)
  unfold renderOrder? orderLexemes?
  split
  · rfl
  · have hkeyword : lineBreaks (" " ++ "ORDER BY" ++ " ") = [] := rfl
    rw [clause, clauseLexemes, lineBreaks_append, List.flatMap_append, hkeyword, hterms]
    rfl

theorem lineBreaks_render {select : Select} (h : select.IsPlain) :
    lineBreaks select.render = select.lexemes.flatMap Lexeme.lineBreaks := by
  have hselect : lineBreaks "SELECT" = (Lexeme.word "SELECT").lineBreaks := rfl
  have hdistinct : lineBreaks (if select.distinct then " DISTINCT" else "") =
      (if select.distinct then [Lexeme.word "DISTINCT"] else []).flatMap Lexeme.lineBreaks := by
    split <;> rfl
  have hblank : lineBreaks " " = [] := rfl
  have htable : lineBreaks (clause "FROM" (select.table.map fun table => table)) =
      (clauseLexemes [.word "FROM"] (select.table.map fun table => [.word table])).flatMap
        Lexeme.lineBreaks :=
    lineBreaks_clause rfl fun table htable => lineBreaks_of_isPlainName (h.table table htable)
  have hwhere : lineBreaks (clause "WHERE" (select.condition.map Expr.render)) =
      (clauseLexemes [.word "WHERE"] (select.condition.map Expr.lexemes)).flatMap
        Lexeme.lineBreaks :=
    lineBreaks_clause rfl fun condition hcondition =>
      condition.lineBreaks_render (h.condition condition hcondition)
  have hlimit : lineBreaks (clause "LIMIT" (select.limit.map Expr.render)) =
      (clauseLexemes [.word "LIMIT"] (select.limit.map Expr.lexemes)).flatMap
        Lexeme.lineBreaks :=
    lineBreaks_clause rfl fun limit hlimit => limit.lineBreaks_render (h.limit limit hlimit)
  have hoffset : lineBreaks (clause "OFFSET" (select.offset.map Expr.render)) =
      (clauseLexemes [.word "OFFSET"] (select.offset.map Expr.lexemes)).flatMap
        Lexeme.lineBreaks :=
    lineBreaks_clause rfl fun offset hoffset => offset.lineBreaks_render (h.offset offset hoffset)
  rw [Option.map_id'] at htable
  simp only [render, lexemes, lineBreaks_append, List.flatMap_append, List.flatMap_cons, hselect,
    hdistinct, hblank, lineBreaks_renderColumns h.columns, htable, hwhere,
    lineBreaks_order h.order, hlimit, hoffset, List.append_nil, List.append_assoc]

end Select

/-!
## Plans

What a statement asks for breaks its lines only in the operands of its conditions.
-/

theorem lineBreaks_scalarLexeme (value : Scalar) :
    (scalarLexeme value).lineBreaks = value.texts.flatMap lineBreaks := by
  cases value with
  | string content => rw [Scalar.texts, List.flatMap_singleton]; rfl
  | number value => rfl
  | boolean value => rfl

theorem flatMap_lineBreaks_folded (ignoreCase : Bool) (lexeme : Lexeme) :
    (folded ignoreCase lexeme).flatMap Lexeme.lineBreaks = lexeme.lineBreaks := by
  cases ignoreCase with
  | true => exact List.append_nil lexeme.lineBreaks
  | false => exact List.append_nil lexeme.lineBreaks

theorem flatMap_lineBreaks_criterionLexemes (criterion : Criterion) :
    (criterionLexemes criterion).flatMap Lexeme.lineBreaks =
      (criterion.values.flatMap Scalar.texts).flatMap lineBreaks := by
  have hfield : (Lexeme.word criterion.field).lineBreaks = [] := rfl
  have hoperator : (operatorLexeme criterion.operator).lineBreaks = [] := by
    cases criterion.operator <;> rfl
  rw [criterionLexemes, List.flatMap_append, List.flatMap_cons, flatMap_lineBreaks_folded, hfield,
    hoperator, flatMap_lineBreaks_joined rfl, List.flatMap_map, List.flatMap_assoc]
  simp only [flatMap_lineBreaks_folded, lineBreaks_scalarLexeme, List.nil_append]

theorem flatMap_lineBreaks_clauseLexemes {keywords : List Lexeme} {separator : Lexeme} {α : Type}
    (hkeywords : keywords.flatMap Lexeme.lineBreaks = []) (hseparator : separator.lineBreaks = [])
    (lexemes : α → List Lexeme) (items : List α) :
    (Select.clauseLexemes keywords (joined? separator lexemes items)).flatMap Lexeme.lineBreaks =
      items.flatMap fun item => (lexemes item).flatMap Lexeme.lineBreaks := by
  unfold joined?
  split
  · next hempty => rw [List.isEmpty_iff.mp hempty]; rfl
  · rw [Select.clauseLexemes, List.flatMap_append, hkeywords, List.nil_append,
      flatMap_lineBreaks_joined hseparator, List.flatMap_map]

theorem Content.flatMap_lineBreaks_columnsLexemes (content : Content) :
    content.columnsLexemes.flatMap Lexeme.lineBreaks = [] := by
  unfold columnsLexemes
  split
  · rfl
  · rw [flatMap_lineBreaks_joined rfl, List.flatMap_map]
    refine List.flatMap_eq_nil_iff.mpr fun shown _ => ?_
    cases shown <;> rfl

theorem Content.flatMap_lineBreaks_windowLexemes (content : Content) :
    content.windowLexemes.flatMap Lexeme.lineBreaks = [] := by
  unfold windowLexemes
  cases content.limit <;> cases content.offset <;> rfl

theorem Content.flatMap_lineBreaks_lexemes (content : Content) :
    content.lexemes.flatMap Lexeme.lineBreaks =
      (content.filters.flatMap fun criterion => criterion.values.flatMap Scalar.texts).flatMap
        lineBreaks := by
  have hselect : (Lexeme.word "SELECT").lineBreaks = [] := rfl
  have hdistinct : (if content.distinct then [Lexeme.word "DISTINCT"] else []).flatMap
      Lexeme.lineBreaks = [] := by
    split <;> rfl
  have hfrom : (Lexeme.word "FROM").lineBreaks = [] := rfl
  have hentity : (Lexeme.word content.entity).lineBreaks = [] := rfl
  have hsorting : content.sorting.flatMap
      (fun key => (sortLexemes key).flatMap Lexeme.lineBreaks) = [] :=
    List.flatMap_eq_nil_iff.mpr fun _ _ => rfl
  rw [lexemes, bodyLexemes, clausesLexemes, orderLexemes]
  simp only [List.flatMap_cons, List.flatMap_append, hselect, hdistinct, hfrom, hentity,
    flatMap_lineBreaks_columnsLexemes, flatMap_lineBreaks_windowLexemes, List.nil_append]
  rw [flatMap_lineBreaks_clauseLexemes rfl rfl, flatMap_lineBreaks_clauseLexemes rfl rfl, hsorting,
    List.append_nil, List.append_nil, List.flatMap_assoc]
  simp only [flatMap_lineBreaks_criterionLexemes]

/-- A statement has just the line breaks of the texts that its plan compares with. It stands on one
line if and only if all of these texts do. -/
theorem lineBreaks_renderPlan {table : Option Handle} {plan : Plan} {rendered : Rendered}
    (h : renderPlan table plan = .ok rendered) :
    lineBreaks rendered.sql = plan.texts.flatMap lineBreaks ∧
      (IsSingleLine rendered.sql ↔ ∀ text ∈ plan.texts, IsSingleLine text) := by
  rcases bind_eq_ok.mp h with ⟨select, hselect, hrendered⟩
  rcases Select.ofPlan_eq_ok hselect with ⟨hplain, hlexemes, _⟩
  have hbreaks : lineBreaks rendered.sql = plan.texts.flatMap lineBreaks := by
    cases hrendered
    rw [Select.lineBreaks_render hplain, hlexemes, Content.flatMap_lineBreaks_lexemes]
    rfl
  refine ⟨hbreaks, ?_⟩
  rw [isSingleLine_iff, hbreaks, List.flatMap_eq_nil_iff]
  exact forall₂_congr fun _ _ => isSingleLine_iff.symm

/-- A plan with a range of texts, one of which is on three lines and has an apostrophe. -/
def brokenPlan : Plan where
  entity := ⟨"notes", by decide⟩
  filters := [⟨"title", .between, [.string "a\r", .string "\nit's\n"], true⟩,
    ⟨"body", .neq, [.string "b"], false⟩]
  paging := { size := some 10 }

theorem lineBreaks_renderPlan_broken :
    ∃ rendered, renderPlan none brokenPlan = .ok rendered ∧
      lineBreaks rendered.sql = ['\r', '\n', '\n'] ∧ ¬ IsSingleLine rendered.sql := by
  have h : renderPlan none brokenPlan = .ok _ := rfl
  have hbreaks : brokenPlan.texts.flatMap lineBreaks = ['\r', '\n', '\n'] := by decide
  refine ⟨_, h, (lineBreaks_renderPlan h).1.trans hbreaks, ?_⟩
  intro hsingle
  have htext := (lineBreaks_renderPlan h).2.mp hsingle "a\r" (by decide)
  exact htext.2 (by decide)

def twoLinePlan : Plan where
  entity := ⟨"memos", by decide⟩
  filters := [⟨"a", .eq, [.string "x\ny"], false⟩]

/-- A statement need not stand on one line. -/
theorem renderPlan_twoLinePlan :
    ∃ rendered, renderPlan none twoLinePlan = .ok rendered ∧
      rendered.sql = "SELECT * FROM memos WHERE a = 'x\ny'" ∧ ¬ IsSingleLine rendered.sql := by
  have h : renderPlan none twoLinePlan = .ok _ := rfl
  refine ⟨_, h, by decide +kernel, ?_⟩
  intro hsingle
  exact hsingle.1 (by decide +kernel)

end Sql
end TableQuery
