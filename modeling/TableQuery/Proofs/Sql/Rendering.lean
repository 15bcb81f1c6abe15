import TableQuery.Proofs.Sql.Lexing
import TableQuery.Sql.Select

/-!
# Lexemes of rendered text

What an expression or a statement is as lexemes, and that its text is cut into just these lexemes.
Names have to be plain for that, because they are written as they are. Texts and numbers can be
anything.
-/

namespace TableQuery
namespace Sql

/-!
## Expressions
-/

def BinaryOperator.lexeme : BinaryOperator → Lexeme
  | eq => .symbol .equal
  | ne => .symbol .notEqual
  | lt => .symbol .less
  | le => .symbol .lessEqual
  | gt => .symbol .greater
  | ge => .symbol .greaterEqual
  | like => .word "LIKE"
  | and => .word "AND"

namespace Expr

mutual

def lexemes : Expr → List Lexeme
  | column name => [.word name]
  | string content => [.text content]
  | number value => [.number value]
  | boolean value => [.word (booleanText value)]
  | binary left operator right => left.lexemes ++ operator.lexeme :: right.lexemes
  | between operand low high =>
    operand.lexemes ++ .word "BETWEEN" :: (low.lexemes ++ .word "AND" :: high.lexemes)
  | call function arguments =>
    .word function :: .symbol .openParen :: (lexemesList arguments ++ [.symbol .closeParen])
  | countAll => [.word "COUNT", .symbol .openParen, .symbol .star, .symbol .closeParen]

def lexemesList : List Expr → List Lexeme
  | [] => []
  | expr :: rest => expr.lexemes ++ lexemesMore rest

def lexemesMore : List Expr → List Lexeme
  | [] => []
  | expr :: rest => .symbol .comma :: (expr.lexemes ++ lexemesMore rest)

end

mutual

def isPlain : Expr → Bool
  | column name => isPlainName name
  | string _ => true
  | number _ => true
  | boolean _ => true
  | binary left _ right => left.isPlain && right.isPlain
  | between operand low high => operand.isPlain && low.isPlain && high.isPlain
  | call function arguments => isPlainName function && isPlainList arguments
  | countAll => true

def isPlainList : List Expr → Bool
  | [] => true
  | expr :: rest => expr.isPlain && isPlainList rest

end

end Expr

/-!
Comparison symbols stand between blanks, so `<` is never the start of `<=`.
-/

theorem Lexes.binaryOperator (operator : BinaryOperator) :
    Lexes operator.sql.toList [operator.lexeme] := by
  cases operator with
  | eq => exact Lexes.of_lexeme? fun _ _ => rfl
  | ne => exact Lexes.of_lexeme? fun _ _ => rfl
  | le => exact Lexes.of_lexeme? fun _ _ => rfl
  | ge => exact Lexes.of_lexeme? fun _ _ => rfl
  | lt =>
      apply Lexes.of_lexeme?
      intro rest hrest
      have hsymbol : symbol? ('<' :: rest) = some (.less, rest) := by
        rw [symbol?]
        intro tail heq
        rw [heq] at hrest
        exact absurd (hrest '=' rfl) (by decide)
      exact congrArg (Option.map fun found => (Lexeme.symbol found.1, found.2)) hsymbol
  | gt =>
      apply Lexes.of_lexeme?
      intro rest hrest
      have hsymbol : symbol? ('>' :: rest) = some (.greater, rest) := by
        rw [symbol?]
        intro tail heq
        rw [heq] at hrest
        exact absurd (hrest '=' rfl) (by decide)
      exact congrArg (Option.map fun found => (Lexeme.symbol found.1, found.2)) hsymbol
  | like => exact Lexes.name (by decide)
  | and => exact Lexes.name (by decide)

theorem Lexes.boolean (value : Bool) :
    Lexes (booleanText value).toList [.word (booleanText value)] := by
  cases value with
  | true => exact Lexes.name (by decide)
  | false => exact Lexes.name (by decide)

namespace Expr

theorem stops_renderMore (exprs : List Expr) (rest : List Char) (hrest : Stops rest) :
    Stops ((renderMore exprs).toList ++ rest) := by
  cases exprs with
  | nil => simpa [renderMore] using hrest
  | cons expr exprs =>
      simp only [renderMore, String.toList_append, List.append_assoc]
      exact stops_cons _ rfl

mutual

theorem lexes_render (expr : Expr) (h : expr.isPlain = true) :
    Lexes expr.render.toList expr.lexemes := by
  cases expr with
  | column name => exact Lexes.name h
  | string content => exact Lexes.literal content
  | number value => exact Lexes.decimal value
  | boolean value => exact Lexes.boolean value
  | binary left operator right =>
      simp only [isPlain, Bool.and_eq_true] at h
      simp only [render, String.toList_append, List.append_assoc, lexemes]
      exact (lexes_render left h.1).append_blank
        ((Lexes.binaryOperator operator).append_blank (lexes_render right h.2))
  | between operand low high =>
      simp only [isPlain, Bool.and_eq_true] at h
      have hbetween : Lexes "BETWEEN".toList [.word "BETWEEN"] := Lexes.name (by decide)
      have hand : Lexes "AND".toList [.word "AND"] := Lexes.name (by decide)
      simp only [render, String.toList_append, List.append_assoc, lexemes]
      exact (lexes_render operand h.1.1).append_blank
        (hbetween.append_blank ((lexes_render low h.1.2).append_blank
          (hand.append_blank (lexes_render high h.2))))
  | call function arguments =>
      simp only [isPlain, Bool.and_eq_true] at h
      have harguments := (lexes_renderList arguments h.2).append Lexes.closeParen
        fun rest _ => stops_cons rest rfl
      simp only [render, String.toList_append, List.append_assoc, lexemes]
      exact (Lexes.name h.1).append harguments.openParen fun _ _ => stops_cons _ rfl
  | countAll =>
      have hcount : Lexes "COUNT".toList [.word "COUNT"] := Lexes.name (by decide)
      have hstar := Lexes.star.append Lexes.closeParen fun rest _ => stops_cons rest rfl
      exact hcount.append hstar.openParen fun _ _ => stops_cons _ rfl

theorem lexes_renderList (exprs : List Expr) (h : isPlainList exprs = true) :
    Lexes (renderList exprs).toList (lexemesList exprs) := by
  cases exprs with
  | nil => exact Lexes.nil
  | cons expr exprs =>
      simp only [isPlainList, Bool.and_eq_true] at h
      simp only [renderList, String.toList_append, lexemesList]
      exact (lexes_render expr h.1).append (lexes_renderMore exprs h.2) (stops_renderMore exprs)

theorem lexes_renderMore (exprs : List Expr) (h : isPlainList exprs = true) :
    Lexes (renderMore exprs).toList (lexemesMore exprs) := by
  cases exprs with
  | nil => exact Lexes.nil
  | cons expr exprs =>
      simp only [isPlainList, Bool.and_eq_true] at h
      have hmore := (lexes_render expr h.1).append (lexes_renderMore exprs h.2)
        (stops_renderMore exprs)
      simp only [renderMore, String.toList_append, List.append_assoc, lexemesMore]
      exact Lexes.comma.append_blank hmore

end

end Expr

/-!
## Statements
-/

def joined (separator : Lexeme) : List (List Lexeme) → List Lexeme
  | [] => []
  | [lexemes] => lexemes
  | lexemes :: more => lexemes ++ separator :: joined separator more

theorem Lexes.join {α : Type} {text : α → String} {lexemes : α → List Lexeme} {items : List α}
    (h : ∀ item ∈ items, Lexes (text item).toList (lexemes item)) :
    Lexes (Text.join ", " (items.map text)).toList
      (joined (.symbol .comma) (items.map lexemes)) := by
  induction items with
  | nil => exact Lexes.nil
  | cons first rest ih =>
      have hfirst := h first (by simp)
      cases rest with
      | nil => exact hfirst
      | cons second rest =>
          have hrest := ih fun item hitem => h item (List.mem_cons_of_mem first hitem)
          simp only [List.map_cons, Text.join, String.toList_append, List.append_assoc, joined]
          exact hfirst.append (Lexes.comma.append_blank hrest) fun _ _ => stops_cons _ rfl

def ResultColumn.lexemes (column : ResultColumn) : List Lexeme :=
  match column.name with
  | some name => column.expr.lexemes ++ [.word "AS", .word name]
  | none => column.expr.lexemes

def ResultColumn.isPlain (column : ResultColumn) : Bool :=
  column.expr.isPlain && column.name.all isPlainName

theorem ResultColumn.lexes_render (column : ResultColumn) (h : column.isPlain = true) :
    Lexes column.render.toList column.lexemes := by
  obtain ⟨expr, name⟩ := column
  simp only [isPlain, Bool.and_eq_true] at h
  have hexpr := expr.lexes_render h.1
  cases name with
  | none => exact hexpr
  | some name =>
      have has : Lexes "AS".toList [.word "AS"] := Lexes.name (by decide)
      have hname : Lexes name.toList [.word name] := Lexes.name (by simpa using h.2)
      simp only [ResultColumn.render, ResultColumn.lexemes, String.toList_append, List.append_assoc]
      exact hexpr.append_blank (has.append_blank hname)

def OrderTerm.lexemes (term : OrderTerm) : List Lexeme :=
  term.expr.lexemes ++ [.word term.direction.keyword]

theorem OrderTerm.lexes_render (term : OrderTerm) (h : term.expr.isPlain = true) :
    Lexes term.render.toList term.lexemes := by
  have hdirection : Lexes term.direction.keyword.toList [.word term.direction.keyword] := by
    cases term.direction with
    | ascending => exact Lexes.name (by decide)
    | descending => exact Lexes.name (by decide)
  simp only [OrderTerm.render, OrderTerm.lexemes, String.toList_append, List.append_assoc]
  exact (term.expr.lexes_render h).append_blank hdirection

namespace Select

def clauseLexemes (keywords : List Lexeme) : Option (List Lexeme) → List Lexeme
  | some lexemes => keywords ++ lexemes
  | none => []

def columnsLexemes (columns : List ResultColumn) : List Lexeme :=
  if columns.isEmpty then [.symbol .star]
  else joined (.symbol .comma) (columns.map ResultColumn.lexemes)

def orderLexemes? (order : List OrderTerm) : Option (List Lexeme) :=
  if order.isEmpty then none else some (joined (.symbol .comma) (order.map OrderTerm.lexemes))

def lexemes (select : Select) : List Lexeme :=
  .word "SELECT" :: ((if select.distinct then [.word "DISTINCT"] else []) ++
    (columnsLexemes select.columns ++
      (clauseLexemes [.word "FROM"] (select.table.map fun table => [.word table]) ++
        (clauseLexemes [.word "WHERE"] (select.condition.map Expr.lexemes) ++
          (clauseLexemes [.word "ORDER", .word "BY"] (orderLexemes? select.order) ++
            (clauseLexemes [.word "LIMIT"] (select.limit.map Expr.lexemes) ++
              clauseLexemes [.word "OFFSET"] (select.offset.map Expr.lexemes)))))))

structure IsPlain (select : Select) : Prop where
  columns : ∀ column ∈ select.columns, column.isPlain = true
  table : ∀ table ∈ select.table, isPlainName table = true
  condition : ∀ condition ∈ select.condition, condition.isPlain = true
  order : ∀ term ∈ select.order, term.expr.isPlain = true
  limit : ∀ limit ∈ select.limit, limit.isPlain = true
  offset : ∀ offset ∈ select.offset, offset.isPlain = true

theorem lexes_clause {keyword : String} {keywords : List Lexeme} {α : Type} {text : α → String}
    {lexemes : α → List Lexeme} {content : Option α} (hkeyword : Lexes keyword.toList keywords)
    (hcontent : ∀ item ∈ content, Lexes (text item).toList (lexemes item)) :
    Lexes.Behind (clause keyword (content.map text)).toList
      (clauseLexemes keywords (content.map lexemes)) := by
  cases content with
  | none => exact Lexes.Behind.nil
  | some item =>
      have hitem := hcontent item rfl
      simp only [clause, Option.map_some, clauseLexemes, String.toList_append, List.append_assoc]
      exact Lexes.Behind.blank (hkeyword.append_blank hitem)

theorem lexes_renderColumns {columns : List ResultColumn}
    (h : ∀ column ∈ columns, column.isPlain = true) :
    Lexes (renderColumns columns).toList (columnsLexemes columns) := by
  unfold renderColumns columnsLexemes
  split
  · exact Lexes.star
  · exact Lexes.join fun column hcolumn => column.lexes_render (h column hcolumn)

theorem lexes_order {order : List OrderTerm} (h : ∀ term ∈ order, term.expr.isPlain = true) :
    Lexes.Behind (clause "ORDER BY" (renderOrder? order)).toList
      (clauseLexemes [.word "ORDER", .word "BY"] (orderLexemes? order)) := by
  unfold renderOrder? orderLexemes?
  split
  · exact Lexes.Behind.nil
  · have horder : Lexes "ORDER".toList [.word "ORDER"] := Lexes.name (by decide)
    have hby : Lexes "BY".toList [.word "BY"] := Lexes.name (by decide)
    have hterms := Lexes.join fun term hterm => OrderTerm.lexes_render term (h term hterm)
    simp only [clause, clauseLexemes, String.toList_append, List.append_assoc]
    exact Lexes.Behind.blank ((horder.append_blank hby).append_blank hterms)

theorem toList_render (select : Select) : select.render.toList =
    "SELECT".toList ++ ((if select.distinct then " DISTINCT" else "").toList ++
      (' ' :: (renderColumns select.columns).toList ++
        ((clause "FROM" select.table).toList ++
          ((clause "WHERE" (select.condition.map Expr.render)).toList ++
            ((clause "ORDER BY" (renderOrder? select.order)).toList ++
              ((clause "LIMIT" (select.limit.map Expr.render)).toList ++
                (clause "OFFSET" (select.offset.map Expr.render)).toList)))))) := by
  have hblank : " ".toList = [' '] := by decide
  simp only [render, String.toList_append, hblank, List.append_assoc, List.cons_append,
    List.nil_append]

/-- The text of a statement is cut into its lexemes. -/
theorem lexemes?_render {select : Select} (h : select.IsPlain) :
    lexemes? select.render.toList = some select.lexemes := by
  have hselect : Lexes "SELECT".toList [.word "SELECT"] := Lexes.name (by decide)
  have hdistinct : Lexes.Behind (if select.distinct then " DISTINCT" else "").toList
      (if select.distinct then [.word "DISTINCT"] else []) := by
    have hword : Lexes "DISTINCT".toList [.word "DISTINCT"] := Lexes.name (by decide)
    have htext : " DISTINCT".toList = ' ' :: "DISTINCT".toList := by decide
    cases select.distinct with
    | true =>
        rw [if_pos rfl, if_pos rfl, htext]
        exact Lexes.Behind.blank hword
    | false => exact Lexes.Behind.nil
  have hcolumns := Lexes.Behind.blank (lexes_renderColumns h.columns)
  have htable := lexes_clause (Lexes.name (by decide : isPlainName "FROM" = true))
    fun table htable => Lexes.name (h.table table htable)
  have hwhere := lexes_clause (Lexes.name (by decide : isPlainName "WHERE" = true))
    fun condition hcondition => Expr.lexes_render condition (h.condition condition hcondition)
  have horder := lexes_order h.order
  have hlimit := lexes_clause (Lexes.name (by decide : isPlainName "LIMIT" = true))
    fun limit hlimit => Expr.lexes_render limit (h.limit limit hlimit)
  have hoffset := lexes_clause (Lexes.name (by decide : isPlainName "OFFSET" = true))
    fun offset hoffset => Expr.lexes_render offset (h.offset offset hoffset)
  have hall := hselect.append_behind (hdistinct.append (hcolumns.append (htable.append
    (hwhere.append (horder.append (hlimit.append hoffset))))))
  have hlexed := hall [] stops_nil
  rw [lexemes?_nil, Option.map_some, List.append_nil, List.append_nil] at hlexed
  rw [Option.map_id'] at hlexed
  rw [toList_render]
  exact hlexed

end Select

end Sql
end TableQuery
