import TableQuery.Proofs.Sql.Reading

/-!
# Reading a statement back

Everything that a statement can ask for has lexemes of its own, and the reader finds it again in
them. Each part is read by itself first, with any lexemes behind it that cannot go on with it, and the
statement is put together from its parts.
-/

namespace TableQuery

/-!
## The lexemes of the parts

Each part of what a statement asks for has lexemes, with separators between the items of a list, and
the statement has those of its parts.
-/

namespace Sql

def folded (ignoreCase : Bool) (lexeme : Lexeme) : List Lexeme :=
  if ignoreCase then [.word "LOWER", .symbol .openParen, lexeme, .symbol .closeParen] else [lexeme]

def Shown.lexemes : Shown → List Lexeme
  | .field name => [.word name]
  | .aggregate function column =>
    [.word function.sql, .symbol .openParen, .word column, .symbol .closeParen, .word "AS",
      .word (function.resultName column)]
  | .count =>
    [.word "COUNT", .symbol .openParen, .symbol .star, .symbol .closeParen, .word "AS",
      .word totalCount]

def scalarLexeme : Scalar → Lexeme
  | .string content => .text content
  | .number value => .number value
  | .boolean value => .word (booleanText value)

def operatorLexeme : Operator → Lexeme
  | .eq => .symbol .equal
  | .neq => .symbol .notEqual
  | .gt => .symbol .greater
  | .gte => .symbol .greaterEqual
  | .lt => .symbol .less
  | .lte => .symbol .lessEqual
  | .like => .word "LIKE"
  | .between => .word "BETWEEN"

def criterionLexemes (criterion : Criterion) : List Lexeme :=
  folded criterion.ignoreCase (.word criterion.field) ++ operatorLexeme criterion.operator ::
    joined (.word "AND")
      (criterion.values.map fun value => folded criterion.ignoreCase (scalarLexeme value))

def sortLexemes (key : SortKey) : List Lexeme :=
  [.word key.field, .word key.direction.keyword]

theorem joined_cons (separator : Lexeme) (first : List Lexeme) (more : List (List Lexeme)) :
    ∃ tail, joined separator (first :: more) = first ++ tail := by
  cases more with
  | nil => exact ⟨[], (List.append_nil first).symm⟩
  | cons second more => exact ⟨separator :: joined separator (second :: more), rfl⟩

def joined? {α : Type} (separator : Lexeme) (lexemes : α → List Lexeme) (items : List α) :
    Option (List Lexeme) :=
  if items.isEmpty then none else some (joined separator (items.map lexemes))

namespace Content

def columnsLexemes (content : Content) : List Lexeme :=
  if content.columns.isEmpty then [.symbol .star]
  else joined (.symbol .comma) (content.columns.map Shown.lexemes)

def windowLexemes (content : Content) : List Lexeme :=
  Select.clauseLexemes [.word "LIMIT"] (content.limit.map fun word => [.number (.ofUInt64 word)]) ++
    Select.clauseLexemes [.word "OFFSET"] (content.offset.map fun word => [.number (.ofUInt64 word)])

def orderLexemes (content : Content) : List Lexeme :=
  Select.clauseLexemes [.word "ORDER", .word "BY"]
    (joined? (.symbol .comma) sortLexemes content.sorting) ++ content.windowLexemes

def clausesLexemes (content : Content) : List Lexeme :=
  Select.clauseLexemes [.word "WHERE"]
    (joined? (.word "AND") criterionLexemes content.filters) ++ content.orderLexemes

def bodyLexemes (content : Content) : List Lexeme :=
  content.columnsLexemes ++ .word "FROM" :: .word content.entity :: content.clausesLexemes

def lexemes (content : Content) : List Lexeme :=
  .word "SELECT" :: ((if content.distinct then [.word "DISTINCT"] else []) ++ content.bodyLexemes)

end Content

/-!
## Reading the parts

A column that is followed by an opening parenthesis would be read as a call. So the lexemes behind a
part must not start with one.
-/

def Closed (lexemes : List Lexeme) : Prop :=
  ∀ next ∈ lexemes.head?, next ≠ .symbol .openParen

theorem closed_word (name : String) (rest : List Lexeme) : Closed (.word name :: rest) := by
  intro next hnext
  cases hnext
  simp

theorem readShown_lexemes (shown : Shown) {rest : List Lexeme} (hrest : Closed rest) :
    readShown (shown.lexemes ++ rest) = some (shown, rest) := by
  cases shown with
  | field name =>
      simp only [Shown.lexemes, List.cons_append, List.nil_append]
      rw [readShown]
      · intro field keyword label tail heq
        rw [heq] at hrest
        exact hrest _ rfl rfl
      · intro keyword label tail heq
        rw [heq] at hrest
        exact hrest _ rfl rfl
  | aggregate function field =>
      cases function with
      | sum => simp [Shown.lexemes, readShown, aggregateOfSql?, AggregateFunction.sql]
      | avg => simp [Shown.lexemes, readShown, aggregateOfSql?, AggregateFunction.sql]
      | min => simp [Shown.lexemes, readShown, aggregateOfSql?, AggregateFunction.sql]
      | max => simp [Shown.lexemes, readShown, aggregateOfSql?, AggregateFunction.sql]
  | count => simp [Shown.lexemes, readShown]

theorem literalScalar?_scalarLexeme (value : Scalar) :
    literalScalar? (scalarLexeme value) = some value := by
  cases value with
  | string content => rfl
  | number value => rfl
  | boolean value => cases value <;> rfl

theorem scalarLexeme_ne_symbol (value : Scalar) (symbol : Symbol) :
    scalarLexeme value ≠ .symbol symbol := by
  cases value <;> simp [scalarLexeme]

theorem readColumn_folded (ignoreCase : Bool) (name : String) {rest : List Lexeme}
    (hrest : Closed rest) :
    readColumn (folded ignoreCase (.word name) ++ rest) = some ((name, ignoreCase), rest) := by
  cases ignoreCase with
  | true => simp [folded, readColumn]
  | false =>
      simp only [folded, Bool.false_eq_true, if_false, List.cons_append, List.nil_append]
      rw [readColumn]
      intro field tail heq
      rw [heq] at hrest
      exact hrest _ rfl rfl

theorem readOperator_operatorLexeme (operator : Operator) (rest : List Lexeme) :
    readOperator (operatorLexeme operator :: rest) = some (operator, rest) := by
  cases operator with
  | like => simp [operatorLexeme, readOperator]
  | between => simp [operatorLexeme, readOperator]
  | eq => rfl
  | neq => rfl
  | gt => rfl
  | gte => rfl
  | lt => rfl
  | lte => rfl

theorem closed_operatorLexeme (operator : Operator) (rest : List Lexeme) :
    Closed (operatorLexeme operator :: rest) := by
  intro next hnext
  simp only [List.head?_cons, Option.mem_def, Option.some.injEq] at hnext
  rw [← hnext]
  cases operator <;> simp [operatorLexeme]

theorem readOperand_folded (ignoreCase : Bool) (value : Scalar) {rest : List Lexeme}
    (hrest : Closed rest) :
    readOperand ignoreCase (folded ignoreCase (scalarLexeme value) ++ rest) =
      some (value, rest) := by
  have hliteral := literalScalar?_scalarLexeme value
  cases ignoreCase with
  | true => simp [folded, readOperand, hliteral]
  | false =>
      simp only [folded, Bool.false_eq_true, if_false, List.cons_append, List.nil_append]
      rw [readOperand]
      · simp [hliteral]
      · intro function operand tail _ heq
        rw [heq] at hrest
        exact hrest _ rfl rfl

def Complete (criterion : Criterion) : Prop :=
  criterion.values.length = criterion.operator.operands.length

theorem Complete.values_eq {criterion : Criterion} (h : Complete criterion) :
    (criterion.operator = .between ∧ ∃ low high, criterion.values = [low, high]) ∨
      (criterion.operator ≠ .between ∧ ∃ value, criterion.values = [value]) := by
  obtain ⟨field, operator, values, ignoreCase⟩ := criterion
  by_cases hbetween : operator = .between
  · left
    rw [hbetween] at h
    refine ⟨hbetween, ?_⟩
    rcases values with _ | ⟨low, _ | ⟨high, _ | ⟨third, more⟩⟩⟩
    · cases h
    · cases h
    · exact ⟨low, high, rfl⟩
    · cases h
  · right
    refine ⟨hbetween, List.length_eq_one_iff.mp ?_⟩
    cases operator with
    | between => exact absurd rfl hbetween
    | _ => exact h

theorem readCriterion_lexemes {criterion : Criterion} (hcomplete : Complete criterion)
    {rest : List Lexeme} (hrest : Closed rest) :
    readCriterion (criterionLexemes criterion ++ rest) = some (criterion, rest) := by
  have hvalues := hcomplete.values_eq
  obtain ⟨field, operator, values, ignoreCase⟩ := criterion
  have hcolumn := fun more =>
    readColumn_folded ignoreCase field (closed_operatorLexeme operator more)
  rcases hvalues with ⟨hoperator, low, high, hvalues⟩ | ⟨hoperator, value, hvalues⟩
  · have hlow : readOperand ignoreCase (folded ignoreCase (scalarLexeme low) ++
          .word "AND" :: (folded ignoreCase (scalarLexeme high) ++ rest)) =
        some (low, .word "AND" :: (folded ignoreCase (scalarLexeme high) ++ rest)) :=
      readOperand_folded ignoreCase low (closed_word _ _)
    have hhigh := readOperand_folded ignoreCase high hrest
    simp only at hoperator hvalues
    subst hoperator hvalues
    simp only [criterionLexemes, List.map_cons, List.map_nil, joined, List.append_assoc,
      List.cons_append]
    simp only [readCriterion, hcolumn, Option.bind_eq_bind, Option.bind_some,
      readOperator_operatorLexeme, hlow, hhigh, if_true]
    rfl
  · have hvalue := readOperand_folded ignoreCase value hrest
    simp only at hoperator hvalues
    subst hvalues
    simp only [criterionLexemes, List.map_cons, List.map_nil, joined, List.append_assoc,
      List.cons_append]
    simp only [readCriterion, hcolumn, Option.bind_eq_bind, Option.bind_some,
      readOperator_operatorLexeme, hvalue]
    cases operator with
    | between => exact absurd rfl hoperator
    | _ => rfl

theorem readSortKey_lexemes (key : SortKey) (rest : List Lexeme) :
    readSortKey (sortLexemes key ++ rest) = some (key, rest) := by
  obtain ⟨field, direction⟩ := key
  cases direction with
  | ascending => simp [sortLexemes, readSortKey, Direction.keyword]
  | descending => simp [sortLexemes, readSortKey, Direction.keyword]

theorem readCount_ofUInt64 (word : UInt64) (rest : List Lexeme) :
    readCount (.number (.ofUInt64 word) :: rest) = some (word, rest) := by
  have hword : UInt64.ofNat (Decimal.ofUInt64 word).magnitude = word := UInt64.ofNat_toNat
  simp only [readCount, hword, if_true]

/-!
## Items and clauses

Items are read one after the other as long as the separator stands between them. Behind the last one
stands something else, so reading stops there.
-/

theorem separated_joined {α : Type} {item : Reader α} {separator : Lexeme}
    {lexemes : α → List Lexeme} {ends : List Lexeme → Prop} {items : List α} {rest : List Lexeme}
    (hread : ∀ x ∈ items, ∀ rest, ends rest → item (lexemes x ++ rest) = some (x, rest))
    (hseparator : ∀ rest, ends (separator :: rest)) (hsome : items ≠ []) (hends : ends rest)
    (hrest : ∀ next ∈ rest.head?, next ≠ separator) :
    separated item separator (joined separator (items.map lexemes) ++ rest) =
      some (items, rest) := by
  induction items with
  | nil => exact absurd rfl hsome
  | cons first items ih =>
      cases items with
      | nil =>
          have hfirst := hread first (by simp) rest hends
          simp only [List.map_cons, List.map_nil, joined]
          rw [separated, hfirst]
          cases rest with
          | nil => rfl
          | cons next rest =>
              have hnext : next ≠ separator := hrest next (by simp)
              simp [hnext]
      | cons second items =>
          have hmore := ih (fun x hx => hread x (List.mem_cons_of_mem first hx)) (by simp)
          have hfirst := hread first (by simp)
            (separator :: (joined separator ((second :: items).map lexemes) ++ rest))
            (hseparator _)
          have hlength : (joined separator ((second :: items).map lexemes) ++ rest).length <
              (lexemes first ++
                separator :: (joined separator ((second :: items).map lexemes) ++ rest)).length := by
            simp only [List.length_append, List.length_cons]
            omega
          rw [List.map_cons] at hmore hfirst hlength
          simp only [List.map_cons, joined, List.append_assoc, List.cons_append]
          rw [separated, hfirst]
          simp only [hlength, and_self, dif_pos, hmore, Option.map_some]

theorem isPrefixOf?_cons_cons (keyword next : Lexeme) (keywords rest : List Lexeme) :
    (keyword :: keywords).isPrefixOf? (next :: rest) =
      if keyword == next then keywords.isPrefixOf? rest else none := rfl

theorem clauseOr_present {α : Type} (absent : α) (keywords : List Lexeme) (body : Reader α)
    (rest : List Lexeme) :
    clauseOr absent keywords body (keywords ++ rest) = body rest := by
  have hkeywords : keywords.isPrefixOf? (keywords ++ rest) = some rest := by
    induction keywords with
    | nil => rfl
    | cons keyword keywords ih =>
        rw [List.cons_append, isPrefixOf?_cons_cons, if_pos (beq_self_eq_true keyword), ih]
  simp only [clauseOr, hkeywords]

theorem clauseOr_absent {α : Type} (absent : α) {keyword : Lexeme} (keywords : List Lexeme)
    (body : Reader α) {lexemes : List Lexeme} (h : ∀ next ∈ lexemes.head?, next ≠ keyword) :
    clauseOr absent (keyword :: keywords) body lexemes = some (absent, lexemes) := by
  cases lexemes with
  | nil => rfl
  | cons next rest =>
      have hnext : keyword ≠ next := fun heq => h next (by simp) heq.symm
      simp [clauseOr, isPrefixOf?_cons_cons, hnext]

def Starts (words : List String) (lexemes : List Lexeme) : Prop :=
  ∀ next ∈ lexemes.head?, ∃ word ∈ words, next = .word word

theorem Starts.nil (words : List String) : Starts words [] := by
  intro next hnext
  cases hnext

theorem Starts.cons (word : String) (words : List String) (rest : List Lexeme) :
    Starts (word :: words) (.word word :: rest) := by
  intro next hnext
  cases hnext
  exact ⟨word, by simp, rfl⟩

theorem Starts.clause_append {words : List String} {rest : List Lexeme} (h : Starts words rest)
    (word : String) (keywords : List Lexeme) (content : Option (List Lexeme)) :
    Starts (word :: words) (Select.clauseLexemes (.word word :: keywords) content ++ rest) := by
  cases content with
  | none =>
      intro next hnext
      rcases h next hnext with ⟨found, hfound, heq⟩
      exact ⟨found, List.mem_cons_of_mem word hfound, heq⟩
  | some lexemes => exact Starts.cons word words _

theorem Starts.ne {words : List String} {lexemes : List Lexeme} (h : Starts words lexemes)
    {other : Lexeme} (hother : ∀ word ∈ words, .word word ≠ other) :
    ∀ next ∈ lexemes.head?, next ≠ other := by
  intro next hnext
  rcases h next hnext with ⟨word, hword, heq⟩
  rw [heq]
  exact hother word hword

theorem Starts.closed {words : List String} {lexemes : List Lexeme} (h : Starts words lexemes) :
    Closed lexemes :=
  h.ne fun _ _ => by simp

theorem clauseOr_items {α : Type} {item : Reader α} {separator keyword : Lexeme}
    {lexemes : α → List Lexeme} {items : List α} {rest : List Lexeme} (keywords : List Lexeme)
    (ends : List Lexeme → Prop)
    (hread : ∀ x ∈ items, ∀ rest, ends rest → item (lexemes x ++ rest) = some (x, rest))
    (hseparator : ∀ rest, ends (separator :: rest)) (hends : ends rest)
    (hrest : ∀ next ∈ rest.head?, next ≠ separator)
    (habsent : ∀ next ∈ rest.head?, next ≠ keyword) :
    clauseOr [] (keyword :: keywords) (separated item separator)
        (Select.clauseLexemes (keyword :: keywords) (joined? separator lexemes items) ++ rest) =
      some (items, rest) := by
  cases items with
  | nil => exact clauseOr_absent [] keywords _ habsent
  | cons first items =>
      simp only [joined?, List.isEmpty_cons, Bool.false_eq_true, if_false, Select.clauseLexemes,
        List.append_assoc]
      rw [clauseOr_present]
      exact separated_joined hread hseparator (by simp) hends hrest

theorem countClause_lexemes {keyword : Lexeme} (word : Option UInt64) {rest : List Lexeme}
    (habsent : ∀ next ∈ rest.head?, next ≠ keyword) :
    countClause keyword (Select.clauseLexemes [keyword]
        (word.map fun word => [.number (.ofUInt64 word)]) ++ rest) = some (word, rest) := by
  unfold countClause
  cases word with
  | none => exact clauseOr_absent none [] _ habsent
  | some word =>
      simp only [Option.map_some, Select.clauseLexemes, List.append_assoc]
      rw [clauseOr_present]
      simp only [List.cons_append, List.nil_append, readCount_ofUInt64, Option.map_some]

namespace Content

variable (content : Content)

theorem starts_window : Starts ["LIMIT", "OFFSET"] content.windowLexemes := by
  have hoffset : Starts ["OFFSET"] (Select.clauseLexemes [.word "OFFSET"]
      (content.offset.map fun word => [.number (.ofUInt64 word)]) ++ []) :=
    (Starts.nil []).clause_append "OFFSET" [] _
  rw [List.append_nil] at hoffset
  exact hoffset.clause_append "LIMIT" [] _

theorem starts_order : Starts ["ORDER", "LIMIT", "OFFSET"] content.orderLexemes :=
  content.starts_window.clause_append "ORDER" [.word "BY"] _

theorem starts_clauses : Starts ["WHERE", "ORDER", "LIMIT", "OFFSET"] content.clausesLexemes :=
  content.starts_order.clause_append "WHERE" [] _

theorem readClauses_lexemes (hcomplete : ∀ criterion ∈ content.filters, Complete criterion) :
    readClauses content.clausesLexemes =
      some ⟨content.filters, content.sorting, content.limit, content.offset⟩ := by
  have hfilters : clauseOr [] [.word "WHERE"] (separated readCriterion (.word "AND"))
      content.clausesLexemes = some (content.filters, content.orderLexemes) :=
    clauseOr_items [] Closed
      (fun criterion hcriterion _ hends => readCriterion_lexemes (hcomplete criterion hcriterion) hends)
      (closed_word "AND") content.starts_order.closed (content.starts_order.ne (by decide))
      (content.starts_order.ne (by decide))
  have hsorting : clauseOr [] [.word "ORDER", .word "BY"]
      (separated readSortKey (.symbol .comma)) content.orderLexemes =
        some (content.sorting, content.windowLexemes) :=
    clauseOr_items [.word "BY"] (fun _ => True)
      (fun key _ rest _ => readSortKey_lexemes key rest)
      (fun _ => trivial) trivial (content.starts_window.ne (by decide))
      (content.starts_window.ne (by decide))
  have hoffset : countClause (.word "OFFSET") (Select.clauseLexemes [.word "OFFSET"]
      (content.offset.map fun word => [.number (.ofUInt64 word)])) = some (content.offset, []) := by
    have hread : countClause (.word "OFFSET") (Select.clauseLexemes [.word "OFFSET"]
        (content.offset.map fun word => [.number (.ofUInt64 word)]) ++ []) =
          some (content.offset, []) := countClause_lexemes content.offset (by simp)
    rwa [List.append_nil] at hread
  have hlimit : countClause (.word "LIMIT") content.windowLexemes = some (content.limit,
      Select.clauseLexemes [.word "OFFSET"]
        (content.offset.map fun word => [.number (.ofUInt64 word)])) := by
    apply countClause_lexemes
    have hstarts := (Starts.nil []).clause_append "OFFSET" []
      (content.offset.map fun word => [.number (.ofUInt64 word)])
    rw [List.append_nil] at hstarts
    exact hstarts.ne (by decide)
  simp only [readClauses, hfilters, Option.bind_eq_bind, Option.bind_some, hsorting, hlimit,
    hoffset]
  rfl

/-!
## The whole statement
-/

theorem readColumns_lexemes (rest : List Lexeme) :
    readColumns (content.columnsLexemes ++ .word "FROM" :: rest) =
      some (content.columns, .word "FROM" :: rest) := by
  unfold columnsLexemes
  cases hcolumns : content.columns with
  | nil => rfl
  | cons first more =>
      have hread : separated readShown (.symbol .comma) (joined (.symbol .comma)
          ((first :: more).map Shown.lexemes) ++ .word "FROM" :: rest) =
            some (first :: more, .word "FROM" :: rest) :=
        separated_joined (fun shown _ rest hends => readShown_lexemes shown hends)
          (fun _ next hnext => by cases hnext; simp) (by simp) (closed_word "FROM" rest)
          (fun next hnext => by cases hnext; simp)
      rw [← hread]
      cases first <;> cases more <;> rfl

theorem readBody_lexemes (distinct : Bool)
    (hcomplete : ∀ criterion ∈ content.filters, Complete criterion) :
    readBody distinct content.bodyLexemes = some { content with distinct } := by
  have htable : readTable (.word "FROM" :: .word content.entity :: content.clausesLexemes) =
      some (content.entity, content.clausesLexemes) := by
    simp [readTable]
  simp only [readBody, bodyLexemes, readColumns_lexemes, Option.bind_eq_bind, Option.bind_some,
    htable, content.readClauses_lexemes hcomplete]
  rfl

end Content

/-!
A statement without `DISTINCT` may have a column of this name in front. Read with the keyword, its
next lexeme is a comma, which starts no column, or `FROM`. Then `FROM` would be the only column, so the
entity is called `FROM` too, and the keyword of the first clause would be the entity. But no clause
starts in the middle of another, so this is never read to the end.
-/

theorem readClauses_eq_none {next : Lexeme} (rest : List Lexeme)
    (h : ∀ word ∈ ["WHERE", "ORDER", "LIMIT", "OFFSET"], next ≠ .word word) :
    readClauses (next :: rest) = none := by
  have hhead : ∀ word ∈ ["WHERE", "ORDER", "LIMIT", "OFFSET"],
      ∀ first ∈ (next :: rest).head?, first ≠ .word word := by
    intro word hword first hfirst
    cases hfirst
    exact h word hword
  have hwhere := hhead "WHERE" (by simp)
  have horder := hhead "ORDER" (by simp)
  have hlimit := hhead "LIMIT" (by simp)
  have hoffset := hhead "OFFSET" (by simp)
  simp only [readClauses, countClause, clauseOr_absent _ _ _ hwhere, clauseOr_absent _ _ _ horder,
    clauseOr_absent _ _ _ hlimit, clauseOr_absent _ _ _ hoffset, Option.bind_eq_bind,
    Option.bind_some]
  rfl

theorem readCriterion_operatorLexeme (operator : Operator) (value : Scalar) (rest : List Lexeme) :
    readCriterion (operatorLexeme operator :: scalarLexeme value :: rest) = none := by
  have hclosed : Closed (scalarLexeme value :: rest) := by
    intro next hnext
    cases hnext
    exact scalarLexeme_ne_symbol value .openParen
  have hoperator : readOperator (scalarLexeme value :: rest) = none := by
    cases value with
    | string content => rfl
    | number value => rfl
    | boolean value => cases value <;> rfl
  -- `LIKE` and `BETWEEN` are words and could be columns, but behind them stands a literal
  have hword : ∀ name, readCriterion (.word name :: scalarLexeme value :: rest) = none := by
    intro name
    have hcolumn : readColumn (.word name :: scalarLexeme value :: rest) =
        some ((name, false), scalarLexeme value :: rest) := readColumn_folded false name hclosed
    simp only [readCriterion, hcolumn, Option.bind_eq_bind, Option.bind_some, hoperator]
    rfl
  cases operator with
  | like => exact hword "LIKE"
  | between => exact hword "BETWEEN"
  | _ => rfl

theorem operatorLexeme_ne_by (operator : Operator) : operatorLexeme operator ≠ .word "BY" := by
  cases operator <;> simp [operatorLexeme]

theorem readCount_operatorLexeme (operator : Operator) (rest : List Lexeme) :
    readCount (operatorLexeme operator :: rest) = none := by
  cases operator <;> rfl

/-!
A column may have the name of a keyword. The operator behind it tells that no clause starts there.
-/

section Column

variable (field : String) (operator : Operator) (value : Scalar) (rest : List Lexeme)

theorem head_column {other : String} (h : field ≠ other) :
    ∀ next ∈ (Lexeme.word field :: operatorLexeme operator :: scalarLexeme value :: rest).head?,
      next ≠ .word other := by
  intro next hnext
  cases hnext
  simpa using h

theorem readClauses_where : readClauses
    (.word "WHERE" :: operatorLexeme operator :: scalarLexeme value :: rest) = none := by
  have hnone := clauseOr_present [] [.word "WHERE"] (separated readCriterion (.word "AND"))
    (operatorLexeme operator :: scalarLexeme value :: rest)
  rw [separated, readCriterion_operatorLexeme] at hnone
  change clauseOr [] [.word "WHERE"] (separated readCriterion (.word "AND"))
    (.word "WHERE" :: operatorLexeme operator :: scalarLexeme value :: rest) = none at hnone
  simp only [readClauses, hnone, Option.bind_eq_bind, Option.bind_none]

theorem readClauses_order : readClauses
    (.word "ORDER" :: operatorLexeme operator :: scalarLexeme value :: rest) = none := by
  have hby : Lexeme.word "BY" ≠ operatorLexeme operator :=
    fun heq => operatorLexeme_ne_by operator heq.symm
  have hsorting : clauseOr [] [.word "ORDER", .word "BY"] (separated readSortKey (.symbol .comma))
      (.word "ORDER" :: operatorLexeme operator :: scalarLexeme value :: rest) =
        some ([], .word "ORDER" :: operatorLexeme operator :: scalarLexeme value :: rest) := by
    simp [clauseOr, isPrefixOf?_cons_cons, hby]
  have hhead := @head_column "ORDER" operator value rest
  simp only [readClauses, countClause,
    clauseOr_absent _ _ _ (hhead (by decide : "ORDER" ≠ "WHERE")), hsorting,
    clauseOr_absent _ _ _ (hhead (by decide : "ORDER" ≠ "LIMIT")),
    clauseOr_absent _ _ _ (hhead (by decide : "ORDER" ≠ "OFFSET")), Option.bind_eq_bind,
    Option.bind_some]
  rfl

theorem countClause_column : countClause (.word field)
    (.word field :: operatorLexeme operator :: scalarLexeme value :: rest) = none := by
  have hnone := clauseOr_present none [.word field]
    (fun lexemes => (readCount lexemes).map fun found => (some found.1, found.2))
    (operatorLexeme operator :: scalarLexeme value :: rest)
  rw [readCount_operatorLexeme] at hnone
  exact hnone

theorem readClauses_limit : readClauses
    (.word "LIMIT" :: operatorLexeme operator :: scalarLexeme value :: rest) = none := by
  have hhead := @head_column "LIMIT" operator value rest
  simp only [readClauses, clauseOr_absent _ _ _ (hhead (by decide : "LIMIT" ≠ "WHERE")),
    clauseOr_absent _ _ _ (hhead (by decide : "LIMIT" ≠ "ORDER")), countClause_column,
    Option.bind_eq_bind, Option.bind_some, Option.bind_none]

theorem readClauses_offset : readClauses
    (.word "OFFSET" :: operatorLexeme operator :: scalarLexeme value :: rest) = none := by
  have hhead := @head_column "OFFSET" operator value rest
  have hskip : countClause (.word "LIMIT")
      (.word "OFFSET" :: operatorLexeme operator :: scalarLexeme value :: rest) =
        some (none, .word "OFFSET" :: operatorLexeme operator :: scalarLexeme value :: rest) :=
    clauseOr_absent _ _ _ (hhead (by decide : "OFFSET" ≠ "LIMIT"))
  simp only [readClauses, clauseOr_absent _ _ _ (hhead (by decide : "OFFSET" ≠ "WHERE")),
    clauseOr_absent _ _ _ (hhead (by decide : "OFFSET" ≠ "ORDER")), hskip, countClause_column,
    Option.bind_eq_bind, Option.bind_some, Option.bind_none]

theorem readClauses_column : readClauses
    (.word field :: operatorLexeme operator :: scalarLexeme value :: rest) = none := by
  by_cases hwhere : field = "WHERE"
  · exact hwhere ▸ readClauses_where operator value rest
  by_cases horder : field = "ORDER"
  · exact horder ▸ readClauses_order operator value rest
  by_cases hlimit : field = "LIMIT"
  · exact hlimit ▸ readClauses_limit operator value rest
  by_cases hoffset : field = "OFFSET"
  · exact hoffset ▸ readClauses_offset operator value rest
  apply readClauses_eq_none
  simp [hwhere, horder, hlimit, hoffset]

end Column

theorem readClauses_criterionLexemes {criterion : Criterion} (hcomplete : Complete criterion)
    (rest : List Lexeme) : readClauses (criterionLexemes criterion ++ rest) = none := by
  have hvalues : ∃ value more, criterion.values = value :: more := by
    rcases hcomplete.values_eq with ⟨_, low, high, heq⟩ | ⟨_, value, heq⟩
    · exact ⟨low, [high], heq⟩
    · exact ⟨value, [], heq⟩
  rcases hvalues with ⟨value, more, hvalues⟩
  obtain ⟨field, operator, values, ignoreCase⟩ := criterion
  simp only at hvalues
  rw [hvalues]
  cases ignoreCase with
  | true => exact readClauses_eq_none _ (by decide)
  | false => cases more <;> exact readClauses_column field operator value _

namespace Content

variable {content : Content}

theorem readClauses_behind_keyword {keyword : String} {rest : List Lexeme}
    (hcomplete : ∀ criterion ∈ content.filters, Complete criterion)
    (h : content.clausesLexemes = .word keyword :: rest) : readClauses rest = none := by
  obtain ⟨distinct, columns, entity, filters, sorting, limit, offset⟩ := content
  cases filters with
  | cons first more =>
      have hfirst := hcomplete first (by simp)
      rcases joined_cons (.word "AND") (criterionLexemes first) (more.map criterionLexemes) with
        ⟨tail, htail⟩
      simp only [clausesLexemes, joined?, List.isEmpty_cons, Bool.false_eq_true, if_false,
        List.map_cons, htail, Select.clauseLexemes, List.cons_append, List.nil_append,
        List.append_assoc, List.cons.injEq] at h
      rw [← h.2]
      exact readClauses_criterionLexemes hfirst _
  | nil =>
      cases sorting with
      | cons key more =>
          cases h
          exact readClauses_eq_none _ (by decide)
      | nil =>
          cases limit with
          | some word =>
              cases h
              exact readClauses_eq_none _ (by simp)
          | none =>
              cases offset with
              | some word =>
                  cases h
                  exact readClauses_eq_none _ (by simp)
              | none => cases h

theorem readBody_comma (rest : List Lexeme) : readBody true (.symbol .comma :: rest) = none := by
  have hcolumns : readColumns (.symbol .comma :: rest) = none := by
    rw [readColumns]
    · rw [separated]
      rfl
    · intro tail heq
      cases heq
  simp only [readBody, hcolumns, Option.bind_eq_bind, Option.bind_none]

theorem readBody_table (hcomplete : ∀ criterion ∈ content.filters, Complete criterion) :
    readBody true (.word "FROM" :: .word content.entity :: content.clausesLexemes) = none := by
  have hitems : separated readShown (.symbol .comma)
      (joined (.symbol .comma) ([.field "FROM"].map Shown.lexemes) ++
        .word content.entity :: content.clausesLexemes) =
          some ([.field "FROM"], .word content.entity :: content.clausesLexemes) :=
    separated_joined (fun shown _ rest hends => readShown_lexemes shown hends)
      (fun _ next hnext => by cases hnext; simp) (by simp) (closed_word content.entity _)
      (fun next hnext => by cases hnext; simp)
  have hcolumns : readColumns (.word "FROM" :: .word content.entity :: content.clausesLexemes) =
      some ([.field "FROM"], .word content.entity :: content.clausesLexemes) := hitems
  have hbody : ((readTable (.word content.entity :: content.clausesLexemes)).bind
      fun found => readClauses found.2) = none := by
    cases hclauses : content.clausesLexemes with
    | nil => rfl
    | cons next rest =>
        rcases content.starts_clauses next (by simp [hclauses]) with ⟨keyword, _, hnext⟩
        rw [hnext] at hclauses ⊢
        have hrest := readClauses_behind_keyword hcomplete hclauses
        by_cases hentity : content.entity = "FROM"
        · simp [readTable, hentity, hrest]
        · simp [readTable, hentity]
  simp only [readBody, hcolumns, Option.bind_eq_bind, Option.bind_some]
  cases htable : readTable (.word content.entity :: content.clausesLexemes) with
  | none => rfl
  | some found =>
      rw [htable, Option.bind_some] at hbody
      simp only [Option.bind_some, hbody]
      rfl

theorem readBody_behind_distinct {rest : List Lexeme}
    (hcomplete : ∀ criterion ∈ content.filters, Complete criterion)
    (h : content.bodyLexemes = .word "DISTINCT" :: rest) : readBody true rest = none := by
  unfold bodyLexemes columnsLexemes at h
  cases hcolumns : content.columns with
  | nil =>
      rw [hcolumns] at h
      cases h
  | cons first more =>
      rw [hcolumns] at h
      cases first with
      | field name =>
          cases more with
          | nil =>
              cases h
              exact readBody_table hcomplete
          | cons second more =>
              cases h
              exact readBody_comma _
      | aggregate function field =>
          cases function <;> cases more <;> simp [Shown.lexemes, joined, AggregateFunction.sql] at h
      | count => cases more <;> simp [Shown.lexemes, joined] at h

/-- A statement is read back from its lexemes. -/
theorem ofLexemes?_lexemes (hcomplete : ∀ criterion ∈ content.filters, Complete criterion) :
    Content.ofLexemes? content.lexemes = some content := by
  have hselection : readSelection
      ((if content.distinct then [.word "DISTINCT"] else []) ++ content.bodyLexemes) =
        some content := by
    cases hdistinct : content.distinct with
    | true =>
        have hbody : readBody true content.bodyLexemes = some content := by
          rw [content.readBody_lexemes true hcomplete, ← hdistinct]
        simp [readSelection, hbody]
    | false =>
        have hbody : readBody false content.bodyLexemes = some content := by
          rw [content.readBody_lexemes false hcomplete, ← hdistinct]
        simp only [Bool.false_eq_true, if_false, List.nil_append]
        cases hlexemes : content.bodyLexemes with
        | nil =>
            rw [hlexemes] at hbody
            exact hbody
        | cons next rest =>
            rw [hlexemes] at hbody
            unfold readSelection
            rw [hbody]
            cases next with
            | word keyword =>
                by_cases hkeyword : keyword = "DISTINCT"
                · rw [hkeyword] at hlexemes
                  simp [hkeyword, readBody_behind_distinct hcomplete hlexemes]
                · simp [hkeyword]
            | text content => rfl
            | number value => rfl
            | symbol symbol => rfl
  simp only [lexemes, ofLexemes?, if_true, hselection]

end Content

end Sql
end TableQuery
