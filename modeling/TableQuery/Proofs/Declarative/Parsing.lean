import TableQuery.Proofs.Declarative.Grammar
import TableQuery.Proofs.Outcome

/-!
# Parsing

Reading tokens one by one comes to a document just if the tokens are the yield of a derivation, and
then to the document that is derived. The states inside brackets go over a whole value, and over the
rest of a bracket, in the same way wherever they stand.
-/

namespace TableQuery
namespace Declarative

/-!
## Fields with repeated names

Setting the fields one after the other gives each name once, as merging them does.
-/

namespace Fields

theorem get?_cons (key : Key) (value : Value) (fields : Fields) (name : String) :
    get? ((key, value) :: fields) name = if key.name = name then some value else get? fields name := by
  simp only [get?, List.find?_cons]
  by_cases h : key.name = name
  · simp [h]
  · simp [h]

theorem get?_insert (key : Key) (value : Value) (fields : Fields) (name : String) :
    (fields.insert key value).get? name = if key.name = name then some value else fields.get? name := by
  induction fields with
  | nil => exact get?_cons key value [] name
  | cons field fields ih =>
      obtain ⟨key', value'⟩ := field
      by_cases h : key'.name = key.name
      · simp only [insert, h, if_true, get?_cons]
        by_cases hname : key.name = name
        · simp [hname]
        · simp [hname]
      · simp only [insert, h, if_false, get?_cons, ih]
        by_cases hname : key.name = name
        · have hne : key'.name ≠ name := fun heq => h (heq.trans hname.symm)
          simp [hname, hne]
        · simp [hname]

theorem filter_insert (key : Key) (value : Value) (fields : Fields) (name : String) :
    ((fields.insert key value).filter fun entry => entry.1.name ≠ name) =
      if key.name = name then fields.filter fun entry => entry.1.name ≠ name
      else insert key value (fields.filter fun entry => entry.1.name ≠ name) := by
  induction fields with
  | nil =>
      by_cases hname : key.name = name
      · simp [insert, hname]
      · simp [insert, hname]
  | cons field fields ih =>
      obtain ⟨key', value'⟩ := field
      by_cases h : key'.name = key.name
      · by_cases hname : key.name = name
        · simp [insert, h, hname]
        · simp [insert, h, hname]
      · by_cases hname : key.name = name
        · simp only [hname, if_true] at ih h ⊢
          simpa [insert, h, hname] using ih
        · simp only [hname, if_false] at ih ⊢
          by_cases hname' : key'.name = name
          · have hne : ¬ name = key.name := fun heq => hname heq.symm
            simpa [insert, hne, hname'] using ih
          · simpa [insert, h, hname'] using ih

theorem merged_concat (entries : List (Key × Value)) (key : Key) (value : Value) :
    merged (entries ++ [(key, value)]) = (merged entries).insert key value := by
  induction entries with
  | nil => rfl
  | cons entry entries ih =>
      obtain ⟨key', value'⟩ := entry
      simp only [List.cons_append, merged, ih, get?_insert, filter_insert, insert]
      by_cases h : key'.name = key.name
      · simp [h]
      · have hne : ¬ key.name = key'.name := fun heq => h heq.symm
        simp [h, hne]

theorem exists_key_of_mem_merged {entries : List (Key × Value)} {entry : Key × Value}
    (h : entry ∈ merged entries) : ∃ written ∈ entries, written.1 = entry.1 := by
  induction entries with
  | nil => cases h
  | cons first entries ih =>
      obtain ⟨key, value⟩ := first
      rcases List.mem_cons.mp h with rfl | hrest
      · exact ⟨(key, value), List.mem_cons_self, rfl⟩
      · rcases ih (List.mem_filter.mp hrest).1 with ⟨written, hwritten, hkey⟩
        exact ⟨written, List.mem_cons_of_mem _ hwritten, hkey⟩

def insertAll (fields : Fields) (entries : List (Key × Value)) : Fields :=
  entries.foldl (fun done entry => done.insert entry.1 entry.2) fields

theorem insertAll_cons (fields : Fields) (key : Key) (value : Value)
    (entries : List (Key × Value)) :
    fields.insertAll ((key, value) :: entries) = (fields.insert key value).insertAll entries :=
  rfl

theorem merged_append (done entries : List (Key × Value)) :
    merged (done ++ entries) = (merged done).insertAll entries := by
  induction entries generalizing done with
  | nil => rw [List.append_nil, insertAll, List.foldl_nil]
  | cons entry entries ih =>
      obtain ⟨key, value⟩ := entry
      rw [List.append_cons, ih, merged_concat, insertAll_cons]

theorem merged_eq_insertAll (entries : List (Key × Value)) : merged entries = insertAll [] entries :=
  merged_append [] entries

end Fields

/-!
## Runs

A run is the state behind some tokens, if none of them is refused. Reading fails for what has been
read and for the next token, and never for the tokens behind.
-/

namespace State

def run? (state : State) : List Token → Option State
  | [] => some state
  | token :: tokens => (state.step? token).bind fun next => next.run? tokens

theorem run?_cons {state next : State} {token : Token} (h : state.step? token = some next)
    (tokens : List Token) : state.run? (token :: tokens) = next.run? tokens := by
  rw [run?, h]
  rfl

theorem read_eq_ok_iff {state : State} {ending : Except Fault Span} {tokens : List Token}
    {document : Document} :
    state.read ending tokens = .ok document ↔
      (∃ span, ending = .ok span) ∧ state.run? tokens = some (.complete document) := by
  induction tokens generalizing state with
  | nil =>
      simp only [read, run?, Option.some.injEq]
      split
      · simp
      · simp
      · rename_i state span hstate
        simp only [Except.ok.injEq, exists_eq', true_and, reduceCtorEq, false_iff]
        exact hstate document
  | cons token tokens ih =>
      simp only [read, run?]
      cases state.step? token with
      | none => simp
      | some next => exact ih

theorem read_append {state last : State} {front : List Token} (h : state.run? front = some last)
    (ending : Except Fault Span) (back : List Token) :
    state.read ending (front ++ back) = last.read ending back := by
  induction front generalizing state with
  | nil =>
      cases h
      rfl
  | cons token front ih =>
      rcases Option.bind_eq_some_iff.mp h with ⟨next, hstep, hrest⟩
      rw [List.cons_append, read, hstep]
      exact ih hrest

theorem read_congr {state : State} {ending : Except Fault Span} (front : List Token)
    {back back' : List Token}
    (h : ∀ last, state.run? front = some last → last.read ending back = last.read ending back') :
    state.read ending (front ++ back) = state.read ending (front ++ back') := by
  induction front generalizing state with
  | nil => exact h state rfl
  | cons token front ih =>
      rw [List.cons_append, List.cons_append, read, read]
      cases hstep : state.step? token with
      | none => rfl
      | some next => exact ih fun last hlast => h last ((run?_cons hstep front).trans hlast)

theorem run?_cons_none {state : State} {token : Token} (h : state.step? token = none)
    (tokens : List Token) : state.run? (token :: tokens) = none := by
  rw [run?, h]
  rfl

theorem run?_cons_eq_some {state last : State} {token : Token} {tokens : List Token}
    (h : state.run? (token :: tokens) = some last) :
    ∃ next, state.step? token = some next ∧ next.run? tokens = some last :=
  Option.bind_eq_some_iff.mp h

/-!
## Over a derivation

A place waits for a value if the next token may start one. Then the tokens of a value lead to the
place where the value has been filled in.
-/

end State

/-- A place waits for the value of a hole. -/
inductive Awaits (outer : List Hole) : Place → Hole → Prop where
  | operand (opened : Span) (entries : Fields) (key : Key) :
    Awaits outer ⟨opened, .operand entries key, outer⟩ (.field opened entries key)
  | item (opened : Span) (entries : List Value) (comma : Bool) :
    Awaits outer ⟨opened, .items entries comma, outer⟩ (.item opened entries)

namespace State

variable {resource : Key}

theorem step?_value {place : Place} {hole : Hole} {outer : List Hole}
    (hawaits : Awaits outer place hole) {token : Token}
    (htoken : token.lexeme.startsValue = true) :
    (arguments resource place).step? token =
      (Place.value? hole outer token).map (arguments resource) := by
  obtain ⟨lexeme, span⟩ := token
  cases hawaits with
  | operand opened entries key => rfl
  | item opened entries comma =>
      cases lexeme with
      | mark mark => cases mark <;> first | rfl | cases htoken
      | _ => rfl

theorem run?_items_comma (opened : Span) (entries : List Value) (outer : List Hole)
    (comma : Option Span) (rest : List Token) :
    (arguments resource ⟨opened, .items entries true, outer⟩).run? (commaYield comma ++ rest) =
      (arguments resource ⟨opened, .items entries comma.isNone, outer⟩).run? rest := by
  cases comma <;> rfl

theorem run?_fields_comma (opened : Span) (entries : Fields) (outer : List Hole)
    (comma : Option Span) (rest : List Token) :
    (arguments resource ⟨opened, .fields entries true, outer⟩).run? (commaYield comma ++ rest) =
      (arguments resource ⟨opened, .fields entries comma.isNone, outer⟩).run? rest := by
  cases comma <;> rfl

mutual

theorem run?_value (tree : ValueTree) {place : Place} {hole : Hole} {outer : List Hole}
    (hawaits : Awaits outer place hole) (rest : List Token) :
    (arguments resource place).run? (tree.yield ++ rest) =
      (arguments resource (.leave tree.value hole outer)).run? rest := by
  cases tree with
  | text span content => exact run?_cons (step?_value hawaits rfl) rest
  | number span literal value => exact run?_cons (step?_value hawaits rfl) rest
  | word span name => exact run?_cons (step?_value hawaits rfl) rest
  | list opened items closed =>
      rcases run?_items items opened [] false (hole :: outer)
        (Mark.closeBracket.token closed :: rest) with ⟨comma, hitems⟩
      rw [ValueTree.yield, List.cons_append, List.append_assoc,
        run?_cons (step?_value hawaits rfl)]
      exact hitems
  | object opened fields closed =>
      rcases run?_fields fields opened [] false (hole :: outer)
        (Mark.closeBrace.token closed :: rest) with ⟨comma, hfields⟩
      rw [ValueTree.yield, List.cons_append, List.append_assoc,
        run?_cons (step?_value hawaits rfl), ValueTree.value, Fields.merged_eq_insertAll]
      exact hfields

theorem run?_items (items : ItemsTree) (opened : Span) (entries : List Value) (comma : Bool)
    (outer : List Hole) (rest : List Token) :
    ∃ comma' : Bool,
      (arguments resource ⟨opened, .items entries comma, outer⟩).run? (items.yield ++ rest) =
        (arguments resource ⟨opened, .items (entries ++ items.values) comma', outer⟩).run? rest := by
  cases items with
  | nil =>
      rw [ItemsTree.values, List.append_nil]
      exact ⟨comma, rfl⟩
  | cons item passed more =>
      rcases run?_items more opened (entries ++ [item.value]) passed.isNone outer rest with
        ⟨comma', hmore⟩
      refine ⟨comma', ?_⟩
      rw [ItemsTree.yield, List.append_assoc, List.append_assoc,
        run?_value item (.item opened entries comma)]
      simp only [Place.leave, Hole.opened, Hole.fill]
      rw [run?_items_comma, hmore, ItemsTree.values, List.append_assoc]
      rfl

theorem run?_fields (fields : FieldsTree) (opened : Span) (entries : Fields) (comma : Bool)
    (outer : List Hole) (rest : List Token) :
    ∃ comma' : Bool,
      (arguments resource ⟨opened, .fields entries comma, outer⟩).run? (fields.yield ++ rest) =
        (arguments resource
          ⟨opened, .fields (entries.insertAll fields.entries) comma', outer⟩).run? rest := by
  cases fields with
  | nil => exact ⟨comma, rfl⟩
  | cons key colon value passed more =>
      rcases run?_fields more opened (entries.insert key value.value) passed.isNone outer rest with
        ⟨comma', hmore⟩
      refine ⟨comma', ?_⟩
      have hkey : (arguments resource ⟨opened, .fields entries comma, outer⟩).step? key.token =
          some (arguments resource ⟨opened, .colon entries key, outer⟩) := rfl
      have hcolon : (arguments resource ⟨opened, .colon entries key, outer⟩).step?
          (Mark.colon.token colon) =
            some (arguments resource ⟨opened, .operand entries key, outer⟩) := rfl
      rw [FieldsTree.yield, List.cons_append, List.cons_append, List.append_assoc,
        List.append_assoc, run?_cons hkey, run?_cons hcolon,
        run?_value value (.operand opened entries key)]
      simp only [Place.leave, Hole.opened, Hole.fill]
      rw [run?_fields_comma, hmore, FieldsTree.entries, Fields.insertAll_cons]

end

theorem run?_selections (selections : List (Key × Option Span)) (entries : Fields)
    (before : List String) (comma : Bool) (rest : List Token) :
    ∃ comma' : Bool,
      (selecting resource entries before comma).run? (selectionsYield selections ++ rest) =
        (selecting resource entries (before ++ selections.map fun selection => selection.1.name)
          comma').run? rest := by
  induction selections generalizing before comma with
  | nil =>
      rw [List.map_nil, List.append_nil]
      exact ⟨comma, rfl⟩
  | cons selection more ih =>
      obtain ⟨key, passed⟩ := selection
      rcases ih (before ++ [key.name]) passed.isNone with ⟨comma', hmore⟩
      refine ⟨comma', ?_⟩
      have hcomma : (selecting resource entries (before ++ [key.name]) true).run?
          (commaYield passed ++ (selectionsYield more ++ rest)) =
            (selecting resource entries (before ++ [key.name]) passed.isNone).run?
              (selectionsYield more ++ rest) := by
        cases passed <;> rfl
      have hkey : (selecting resource entries before comma).step? key.token =
          some (selecting resource entries (before ++ [key.name]) true) := rfl
      rw [selectionsYield, List.cons_append, List.append_assoc, run?_cons hkey, hcomma, hmore,
        List.map_cons, List.append_assoc]
      rfl

theorem run?_bodyYield (tree : DocumentTree) (entries : Fields) :
    (selecting tree.resource entries [] false).run? (selectionsYield tree.selections ++
        [Mark.closeBrace.token tree.selected, Mark.closeBrace.token tree.closed]) =
      some (complete
        ⟨tree.resource, entries, tree.selections.map fun selection => selection.1.name⟩) := by
  rcases run?_selections tree.selections entries [] false
    [Mark.closeBrace.token tree.selected, Mark.closeBrace.token tree.closed] with ⟨comma, hrun⟩
  rw [hrun]
  rfl

theorem run?_yield (tree : DocumentTree) :
    start.run? tree.yield = some (complete tree.document) := by
  have hresource : start.run? tree.yield = (named tree.resource).run?
      ((tree.arguments.map ArgumentsTree.yield).getD [] ++ tree.bodyYield) := by
    unfold DocumentTree.yield
    cases tree.keyword <;> rfl
  rw [hresource]
  unfold DocumentTree.document
  cases tree.arguments with
  | none => exact run?_bodyYield tree []
  | some arguments =>
      rcases run?_fields arguments.fields arguments.opened [] false []
        (Mark.closeParen.token arguments.closed :: tree.bodyYield) with ⟨comma, hfields⟩
      rw [Option.map_some, Option.getD_some, ArgumentsTree.yield, List.cons_append,
        List.append_assoc, Option.map_some, Option.getD_some, Fields.merged_eq_insertAll]
      exact Eq.trans hfields (run?_bodyYield tree (Fields.insertAll [] arguments.fields.entries))

/-!
## Back to a derivation

A run that ends behind a whole document has left every bracket, so the tokens in each bracket are
derived from it.
-/

theorem run?_arguments_nil {place : Place} {document : Document} :
    (arguments resource place).run? [] ≠ some (complete document) := by
  intro h
  cases h

theorem exists_commaYield {state state' : State} {tokens : List Token} {last : State}
    (hcomma : ∀ span, state.step? (Mark.comma.token span) = some state')
    (hother : ∀ token, token.lexeme ≠ .mark .comma → state.step? token = state'.step? token)
    (hnil : state.run? [] ≠ some last) (h : state.run? tokens = some last) :
    ∃ comma rest, tokens = commaYield comma ++ rest ∧ state'.run? rest = some last := by
  cases tokens with
  | nil => exact absurd h hnil
  | cons token tokens =>
      obtain ⟨lexeme, span⟩ := token
      by_cases hlexeme : lexeme = .mark .comma
      · subst hlexeme
        exact ⟨some span, tokens, rfl, (run?_cons (hcomma span) tokens).symm.trans h⟩
      · refine ⟨none, ⟨lexeme, span⟩ :: tokens, rfl, ?_⟩
        rw [run?, ← hother ⟨lexeme, span⟩ hlexeme]
        exact h

theorem step?_items_of_ne_comma (opened : Span) (entries : List Value) (outer : List Hole)
    (token : Token) (h : token.lexeme ≠ .mark .comma) :
    (arguments resource ⟨opened, .items entries true, outer⟩).step? token =
      (arguments resource ⟨opened, .items entries false, outer⟩).step? token := by
  obtain ⟨lexeme, span⟩ := token
  cases lexeme with
  | mark mark =>
      cases mark with
      | comma => exact absurd rfl h
      | _ => cases outer <;> rfl
  | _ => rfl

theorem step?_fields_of_ne_comma (opened : Span) (entries : Fields) (outer : List Hole)
    (token : Token) (h : token.lexeme ≠ .mark .comma) :
    (arguments resource ⟨opened, .fields entries true, outer⟩).step? token =
      (arguments resource ⟨opened, .fields entries false, outer⟩).step? token := by
  obtain ⟨lexeme, span⟩ := token
  cases lexeme with
  | mark mark =>
      cases mark with
      | comma => exact absurd rfl h
      | _ => cases outer <;> rfl
  | _ => rfl

theorem exists_colon {document : Document} {opened : Span} {entries : Fields} {key : Key}
    {outer : List Hole} {tokens : List Token}
    (h : (arguments resource ⟨opened, .colon entries key, outer⟩).run? tokens =
      some (complete document)) :
    ∃ (colon : Span) (token : Token) (rest : List Token),
      tokens = Mark.colon.token colon :: token :: rest ∧ token.lexeme.startsValue = true ∧
        (arguments resource ⟨opened, .operand entries key, outer⟩).run? (token :: rest) =
          some (complete document) := by
  match tokens with
  | [] => exact absurd h run?_arguments_nil
  | ⟨lexeme, span⟩ :: behind =>
      rcases run?_cons_eq_some h with ⟨next, hstep, hvalue⟩
      by_cases hcolon : lexeme = .mark .colon
      · subst hcolon
        cases hstep
        match behind with
        | [] => exact absurd hvalue run?_arguments_nil
        | ⟨lexeme, span'⟩ :: rest =>
            refine ⟨span, ⟨lexeme, span'⟩, rest, rfl, ?_, hvalue⟩
            cases lexeme with
            | mark mark => cases mark <;> first | rfl | cases hvalue
            | _ => rfl
      · have hnone : (arguments resource ⟨opened, .colon entries key, outer⟩).step?
            ⟨lexeme, span⟩ = none := if_neg hcolon
        rw [hnone] at hstep
        cases hstep

/-- The mark that closes fields: a brace inside other brackets, else a parenthesis. -/
def fieldsCloser : List Hole → Mark
  | [] => .closeParen
  | _ :: _ => .closeBrace

mutual

theorem exists_value {place : Place} {hole : Hole} {outer : List Hole} {document : Document}
    (hawaits : Awaits outer place hole) (token : Token) (tokens : List Token)
    (htoken : token.lexeme.startsValue = true)
    (h : (arguments resource place).run? (token :: tokens) = some (complete document)) :
    ∃ (tree : ValueTree) (rest : List Token), token :: tokens = tree.yield ++ rest := by
  obtain ⟨lexeme, span⟩ := token
  rcases run?_cons_eq_some h with ⟨next, hstep, hnext⟩
  rw [step?_value hawaits htoken] at hstep
  cases lexeme with
  | text content => exact ⟨.text span content, tokens, rfl⟩
  | number literal value => exact ⟨.number span literal value, tokens, rfl⟩
  | word name => exact ⟨.word span name, tokens, rfl⟩
  | mark mark =>
      cases mark with
      | openBracket =>
          cases hstep
          rcases exists_items span [] (hole :: outer) tokens hnext with
            ⟨items, closed, rest, htokens⟩
          exact ⟨.list span items closed, rest, by simp [ValueTree.yield, htokens, Mark.token]⟩
      | openBrace =>
          cases hstep
          rcases exists_fields span [] (hole :: outer) tokens hnext with
            ⟨fields, closed, rest, htokens⟩
          exact ⟨.object span fields closed, rest,
            by simp [ValueTree.yield, htokens, Mark.token, fieldsCloser]⟩
      | _ => cases htoken
termination_by (tokens.length + 1, 0)

theorem exists_items {document : Document} (opened : Span) (entries : List Value)
    (outer : List Hole) (tokens : List Token)
    (h : (arguments resource ⟨opened, .items entries false, outer⟩).run? tokens =
      some (complete document)) :
    ∃ (items : ItemsTree) (closed : Span) (rest : List Token),
      tokens = items.yield ++ Mark.closeBracket.token closed :: rest := by
  match htokens : tokens with
  | [] => exact absurd h run?_arguments_nil
  | ⟨lexeme, span⟩ :: behind =>
      by_cases hstarts : lexeme.startsValue = true
      · rcases exists_value (.item opened entries false) ⟨lexeme, span⟩ behind hstarts h with
          ⟨item, rest, hitem⟩
        rw [hitem, run?_value item (.item opened entries false)] at h
        rcases exists_commaYield (fun _ => rfl) (step?_items_of_ne_comma opened _ outer)
          run?_arguments_nil h with ⟨comma, more, hcomma, hmore⟩
        have hlength : more.length < tokens.length := by
          rw [htokens, hitem, hcomma]
          exact item.length_lt_yield_append (commaYield comma) more
        rcases exists_items opened _ outer more hmore with ⟨items, closed, last, hlast⟩
        refine ⟨.cons item comma items, closed, last, ?_⟩
        rw [hitem, hcomma, hlast, ItemsTree.yield, List.append_assoc, List.append_assoc]
      · cases lexeme with
        | mark mark =>
            cases mark with
            | closeBracket => exact ⟨.nil, span, behind, rfl⟩
            | openBrace => exact absurd rfl hstarts
            | openBracket => exact absurd rfl hstarts
            | _ => cases h
        | _ => exact absurd rfl hstarts
termination_by (tokens.length, 1)

theorem exists_fields {document : Document} (opened : Span) (entries : Fields)
    (outer : List Hole) (tokens : List Token)
    (h : (arguments resource ⟨opened, .fields entries false, outer⟩).run? tokens =
      some (complete document)) :
    ∃ (fields : FieldsTree) (closed : Span) (rest : List Token),
      tokens = fields.yield ++ (fieldsCloser outer).token closed :: rest := by
  match htokens : tokens with
  | [] => exact absurd h run?_arguments_nil
  | ⟨lexeme, span⟩ :: behind =>
      cases lexeme with
      | word name =>
          rcases run?_cons_eq_some h with ⟨next, hstep, hcolon⟩
          cases hstep
          rcases exists_colon hcolon with ⟨colon, token, operand, hbehind, hstarts, hoperand⟩
          have hshorter : operand.length + 1 < tokens.length := by
            simp only [htokens, hbehind, List.length_cons]
            omega
          rcases exists_value (.operand opened entries ⟨name, span⟩) token operand hstarts
            hoperand with ⟨value, rest, hvalue⟩
          rw [hvalue, run?_value value (.operand opened entries ⟨name, span⟩)] at hoperand
          rcases exists_commaYield (fun _ => rfl) (step?_fields_of_ne_comma opened _ outer)
            run?_arguments_nil hoperand with ⟨comma, more, hcomma, hmore⟩
          have hlength : more.length < tokens.length := by
            have hyield := value.length_lt_yield_append (commaYield comma) more
            rw [← hcomma, ← hvalue, List.length_cons] at hyield
            exact Nat.lt_trans hyield hshorter
          rcases exists_fields opened _ outer more hmore with ⟨fields, closed, last, hlast⟩
          refine ⟨.cons ⟨name, span⟩ colon value comma fields, closed, last, ?_⟩
          rw [hbehind, hvalue, hcomma, hlast, FieldsTree.yield, List.cons_append, List.cons_append,
            List.append_assoc, List.append_assoc]
          rfl
      | mark mark =>
          cases mark with
          | closeBrace =>
              cases outer with
              | nil => cases h
              | cons hole outer => exact ⟨.nil, span, behind, rfl⟩
          | closeParen =>
              cases outer with
              | nil => exact ⟨.nil, span, behind, rfl⟩
              | cons hole outer => cases h
          | _ => cases h
      | _ => cases h
termination_by (tokens.length, 1)

end

theorem step?_selecting_of_ne_comma (entries : Fields) (before : List String) (token : Token)
    (h : token.lexeme ≠ .mark .comma) :
    (selecting resource entries before true).step? token =
      (selecting resource entries before false).step? token := by
  obtain ⟨lexeme, span⟩ := token
  cases lexeme with
  | mark mark =>
      cases mark with
      | comma => exact absurd rfl h
      | _ => rfl
  | _ => rfl

theorem length_le_commaYield_append (comma : Option Span) (rest : List Token) :
    rest.length ≤ (commaYield comma ++ rest).length := by
  rw [List.length_append]
  exact Nat.le_add_left _ _

theorem exists_closed {document document' : Document} {tokens : List Token}
    (h : (selected document').run? tokens = some (complete document)) :
    ∃ closed, tokens = [Mark.closeBrace.token closed] := by
  match tokens with
  | [] => cases h
  | ⟨lexeme, span⟩ :: behind =>
      cases lexeme with
      | mark mark =>
          cases mark with
          | closeBrace =>
              cases behind with
              | nil => exact ⟨span, rfl⟩
              | cons token behind => cases h
          | _ => cases h
      | _ => cases h

theorem exists_selections {document : Document} (entries : Fields) (before : List String)
    (tokens : List Token)
    (h : (selecting resource entries before false).run? tokens = some (complete document)) :
    ∃ (selections : List (Key × Option Span)) (selected closed : Span),
      tokens = selectionsYield selections ++
        [Mark.closeBrace.token selected, Mark.closeBrace.token closed] := by
  match htokens : tokens with
  | [] => cases h
  | ⟨lexeme, span⟩ :: behind =>
      cases lexeme with
      | word name =>
          rcases run?_cons_eq_some h with ⟨next, hstep, hbehind⟩
          cases hstep
          rcases exists_commaYield (fun _ => rfl) (step?_selecting_of_ne_comma entries _)
            (by intro hnil; cases hnil) hbehind with ⟨comma, more, hcomma, hmore⟩
          have hlength : more.length < tokens.length := by
            rw [htokens, hcomma]
            exact Nat.lt_succ_of_le (length_le_commaYield_append comma more)
          rcases exists_selections entries _ more hmore with ⟨selections, selected, closed, hlast⟩
          refine ⟨(⟨name, span⟩, comma) :: selections, selected, closed, ?_⟩
          rw [hcomma, hlast, selectionsYield, List.cons_append, List.append_assoc]
          rfl
      | mark mark =>
          cases mark with
          | closeBrace =>
              rcases run?_cons_eq_some h with ⟨next, hstep, hbehind⟩
              cases hstep
              rcases exists_closed hbehind with ⟨closed, hclosed⟩
              exact ⟨[], span, closed, by rw [hclosed]; rfl⟩
          | _ => cases h
      | _ => cases h
termination_by tokens.length

theorem exists_selecting {document : Document} {entries : Fields} {tokens : List Token}
    (h : (argued resource entries).run? tokens = some (complete document)) :
    ∃ (selecting : Span) (selections : List (Key × Option Span)) (selected closed : Span),
      tokens = Mark.openBrace.token selecting :: (selectionsYield selections ++
        [Mark.closeBrace.token selected, Mark.closeBrace.token closed]) := by
  match tokens with
  | [] => cases h
  | ⟨lexeme, span⟩ :: behind =>
      cases lexeme with
      | mark mark =>
          cases mark with
          | openBrace =>
              rcases exists_selections entries [] behind h with
                ⟨selections, selected, closed, hselections⟩
              exact ⟨span, selections, selected, closed, by rw [hselections]; rfl⟩
          | _ => cases h
      | _ => cases h

theorem exists_arguments {document : Document} {tokens : List Token}
    (h : (named resource).run? tokens = some (complete document)) :
    ∃ (arguments : Option ArgumentsTree) (selecting : Span)
      (selections : List (Key × Option Span)) (selected closed : Span),
      tokens = (arguments.map ArgumentsTree.yield).getD [] ++ Mark.openBrace.token selecting ::
        (selectionsYield selections ++
          [Mark.closeBrace.token selected, Mark.closeBrace.token closed]) := by
  match tokens with
  | [] => cases h
  | ⟨lexeme, span⟩ :: behind =>
      cases lexeme with
      | mark mark =>
          cases mark with
          | openBrace =>
              rcases exists_selections [] [] behind h with
                ⟨selections, selected, closed, hselections⟩
              exact ⟨none, span, selections, selected, closed, by rw [hselections]; rfl⟩
          | openParen =>
              have hplace : (State.arguments resource ⟨span, .fields [] false, []⟩).run? behind =
                  some (complete document) := h
              rcases exists_fields span [] [] behind hplace with ⟨fields, closed, rest, hfields⟩
              rcases run?_fields fields span [] false [] (Mark.closeParen.token closed :: rest) with
                ⟨comma, hrun⟩
              rw [hfields] at hplace
              rcases exists_selecting (hrun.symm.trans hplace) with
                ⟨selecting, selections, selected, last, hselecting⟩
              refine ⟨some ⟨span, fields, closed⟩, selecting, selections, selected, last, ?_⟩
              rw [hfields, hselecting, Option.map_some, Option.getD_some, ArgumentsTree.yield,
                List.cons_append, List.append_assoc]
              rfl
          | _ => cases h
      | _ => cases h

theorem exists_body {document : Document} (keyword : Option Span) (opened : Span)
    {tokens : List Token} (h : body.run? tokens = some (complete document)) :
    ∃ tree : DocumentTree,
      tree.yield = keywordYield keyword ++ Mark.openBrace.token opened :: tokens := by
  match tokens with
  | [] => cases h
  | ⟨lexeme, span⟩ :: behind =>
      cases lexeme with
      | word name =>
          rcases run?_cons_eq_some h with ⟨next, hstep, hbehind⟩
          cases hstep
          rcases exists_arguments hbehind with
            ⟨arguments, selecting, selections, selected, closed, harguments⟩
          rw [harguments]
          exact ⟨⟨keyword, opened, ⟨name, span⟩, arguments, selecting, selections, selected,
            closed⟩, rfl⟩
      | _ => cases h

theorem exists_yield {document : Document} {tokens : List Token}
    (h : start.run? tokens = some (complete document)) :
    ∃ tree : DocumentTree, tree.yield = tokens := by
  match tokens with
  | [] => cases h
  | ⟨lexeme, span⟩ :: behind =>
      cases lexeme with
      | word name =>
          by_cases hname : name = queryKeyword
          · subst hname
            rcases run?_cons_eq_some h with ⟨next, hstep, hbehind⟩
            cases hstep
            match behind with
            | [] => cases hbehind
            | ⟨lexeme, opened⟩ :: behind =>
                cases lexeme with
                | mark mark =>
                    cases mark with
                    | openBrace => exact exists_body (some span) opened hbehind
                    | _ => cases hbehind
                | _ => cases hbehind
          · have hnone : start.step? ⟨.word name, span⟩ = none := by
              unfold queryKeyword at hname
              simp [step?, hname]
            rw [run?_cons_none hnone] at h
            cases h
      | mark mark =>
          cases mark with
          | openBrace => exact exists_body none span h
          | _ => cases h
      | _ => cases h

end State

/-!
## Documents
-/

/-- A derivation of all the tokens of a text that is scanned to its end. -/
def Derives (text : String) (tree : DocumentTree) : Prop :=
  (Cursor.ofText text).tokens.1 = tree.yield ∧ ∃ span, (Cursor.ofText text).tokens.2 = .ok span

theorem Derives.of_toOption {text : String} {tree : DocumentTree} {span : Span}
    (htokens : (Cursor.ofText text).tokens.1 = tree.yield)
    (hending : (Cursor.ofText text).tokens.2.toOption = some span) : Derives text tree :=
  ⟨htokens, span, Outcome.eq_ok_of_toOption hending⟩

theorem Derives.unique {text : String} {tree tree' : DocumentTree} (h : Derives text tree)
    (h' : Derives text tree') : tree' = tree :=
  DocumentTree.yield_inj (h'.1.symm.trans h.1)

/-- A text is read as a document just if it has a derivation, and then as the document that is
derived. -/
theorem Document.ofText_eq_ok_iff {text : String} {document : Document} :
    Document.ofText text = .ok document ↔
      ∃ tree : DocumentTree, Derives text tree ∧ tree.document = document := by
  unfold Document.ofText
  rw [State.read_eq_ok_iff]
  constructor
  · rintro ⟨hending, hrun⟩
    rcases State.exists_yield hrun with ⟨tree, htree⟩
    rw [← htree, State.run?_yield] at hrun
    cases hrun
    exact ⟨tree, ⟨htree.symm, hending⟩, rfl⟩
  · rintro ⟨tree, ⟨htokens, hending⟩, hdocument⟩
    refine ⟨hending, ?_⟩
    rw [htokens, State.run?_yield, hdocument]

end Declarative
end TableQuery
