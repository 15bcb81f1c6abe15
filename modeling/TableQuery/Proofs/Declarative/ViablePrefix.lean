import TableQuery.Proofs.Declarative.Acceptance
import TableQuery.Proofs.Declarative.Partition

/-!
# Viable prefixes

Tokens that have been read without a fault can always be completed to a document. So a text that is
refused for its syntax is refused at the first item that no document can have there: at a piece of
the text that is no token, at a token that cannot stand where it does, or at the end of the text.
-/

namespace TableQuery
namespace Declarative

/-- Tokens that a document can start with. -/
def Viable (tokens : List Token) : Prop :=
  ∃ (tree : DocumentTree) (rest : List Token), tree.yield = tokens ++ rest

/-!
## Brackets

Arguments are fields in parentheses. A list is always inside another bracket, because the outermost
bracket is that of the arguments. Every state that is reached keeps to this.
-/

/-- Open brackets, the innermost first, of which the outermost holds fields. -/
inductive Rooted : List Hole → Prop where
  | nil : Rooted []
  | field {outer : List Hole} (opened : Span) (entries : Fields) (key : Key) (h : Rooted outer) :
    Rooted (.field opened entries key :: outer)
  | item {hole : Hole} {outer : List Hole} (opened : Span) (entries : List Value)
    (h : Rooted (hole :: outer)) : Rooted (.item opened entries :: hole :: outer)

theorem Rooted.tail {hole : Hole} {outer : List Hole} (h : Rooted (hole :: outer)) :
    Rooted outer := by
  cases h with
  | field opened entries key h => exact h
  | item opened entries h => exact h

def Place.IsRooted (place : Place) : Prop :=
  match place.focus with
  | .items entries _ => Rooted (.item place.opened entries :: place.outer)
  | _ => Rooted place.outer

def State.IsRooted : State → Prop
  | .arguments _ place => place.IsRooted
  | _ => True

namespace Place

theorem isRooted_leave {hole : Hole} {outer : List Hole} (h : Rooted (hole :: outer))
    (value : Value) : (leave value hole outer).IsRooted := by
  cases hole with
  | field opened entries key => exact h.tail
  | item opened entries =>
      cases h with
      | item _ _ h => exact .item opened _ h

theorem isRooted_value? {hole : Hole} {outer : List Hole} (h : Rooted (hole :: outer))
    {token : Token} {place : Place} (hplace : value? hole outer token = some place) :
    place.IsRooted := by
  unfold value? at hplace
  split at hplace
  · cases hplace
    exact isRooted_leave h _
  · cases hplace
    exact isRooted_leave h _
  · cases hplace
    exact isRooted_leave h _
  · cases hplace
    exact h
  · cases hplace
    exact .item token.span [] h
  · cases hplace

end Place

namespace State

theorem isRooted_argument? {resource : Key} {place : Place} (h : place.IsRooted) {token : Token}
    {next : State} (hstep : argument? resource place token = some next) : next.IsRooted := by
  obtain ⟨opened, focus, outer⟩ := place
  cases focus with
  | fields entries comma =>
      simp only [argument?] at hstep
      split at hstep
      · cases hstep
        exact h
      · split at hstep
        · cases hstep
          exact h
        · cases hstep
      · cases hstep
        trivial
      · cases hstep
        exact Place.isRooted_leave h _
      · cases hstep
  | colon entries key =>
      simp only [argument?] at hstep
      split at hstep
      · cases hstep
        exact h
      · cases hstep
  | operand entries key =>
      rcases Option.map_eq_some_iff.mp hstep with ⟨found, hfound, heq⟩
      subst heq
      exact Place.isRooted_value? (.field opened entries key h) hfound
  | items entries comma =>
      simp only [argument?] at hstep
      split at hstep
      · split at hstep
        · cases hstep
          exact h
        · cases hstep
      · cases hstep
        exact Place.isRooted_leave h.tail _
      · rcases Option.map_eq_some_iff.mp hstep with ⟨found, hfound, heq⟩
        subst heq
        exact Place.isRooted_value? h hfound

theorem isRooted_step? {state next : State} (h : state.IsRooted) {token : Token}
    (hstep : state.step? token = some next) : next.IsRooted := by
  unfold step? at hstep
  split at hstep
  -- Only two cases have brackets: the one that opens the arguments and the one inside them.
  case h_5 resource =>
    cases hstep
    exact .nil
  case h_7 resource place => exact isRooted_argument? h hstep
  all_goals cases hstep
  all_goals trivial

theorem isRooted_run? {tokens : List Token} {state last : State} (h : state.IsRooted)
    (hrun : state.run? tokens = some last) : last.IsRooted := by
  induction tokens generalizing state with
  | nil =>
      cases hrun
      exact h
  | cons token tokens ih =>
      rcases run?_cons_eq_some hrun with ⟨next, hstep, hrest⟩
      exact ih (isRooted_step? h hstep) hrest

/-!
## Completion

From every state that is in order some tokens lead to a whole document. Inside the arguments they
put a word where a value is missing and close one bracket after the other.
-/

def Completes (state : State) : Prop :=
  ∃ tokens document, state.run? tokens = some (complete document)

theorem Completes.of_step? {state next : State} (token : Token)
    (hstep : state.step? token = some next) (h : next.Completes) : state.Completes := by
  rcases h with ⟨tokens, document, hrun⟩
  exact ⟨token :: tokens, document, (run?_cons hstep tokens).trans hrun⟩

theorem completes_selecting (resource : Key) (entries : Fields) (selections : List String)
    (comma : Bool) : (selecting resource entries selections comma).Completes :=
  ⟨[Mark.closeBrace.token default, Mark.closeBrace.token default],
    ⟨resource, entries, selections⟩, by cases comma <;> rfl⟩

theorem completes_argued (resource : Key) (entries : Fields) :
    (argued resource entries).Completes :=
  .of_step? (Mark.openBrace.token default) rfl (completes_selecting resource entries [] false)

theorem completes_leave (resource : Key) (outer : List Hole) {hole : Hole}
    (h : Rooted (hole :: outer)) (value : Value) :
    (arguments resource (.leave value hole outer)).Completes := by
  -- Each bracket that is closed is the value of the next one.
  induction outer generalizing hole value with
  | nil =>
      -- A list cannot be the outermost bracket, so the last one is that of the arguments.
      cases h with
      | field opened entries key _ =>
          exact .of_step? (Mark.closeParen.token default) rfl (completes_argued resource _)
  | cons next outer ih =>
      cases h with
      | field opened entries key h =>
          exact .of_step? (Mark.closeBrace.token default) rfl (ih h _)
      | item opened entries h =>
          exact .of_step? (Mark.closeBracket.token default) rfl (ih h _)

def wordToken : Token :=
  ⟨.word "x", default⟩

theorem completes_arguments (resource : Key) {place : Place} (h : place.IsRooted) :
    (arguments resource place).Completes := by
  obtain ⟨opened, focus, outer⟩ := place
  have hoperand : ∀ entries key, Rooted outer →
      (arguments resource ⟨opened, .operand entries key, outer⟩).Completes :=
    fun entries key h =>
      .of_step? wordToken rfl (completes_leave resource outer (.field opened entries key h) _)
  have hcolon : ∀ entries key, Rooted outer →
      (arguments resource ⟨opened, .colon entries key, outer⟩).Completes :=
    fun entries key h =>
      .of_step? (Mark.colon.token default) rfl (hoperand entries key h)
  cases focus with
  | fields entries comma => exact .of_step? wordToken rfl (hcolon entries _ h)
  | colon entries key => exact hcolon entries key h
  | operand entries key => exact hoperand entries key h
  | items entries comma =>
      exact .of_step? wordToken rfl (completes_leave resource outer h _)

theorem completes_of_isRooted {state : State} (h : state.IsRooted) : state.Completes := by
  have hnamed : ∀ resource, (named resource).Completes := fun resource =>
    .of_step? (Mark.openBrace.token default) rfl (completes_selecting resource [] [] false)
  have hbody : body.Completes := .of_step? wordToken rfl (hnamed _)
  cases state with
  | start => exact .of_step? (Mark.openBrace.token default) rfl hbody
  | keyword => exact .of_step? (Mark.openBrace.token default) rfl hbody
  | body => exact hbody
  | named resource => exact hnamed resource
  | arguments resource place => exact completes_arguments resource h
  | argued resource entries => exact completes_argued resource entries
  | selecting resource entries selections comma =>
      exact completes_selecting resource entries selections comma
  | selected document => exact ⟨[Mark.closeBrace.token default], document, rfl⟩
  | complete document => exact ⟨[], document, rfl⟩

/-!
## Runs and prefixes

Tokens are viable if a document can start with them. Reading goes on just as long as what has been
read is viable.
-/

theorem run?_append (state : State) (front back : List Token) :
    state.run? (front ++ back) = (state.run? front).bind fun last => last.run? back := by
  induction front generalizing state with
  | nil => rfl
  | cons token front ih =>
      cases hstep : state.step? token with
      | none =>
          rw [List.cons_append, run?_cons_none hstep, run?_cons_none hstep]
          rfl
      | some next => rw [List.cons_append, run?_cons hstep, run?_cons hstep, ih]

theorem exists_run?_iff_viable {tokens : List Token} :
    (∃ state, start.run? tokens = some state) ↔ Viable tokens := by
  constructor
  · intro h
    rcases h with ⟨state, hrun⟩
    have hrooted : start.IsRooted := trivial
    rcases completes_of_isRooted (isRooted_run? hrooted hrun) with ⟨rest, document, hrest⟩
    have hwhole : start.run? (tokens ++ rest) = some (complete document) := by
      rw [run?_append, hrun]
      exact hrest
    rcases exists_yield hwhole with ⟨tree, htree⟩
    exact ⟨tree, rest, htree⟩
  · intro h
    rcases h with ⟨tree, rest, htree⟩
    have hwhole := run?_yield tree
    rw [htree, run?_append] at hwhole
    rcases Option.bind_eq_some_iff.mp hwhole with ⟨state, hrun, _⟩
    exact ⟨state, hrun⟩

theorem not_viable_of_step? {tokens : List Token} {state : State} {token : Token}
    (hrun : start.run? tokens = some state) (hstep : state.step? token = none) :
    ¬ Viable (tokens ++ [token]) := by
  intro hviable
  rcases exists_run?_iff_viable.mpr hviable with ⟨last, hlast⟩
  rw [run?_append, hrun, Option.bind_some, run?_cons_none hstep] at hlast
  cases hlast

theorem exists_stuck {state : State} {ending : Except Fault Span} {tokens : List Token}
    {fault : Fault} (h : state.read ending tokens = .error fault) :
    ∃ done left last, tokens = done ++ left ∧ state.run? done = some last ∧
      last.read ending left = .error fault ∧ ∀ token ∈ left.head?, last.step? token = none := by
  induction tokens generalizing state with
  | nil => exact ⟨[], [], state, rfl, rfl, h, by simp⟩
  | cons token tokens ih =>
      cases hstep : state.step? token with
      | none => exact ⟨[], token :: tokens, state, rfl, rfl, h, by simpa using hstep⟩
      | some next =>
          simp only [read, hstep] at h
          rcases ih h with ⟨done, left, last, htokens, hrun, hread, hstuck⟩
          refine ⟨token :: done, left, last, ?_, ?_, hread, hstuck⟩
          · rw [htokens, List.cons_append]
          · rw [run?_cons hstep, hrun]

theorem read_nil_eq_error {state : State} {span : Span} {fault : Fault}
    (h : state.read (.ok span) [] = .error fault) :
    (∀ document, state ≠ complete document) ∧
      fault = .located (.unexpectedToken state.expected none) span := by
  simp only [read] at h
  split at h
  · rename_i hending
    cases hending
  · cases h
  · rename_i hending hincomplete
    cases hending
    cases h
    exact ⟨hincomplete, rfl⟩

end State

/-!
## Items

The tokens of a text are its items up to the first fault or the end of the text.
-/

def Item.ofEnding : Except Fault Span → Item
  | .ok span => .finish span
  | .error found => .fault found

namespace Cursor

theorem item_zero (cursor : Cursor) : cursor.item 0 = cursor.next.1 :=
  rfl

theorem item_of_getElem?_tokens {cursor : Cursor} {n : Nat} {token : Token}
    (h : cursor.tokens.1[n]? = some token) : cursor.item n = .token token := by
  induction n generalizing cursor with
  | zero =>
      rw [tokens_eq] at h
      rw [item_zero]
      split at h
      · cases h
      · cases h
      · rename_i hnext
        cases h
        rw [hnext]
  | succ n ih =>
      rw [tokens_eq] at h
      rw [item_succ]
      split at h
      · cases h
      · cases h
      · rename_i hnext
        rw [hnext]
        exact ih h

theorem item_length_tokens (cursor : Cursor) :
    cursor.item cursor.tokens.1.length = .ofEnding cursor.tokens.2 := by
  rw [tokens_eq]
  split
  · rename_i hnext
    exact congrArg Prod.fst hnext
  · rename_i hnext
    exact congrArg Prod.fst hnext
  · rename_i token after hnext
    have hshorter := length_rest_next hnext (by simp)
    rw [List.length_cons, item_succ, hnext]
    exact after.item_length_tokens
termination_by cursor.rest.length

theorem exists_located_of_item_eq_fault {cursor : Cursor} {n : Nat} {found : Fault}
    (h : cursor.item n = .fault found) :
    ∃ cause, found = .located cause (cursor.item n).span := by
  rw [h]
  rw [item] at h
  rcases (cursor.after n).next_cases with ⟨_, hnext⟩ | ⟨_, _, _, _, outcome, _, _, _, _, hnext⟩
  · rw [hnext] at h
    cases h
  · rw [hnext] at h
    cases outcome with
    | ok lexeme => cases h
    | error cause =>
        cases h
        exact ⟨cause, rfl⟩

theorem span_of_item_eq_fault {cursor : Cursor} {n : Nat} {found : Fault}
    (h : cursor.item n = .fault found) : found.span = some (cursor.item n).span := by
  rcases exists_located_of_item_eq_fault h with ⟨cause, hfound⟩
  rw [hfound]
  rfl

end Cursor

/-!
## The first item that cannot stand

A text that is no document has a first item that cannot stand behind the tokens before it, and its
fault is the one that is due for this item.
-/

/-- Behind some tokens an item cannot stand, with the fault that is due. It is a piece of the text
that is no token, a token that no document has there, or an end where no document ends. -/
inductive Offends (tokens : List Token) : Item → Fault → Prop where
  | scan (found : Fault) : Offends tokens (.fault found) found
  | token (found : Token) (expected : Expected) (h : ¬ Viable (tokens ++ [found])) :
    Offends tokens (.token found)
      (.located (.unexpectedToken expected (some found.lexeme)) found.span)
  | finish (span : Span) (expected : Expected) (h : ∀ tree : DocumentTree, tree.yield ≠ tokens) :
    Offends tokens (.finish span) (.located (.unexpectedToken expected none) span)

theorem Offends.span_eq {tokens : List Token} {cursor : Cursor} {n : Nat} {fault : Fault}
    (h : Offends tokens (cursor.item n) fault) : fault.span = some (cursor.item n).span := by
  generalize hitem : cursor.item n = item at h
  cases h with
  | scan =>
      rw [← hitem]
      exact Cursor.span_of_item_eq_fault hitem
  | token found expected _ => rfl
  | finish span expected _ => rfl

theorem Document.exists_offends {text : String} {fault : Fault}
    (h : Document.ofText text = .error fault) :
    ∃ tokens : List Token,
      (∀ n token, tokens[n]? = some token → (Cursor.ofText text).item n = .token token) ∧
      Viable tokens ∧ Offends tokens ((Cursor.ofText text).item tokens.length) fault := by
  rcases State.exists_stuck h with ⟨done, left, last, htokens, hrun, hread, hstuck⟩
  have hviable : Viable done := State.exists_run?_iff_viable.mp ⟨last, hrun⟩
  refine ⟨done, ?_, hviable, ?_⟩
  · intro n token hn
    apply Cursor.item_of_getElem?_tokens
    rw [htokens, List.getElem?_append_left (List.getElem?_eq_some_iff.mp hn).1]
    exact hn
  cases left with
  | nil =>
      rw [List.append_nil] at htokens
      rw [← htokens, Cursor.item_length_tokens, htokens]
      cases hending : (Cursor.ofText text).tokens.2 with
      | error found =>
          rw [hending] at hread
          cases hread
          exact .scan fault
      | ok span =>
          rw [hending] at hread
          rcases State.read_nil_eq_error hread with ⟨hincomplete, hfault⟩
          rw [hfault]
          apply Offends.finish
          intro tree htree
          rw [← htree, State.run?_yield, Option.some.injEq] at hrun
          exact hincomplete tree.document hrun.symm
  | cons token left =>
      have hnone : last.step? token = none := hstuck token rfl
      have hitem : (Cursor.ofText text).item done.length = .token token := by
        apply Cursor.item_of_getElem?_tokens
        simp [htokens]
      rw [hitem]
      simp only [State.read, hnone] at hread
      cases hread
      exact .token token last.expected (State.not_viable_of_step? hrun hnone)

/-- A fault is that of the item behind some tokens of a text. A document can start with the tokens,
and none can go on with the item. -/
structure EarliestFault (text : String) (tokens : List Token) (fault : Fault) : Prop where
  items : ∀ n token, tokens[n]? = some token → (Cursor.ofText text).item n = .token token
  viable : Viable tokens
  offends : ∃ cause, Offends tokens ((Cursor.ofText text).item tokens.length) cause ∧
    fault = cause.attach (Query.source text)
  span : fault.span = some ((Cursor.ofText text).item tokens.length).span

namespace Query

theorem ofText_eq_syntactic {text : String} {fault : Fault} (h : ofText text = .error fault)
    (hsyntactic : IsSyntactic fault) :
    ∃ cause, Document.ofText text = .error cause ∧ fault = cause.attach (source text) := by
  cases hdocument : Document.ofText text with
  | error cause =>
      unfold ofText at h
      rw [hdocument] at h
      cases h
      exact ⟨cause, rfl, rfl⟩
  | ok document =>
      rcases Document.ofText_eq_ok_iff.mp hdocument with ⟨tree, hderives, _⟩
      rw [ofText_of_derives hderives] at h
      cases hmeaning : ofDocument tree.document with
      | ok query =>
          rw [hmeaning] at h
          cases h
      | error cause =>
          rw [hmeaning] at h
          cases h
          have hsemantic : IsSemantic cause := failsIn_ofDocument tree.document cause hmeaning
          cases hsemantic.symm.trans hsyntactic

/-- A text that is refused for its syntax is refused at the earliest place. -/
theorem exists_earliestFault {text : String} {fault : Fault} (h : ofText text = .error fault)
    (hsyntactic : IsSyntactic fault) : ∃ tokens, EarliestFault text tokens fault := by
  rcases ofText_eq_syntactic h hsyntactic with ⟨cause, hcause, hfault⟩
  rcases Document.exists_offends hcause with ⟨tokens, hitems, hviable, hoffends⟩
  refine ⟨tokens, hitems, hviable, ⟨cause, hoffends, hfault⟩, ?_⟩
  rw [hfault]
  exact hoffends.span_eq

def crowdedText : String := "\x7ba b \""

theorem exists_earliestFault_crowded :
    ∃ fault, ofText crowdedText = .error fault ∧ IsSyntactic fault ∧ fault.span = some ⟨3, 1⟩ ∧
      ∃ tokens, EarliestFault crowdedText tokens fault := by
  have htokens : (Cursor.ofText crowdedText).tokens.1 =
      [Mark.openBrace.token ⟨0, 1⟩, ⟨.word "a", ⟨1, 1⟩⟩, ⟨.word "b", ⟨3, 1⟩⟩] := by
    decide +kernel
  have hfault : ofText crowdedText = .error
      ((Fault.located (.unexpectedToken (.mark .openBrace) (some (.word "b"))) ⟨3, 1⟩).attach
        (source crowdedText)) := by
    have hdocument : Document.ofText crowdedText =
        State.start.read (Cursor.ofText crowdedText).tokens.2
          (Cursor.ofText crowdedText).tokens.1 := rfl
    unfold ofText
    rw [hdocument, htokens]
    rfl
  exact ⟨_, hfault, rfl, rfl, exists_earliestFault hfault rfl⟩

end Query

end Declarative
end TableQuery
