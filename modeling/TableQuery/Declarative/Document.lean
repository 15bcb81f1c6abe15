import TableQuery.Declarative.Cursor

/-!
# Documents

A document names one resource, gives it arguments and selects fields of it:

* a document is an optional word `query`, an opening brace, a word, optional arguments in
  parentheses, selections in braces and a closing brace;
* an argument, and likewise a field of an object, is a word, a colon and a value;
* a value is a quoted text, a number, a word, values in brackets or fields in braces;
* a comma may stand behind every selection, argument, field and item.

Tokens are read one by one. What has been read is a state, and a token either leads to the next
state or is refused because the state waits for something else. Open brackets are kept as a stack of
holes, each the place where the value of the next inner bracket goes.
-/

namespace TableQuery
namespace Declarative

structure Document where
  resource : Key
  arguments : Fields
  selections : List String
deriving Inhabited

/-!
## Inside the arguments

The innermost open bracket is in focus, and the brackets around it wait for its value. A value that
is complete is filled into the hole of the next outer bracket.
-/

/-- The innermost open bracket, and how far it has been read. A comma is welcome just after an
entry. -/
inductive Focus where
  | fields (entries : Fields) (comma : Bool)
  | colon (entries : Fields) (key : Key)
  | operand (entries : Fields) (key : Key)
  | items (entries : List Value) (comma : Bool)

inductive Hole where
  | field (opened : Span) (entries : Fields) (key : Key)
  | item (opened : Span) (entries : List Value)

/-- A place inside the arguments: where the innermost bracket was opened, how far it has been read,
and the brackets around it, the innermost first. -/
structure Place where
  opened : Span
  focus : Focus
  outer : List Hole

namespace Hole

def opened : Hole → Span
  | field opened _ _ => opened
  | item opened _ => opened

def fill (value : Value) : Hole → Focus
  | field _ entries key => .fields (entries.insert key value) true
  | item _ entries => .items (entries ++ [value]) true

end Hole

namespace Place

def expected (place : Place) : Expected :=
  match place.focus with
  | .fields _ _ => .word
  | .colon _ _ => .mark .colon
  | .operand _ _ => .value
  | .items _ _ => .value

def leave (value : Value) (hole : Hole) (outer : List Hole) : Place :=
  ⟨hole.opened, hole.fill value, outer⟩

def value? (hole : Hole) (outer : List Hole) (token : Token) : Option Place :=
  match token.lexeme with
  | .text content => some (leave (.string token.span content) hole outer)
  | .number _ value => some (leave (.number token.span value) hole outer)
  | .word name => some (leave (.ofWord token.span name) hole outer)
  | .mark .openBrace => some ⟨token.span, .fields [] false, hole :: outer⟩
  | .mark .openBracket => some ⟨token.span, .items [] false, hole :: outer⟩
  | .mark _ => none

end Place

/-!
## States

A state is what has been read of a document in front of the next token, and it knows what it waits
for.
-/

inductive State where
  | start
  | keyword
  | body
  | named (resource : Key)
  | arguments (resource : Key) (place : Place)
  | argued (resource : Key) (entries : Fields)
  | selecting (resource : Key) (entries : Fields) (selections : List String) (comma : Bool)
  | selected (document : Document)
  | complete (document : Document)

namespace State

def expected : State → Expected
  | start | keyword | named _ | argued _ _ => .mark .openBrace
  | body | selecting _ _ _ _ => .word
  | arguments _ place => place.expected
  | selected _ => .mark .closeBrace
  | complete _ => .finish

def argument? (resource : Key) (place : Place) (token : Token) : Option State :=
  let inside (place : Place) : State := .arguments resource place
  match place.focus with
  | .fields entries comma =>
    match token.lexeme, place.outer with
    | .word name, _ => some (inside { place with focus := .colon entries ⟨name, token.span⟩ })
    | .mark .comma, _ =>
      if comma then some (inside { place with focus := .fields entries false }) else none
    | .mark .closeParen, [] => some (.argued resource entries)
    | .mark .closeBrace, hole :: outer =>
      some (inside (.leave (.object (place.opened.cover token.span) entries) hole outer))
    | _, _ => none
  | .colon entries key =>
    if token.lexeme = .mark .colon then
      some (inside { place with focus := .operand entries key })
    else none
  | .operand entries key =>
    (Place.value? (.field place.opened entries key) place.outer token).map inside
  | .items entries comma =>
    match token.lexeme, place.outer with
    | .mark .comma, _ =>
      if comma then some (inside { place with focus := .items entries false }) else none
    | .mark .closeBracket, hole :: outer =>
      some (inside (.leave (.list (place.opened.cover token.span) entries) hole outer))
    | _, _ => (Place.value? (.item place.opened entries) place.outer token).map inside

def step? (state : State) (token : Token) : Option State :=
  match state, token.lexeme with
  | start, .word "query" => some keyword
  | start, .mark .openBrace => some body
  | keyword, .mark .openBrace => some body
  | body, .word name => some (named ⟨name, token.span⟩)
  | named resource, .mark .openParen => some (arguments resource ⟨token.span, .fields [] false, []⟩)
  | named resource, .mark .openBrace => some (selecting resource [] [] false)
  | arguments resource place, _ => argument? resource place token
  | argued resource entries, .mark .openBrace => some (selecting resource entries [] false)
  | selecting resource entries selections _, .word name =>
    some (selecting resource entries (selections ++ [name]) true)
  | selecting resource entries selections true, .mark .comma =>
    some (selecting resource entries selections false)
  | selecting resource entries selections _, .mark .closeBrace =>
    some (selected ⟨resource, entries, selections⟩)
  | selected document, .mark .closeBrace => some (complete document)
  | _, _ => none

end State

/-- Reads the tokens of a document up to the end of the text or a fault of the text. The first token
that is refused is the fault of the document. -/
def State.read (state : State) (ending : Except Fault Span) : List Token → Except Fault Document
  | [] =>
    match ending, state with
    | .error fault, _ => .error fault
    | .ok _, .complete document => .ok document
    | .ok span, _ => .error (.located (.unexpectedToken state.expected none) span)
  | token :: tokens =>
    match state.step? token with
    | some next => next.read ending tokens
    | none => .error (.located (.unexpectedToken state.expected (some token.lexeme)) token.span)

def Document.ofText (text : String) : Except Fault Document :=
  let (tokens, ending) := (Cursor.ofText text).tokens
  State.start.read ending tokens

end Declarative
end TableQuery
