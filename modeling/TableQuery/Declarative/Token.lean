import TableQuery.Decimal
import TableQuery.Text.Span

/-!
# Tokens

The tokens of the declarative query language: words, quoted texts, numbers and punctuation marks,
each with the bytes it was read from.
-/

namespace TableQuery
namespace Declarative

inductive Mark where
  | openBrace
  | closeBrace
  | openParen
  | closeParen
  | openBracket
  | closeBracket
  | colon
  | comma
deriving DecidableEq, Repr

namespace Mark

def char : Mark → Char
  | openBrace => '\x7b'
  | closeBrace => '\x7d'
  | openParen => '('
  | closeParen => ')'
  | openBracket => '['
  | closeBracket => ']'
  | colon => ':'
  | comma => ','

def ofChar? : Char → Option Mark
  | '\x7b' => some openBrace
  | '\x7d' => some closeBrace
  | '(' => some openParen
  | ')' => some closeParen
  | '[' => some openBracket
  | ']' => some closeBracket
  | ':' => some colon
  | ',' => some comma
  | _ => none

theorem ofChar?_char (mark : Mark) : ofChar? mark.char = some mark := by
  cases mark <;> rfl

def name (mark : Mark) : String :=
  String.ofList ['\'', mark.char, '\'']

end Mark

/-- What a token says. A number keeps the literal it was read from. -/
inductive Lexeme where
  | word (name : String)
  | text (content : String)
  | number (literal : String) (value : Decimal)
  | mark (mark : Mark)
deriving DecidableEq, Repr

namespace Lexeme

def kind : Lexeme → String
  | word _ => "identifier"
  | text _ => "string"
  | number _ _ => "number"
  | mark m => m.name

def content : Lexeme → String
  | word name => name
  | text content => content
  | number literal _ => literal
  | mark _ => ""

end Lexeme

def endOfInput : String := "end of input"

structure Token where
  lexeme : Lexeme
  span : Span
deriving DecidableEq, Repr

inductive Expected where
  | word
  | value
  | mark (mark : Mark)
  | finish
deriving DecidableEq, Repr

def Expected.name : Expected → String
  | word => "identifier"
  | value => "value"
  | mark m => m.name
  | finish => endOfInput

end Declarative
end TableQuery
