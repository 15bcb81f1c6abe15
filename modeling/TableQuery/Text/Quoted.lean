import TableQuery.Text.Parts
import TableQuery.Text.Printable

/-!
# Quoted text

A text between double quotes in which every character can be seen: quotes and backslashes stand
behind a backslash, the common controls have a letter, and any other character that cannot be shown
is written as its code point in hexadecimal.
-/

namespace TableQuery
namespace Text

def quotedChar (c : Char) : List Char :=
  if c = '\x00' then ['\\', '0']
  else if c = '\t' then ['\\', 't']
  else if c = '\r' then ['\\', 'r']
  else if c = '\n' then ['\\', 'n']
  else if c = '"' ∨ c = '\\' then ['\\', c]
  else if isPrintable c then [c]
  else ['\\', 'u', '\x7b'] ++ Nat.toDigits 16 c.toNat ++ ['\x7d']

def quoted (text : String) : String :=
  String.ofList ('"' :: text.toList.flatMap quotedChar ++ ['"'])

def quotedList (texts : List String) : String :=
  "[" ++ join ", " (texts.map quoted) ++ "]"

end Text
end TableQuery
