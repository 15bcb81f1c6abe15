/-!
# Names and literals

Names are written into statements as they are, so only plain ones may be written at all. Texts are
written between apostrophes, with every apostrophe inside doubled.
-/

namespace TableQuery
namespace Sql

def isNameStart (c : Char) : Bool :=
  c.isAlpha || c = '_'

def isNamePart (c : Char) : Bool :=
  c.isAlphanum || c = '_'

/-- Whether characters are a plain name: letters, digits and underscores of ASCII, and no digit in
front. -/
def isPlainChars : List Char → Bool
  | [] => false
  | c :: rest => isNameStart c && rest.all isNamePart

def isPlainName (name : String) : Bool :=
  isPlainChars name.toList

def doubled : List Char → List Char
  | [] => []
  | c :: rest => if c = '\'' then '\'' :: '\'' :: doubled rest else c :: doubled rest

def literal (content : String) : String :=
  String.ofList ('\'' :: doubled content.toList ++ ['\''])

end Sql
end TableQuery
