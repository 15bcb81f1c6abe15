import TableQuery.Text.Ranges

/-!
# Blanks

The characters with the Unicode property White_Space, and text without the blanks at its ends.
-/

namespace TableQuery
namespace Text

/-- Code points with the property White_Space. -/
def blanks : Ranges :=
  [(0x9, 0xD), (0x20, 0x20), (0x85, 0x85), (0xA0, 0xA0), (0x1680, 0x1680), (0x2000, 0x200A),
   (0x2028, 0x2029), (0x202F, 0x202F), (0x205F, 0x205F), (0x3000, 0x3000)]

def isBlank (c : Char) : Bool :=
  blanks.has c

def trimEnd (cs : List Char) : List Char :=
  (cs.reverse.dropWhile isBlank).reverse

def trim (cs : List Char) : List Char :=
  trimEnd (cs.dropWhile isBlank)

def trimmed (text : String) : String :=
  String.ofList (trim text.toList)

end Text
end TableQuery
