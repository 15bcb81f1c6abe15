import TableQuery.Fault
import TableQuery.Decimal.Literal
import TableQuery.Text.Alphabetic
import TableQuery.Text.Numeric
import TableQuery.Text.Blank

/-!
# Scanning

A cursor stands in a source text between two characters. Its next item is a token, a fault of one
lexeme, or the end of the text. Blanks in front of an item are skipped, and every item but the end
takes at least one character, so scanning ends.
-/

namespace TableQuery
namespace Declarative

open Text (isAlphabetic isNumeric isBlank)

/-!
## Lexemes

The first character of a lexeme says what it is. The characters it takes and the characters it
leaves are the characters that were there.
-/

def isWordStart (c : Char) : Bool :=
  isAlphabetic c || c = '_'

def isWordPart (c : Char) : Bool :=
  isAlphabetic c || isNumeric c || c = '_'

def isNumberStart (c : Char) : Bool :=
  c.isDigit || c = '-'

def isNumberPart (c : Char) : Bool :=
  c.isDigit || c = '.'

structure Scanned where
  outcome : Except Cause Lexeme
  taken : List Char
  rest : List Char

structure TextBody where
  content : List Char
  taken : List Char
  rest : List Char

/-- Reads the body of a quoted text. A backslash stands for the character behind it. There is no
body if the closing quote is missing. -/
def TextBody.read? : List Char → Option TextBody
  | [] => none
  | '"' :: rest => some ⟨[], ['"'], rest⟩
  | ['\\'] => none
  | '\\' :: c :: rest =>
    (read? rest).map fun body => ⟨c :: body.content, '\\' :: c :: body.taken, body.rest⟩
  | c :: rest =>
    (read? rest).map fun body => ⟨c :: body.content, c :: body.taken, body.rest⟩

def scanText (rest : List Char) : Scanned :=
  match TextBody.read? rest with
  | some body => ⟨.ok (.text (.ofList body.content)), '"' :: body.taken, body.rest⟩
  | none => ⟨.error .unterminatedString, '"' :: rest, []⟩

def scanWord (c : Char) (rest : List Char) : Scanned :=
  let taken := c :: rest.takeWhile isWordPart
  ⟨.ok (.word (.ofList taken)), taken, rest.dropWhile isWordPart⟩

/-- Scans a number behind its first character. All digits and points are taken before they are read,
so a number with two points is one fault. -/
def scanNumber (c : Char) (rest : List Char) : Scanned :=
  let taken := c :: rest.takeWhile isNumberPart
  let literal := String.ofList taken
  let outcome :=
    match Decimal.ofChars? taken with
    | some value => .ok (.number literal value)
    | none => .error (.invalidNumber literal)
  ⟨outcome, taken, rest.dropWhile isNumberPart⟩

def scan (c : Char) (rest : List Char) : Scanned :=
  match Mark.ofChar? c with
  | some mark => ⟨.ok (.mark mark), [c], rest⟩
  | none =>
    if c = '"' then scanText rest
    else if isWordStart c then scanWord c rest
    else if isNumberStart c then scanNumber c rest
    else ⟨.error (.unexpectedCharacter c), [c], rest⟩

theorem TextBody.taken_append_rest {cs : List Char} {body : TextBody}
    (h : read? cs = some body) : body.taken ++ body.rest = cs := by
  fun_induction read? cs generalizing body with
  | case1 => simp at h
  | case2 rest =>
      simp only [Option.some.injEq] at h
      simp [← h]
  | case3 => simp at h
  | case4 c rest ih =>
      obtain ⟨inner, hinner, rfl⟩ := Option.map_eq_some_iff.1 h
      simp [ih hinner]
  | case5 c rest _ _ _ ih =>
      obtain ⟨inner, hinner, rfl⟩ := Option.map_eq_some_iff.1 h
      simp [ih hinner]

theorem taken_append_rest_scan (c : Char) (rest : List Char) :
    (scan c rest).taken ++ (scan c rest).rest = c :: rest := by
  unfold scan
  split
  · simp
  · split
    · rename_i hquote
      unfold scanText
      split
      · rename_i body hbody
        simp [TextBody.taken_append_rest hbody, hquote]
      · simp [hquote]
    · split
      · simp [scanWord, List.takeWhile_append_dropWhile]
      · split
        · simp [scanNumber, List.takeWhile_append_dropWhile]
        · simp

theorem length_rest_scan (c : Char) (rest : List Char) :
    (scan c rest).rest.length ≤ rest.length := by
  have hsome : 0 < (scan c rest).taken.length := by
    unfold scan scanText scanWord scanNumber
    repeat' split
    all_goals simp
  have hlength := congrArg List.length (taken_append_rest_scan c rest)
  simp only [List.length_append, List.length_cons] at hlength
  omega

/-!
## Cursors

The next item stands behind the blanks at a cursor. At the end of the text it is the end, again and
again, and every other item takes a character.
-/

structure Cursor where
  offset : Nat
  rest : List Char
deriving DecidableEq, Repr

inductive Item where
  | token (token : Token)
  | fault (fault : Fault)
  | finish (span : Span)
deriving DecidableEq, Repr

namespace Cursor

def ofText (text : String) : Cursor :=
  ⟨0, text.toList⟩

def skipBlanks (cursor : Cursor) : Cursor :=
  ⟨cursor.offset + byteLength (cursor.rest.takeWhile isBlank), cursor.rest.dropWhile isBlank⟩

def next (cursor : Cursor) : Item × Cursor :=
  let start := cursor.skipBlanks
  match start.rest with
  | [] => (.finish ⟨start.offset, 0⟩, start)
  | c :: rest =>
    let scanned := scan c rest
    let span : Span := ⟨start.offset, byteLength scanned.taken⟩
    let item :=
      match scanned.outcome with
      | .ok lexeme => .token ⟨lexeme, span⟩
      | .error cause => .fault (.located cause span)
    (item, ⟨span.stop, scanned.rest⟩)

theorem length_rest_skipBlanks (cursor : Cursor) :
    cursor.skipBlanks.rest.length ≤ cursor.rest.length :=
  (List.dropWhile_suffix isBlank).length_le

theorem length_rest_next {cursor after : Cursor} {item : Item}
    (h : cursor.next = (item, after)) (hitem : ∀ span, item ≠ .finish span) :
    after.rest.length < cursor.rest.length := by
  have hskip := cursor.length_rest_skipBlanks
  unfold next at h
  simp only at h
  split at h
  · simp only [Prod.mk.injEq] at h
    exact absurd h.1.symm (hitem _)
  · rename_i c rest hrest
    simp only [Prod.mk.injEq] at h
    rw [← h.2]
    have hscan := length_rest_scan c rest
    rw [hrest, List.length_cons] at hskip
    exact Nat.lt_of_le_of_lt hscan hskip

def tokens (cursor : Cursor) : List Token × Except Fault Span :=
  match _h : cursor.next with
  | (.finish span, _) => ([], .ok span)
  | (.fault fault, _) => ([], .error fault)
  | (.token token, after) =>
    let (tokens, ending) := after.tokens
    (token :: tokens, ending)
termination_by cursor.rest.length
decreasing_by exact length_rest_next _h (by simp)

end Cursor

end Declarative
end TableQuery
