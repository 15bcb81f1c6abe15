import TableQuery.Fault
import TableQuery.Text.Blank
import TableQuery.Text.Width

/-!
# Reports

A fault that knows its source text and its place is shown with the lines it lies on, and with its
message under the place. Any other fault is shown as its message.
-/

namespace TableQuery
namespace Report

/-!
## Lines

A line ends behind its terminator, which belongs to it. A terminator at the end of the text opens no
further line, and a text without characters is one empty line.
-/

def isTerminator (c : Char) : Bool :=
  c = '\n' || c = '\r' || c = '\x0b' || c = '\x0c' || c = '\x85' || c = '\u2028' || c = '\u2029'

def splitLines : List Char → List (List Char)
  | [] => []
  | '\r' :: '\n' :: rest => ['\r', '\n'] :: splitLines rest
  | c :: rest =>
    if isTerminator c then [c] :: splitLines rest
    else
      match splitLines rest with
      | [] => [[c]]
      | line :: lines => (c :: line) :: lines

def linesOf (text : String) : List Char × List (List Char) :=
  match splitLines text.toList with
  | [] => ([], [])
  | line :: lines => (line, lines)

def columnOf : List Char → Nat → Nat
  | [], _ => 0
  | _ :: _, 0 => 0
  | c :: rest, bytes => columnOf rest (bytes - c.utf8Size) + 1

/-- A place in a text: the number of its line, the line itself, and the bytes of the line before the
place. -/
structure Place where
  number : Nat
  line : List Char
  bytes : Nat
deriving Repr

def Place.find (line : List Char) (lines : List (List Char)) (number : Nat) (bytes : Nat) : Place :=
  match lines with
  | [] => ⟨number, line, bytes⟩
  | next :: more =>
    if bytes < byteLength line then ⟨number, line, bytes⟩
    else find next more (number + 1) (bytes - byteLength line)

def placeOf (text : String) (bytes : Nat) : Place :=
  let (line, lines) := linesOf text
  .find line lines 1 bytes

def Place.column (place : Place) : Nat :=
  columnOf place.line place.bytes

/-!
## Cells

Lines are drawn without the blanks at their ends. A tab reaches to the next column that four
divides, any other blank takes one cell, and all other characters are as wide as they are.
-/

def cellsOf (c : Char) (column : Nat) : Nat :=
  if c = '\t' then (column / 4 + 1) * 4 - column
  else if Text.isBlank c then 1
  else Text.width c

def drawChar (c : Char) (column : Nat) : List Char :=
  if Text.isBlank c then List.replicate (cellsOf c column) ' ' else [c]

def drawLine (line : List Char) : List Char :=
  ((Text.trimEnd line).zipIdx).flatMap fun (c, column) => drawChar c column

/-- The number of cells of every column of a line, up to a number of columns. Behind the drawn text
a column has one cell. -/
def cells (line : List Char) (columns : Nat) : List Nat :=
  let drawn := (Text.trimEnd line).zipIdx.map fun (c, column) => cellsOf c column
  drawn.take columns ++ List.replicate (columns - drawn.length) 1

def fill (first : Char) (more : Char) : Nat → List Char
  | 0 => []
  | cells + 1 => first :: List.replicate cells more

def fillColumns (line : List Char) (columns : Nat) (draw : Nat → Char × Char) : List Char :=
  ((cells line columns).zipIdx).flatMap fun (count, column) =>
    let (first, more) := draw column
    fill first more count

/-!
## Margins

The margin is as wide as the largest line number of a report.
-/

structure Margin where
  width : Nat
deriving Repr

namespace Margin

def pad (margin : Margin) : String :=
  String.ofList (List.replicate (margin.width + 2) ' ')

def numbered (margin : Margin) (number : Nat) : String :=
  let digits := Nat.toDigits 10 number
  String.ofList (' ' :: List.replicate (margin.width - digits.length) ' ' ++ digits) ++ " │ "

def plain (margin : Margin) : String :=
  margin.pad ++ "│ "

def corner (margin : Margin) : String :=
  String.ofList (List.replicate (margin.width + 2) '─') ++ "╯"

end Margin

/-!
## Bodies
-/

/-- The body of a report on one line: the line, a bar under the columns of the label, and the
message under the middle of the bar. A label without columns has an upright in place of the bar. -/
def singleLine (margin : Margin) (message : String) (number : Nat) (line : List Char)
    (first last : Nat) : List String :=
  let middle := (first + last) / 2
  let bar (column : Nat) : Char × Char :=
    if column = middle then if first ≤ middle ∧ middle < last then ('┬', '─') else ('│', ' ')
    else if first ≤ column ∧ column < last then ('─', '─')
    else (' ', ' ')
  let arrow (column : Nat) : Char × Char :=
    if column = middle then ('╰', '─')
    else if middle < column then ('─', '─')
    else (' ', ' ')
  [ margin.numbered number ++ String.ofList (drawLine line),
    margin.plain ++ String.ofList (fillColumns line (last + 2) bar),
    margin.plain ++ String.ofList (fillColumns line (last + 2) arrow) ++ " " ++ message ]

/-- The body of a report on several lines: the first and the last line with an arrow along them, and
the message behind the end of the last line. The lines between are left out. -/
def severalLines (margin : Margin) (message : String) (first last : Place) : List String :=
  let columns := last.line.length + 2
  let between := if first.number + 1 < last.number then [margin.pad ++ "┆ ┆   "] else []
  [margin.numbered first.number ++ "╭─▶ " ++ String.ofList (drawLine first.line)] ++ between ++
  [ margin.numbered last.number ++ "├─▶ " ++ String.ofList (drawLine last.line),
    margin.plain ++ "│   " ++
      String.ofList (fillColumns last.line columns fun _ => (' ', ' ')),
    margin.plain ++ "╰───" ++
      String.ofList (fillColumns last.line columns fun _ => ('─', '─')) ++ " " ++ message ]

/-- The first position of a span as shown, and the position behind it. A span beyond the text is cut
at its end. -/
def shownRange (size : Nat) (span : Span) : Nat × Nat :=
  let start := min span.offset size
  (start, max (min span.stop size) start)

def reportLines (message : String) (source : Source) (span : Span) : List String :=
  let (start, stop) := shownRange source.text.utf8ByteSize span
  let first := placeOf source.text start
  let last := if start < stop then placeOf source.text (stop - 1) else first
  let margin : Margin := ⟨(Nat.toDigits 10 last.number).length⟩
  let body :=
    if first.number = last.number then
      let stopColumn := columnOf first.line (first.bytes + (stop - start))
      singleLine margin message first.number first.line first.column stopColumn
    else severalLines margin message first last
  [ "Error: " ++ message,
    margin.pad ++ "╭─[ " ++ source.name ++ ":" ++ first.number.repr ++ ":" ++
      (first.column + 1).repr ++ " ]",
    margin.pad ++ "│" ] ++ body ++ [margin.corner]

end Report

def Fault.report (fault : Fault) : String :=
  match fault.source, fault.span with
  | some source, some span =>
    String.join ((Report.reportLines fault.cause.message source span).map fun line => line ++ "\n")
  | _, _ => fault.cause.message

end TableQuery
