/-!
# Lines

A line ends at a line feed, which may follow a carriage return; what stands after the last
line feed is a line of its own if it is not empty.
-/

namespace Coedit.Text

/-- Drops the carriage return at the end of a line, given backwards. -/
def dropReturn : List Char → List Char
  | '\r' :: line => line
  | line => line

def linesFrom (line : List Char) : List Char → List (List Char)
  | [] => if line.isEmpty then [] else [line.reverse]
  | '\n' :: rest => (dropReturn line).reverse :: linesFrom [] rest
  | c :: rest => linesFrom (c :: line) rest

def lines (s : String) : List String := (linesFrom [] s.toList).map String.ofList

/-- A text cut after each line feed, the line feeds kept. -/
def keptLinesFrom (line : List UInt8) : List UInt8 → List (List UInt8)
  | [] => if line.isEmpty then [] else [line.reverse]
  | b :: rest =>
    if b == 10 then (b :: line).reverse :: keptLinesFrom [] rest
    else keptLinesFrom (b :: line) rest

end Coedit.Text
