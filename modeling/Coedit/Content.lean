import Coedit.Style
import Coedit.Decimal.Shortest
import Coedit.Text.Blank

/-!
# Structured content

Tables and images that a member can insert, and what makes their parameters acceptable.
-/

namespace Coedit

structure TableParams where
  rows : Nat
  columns : Nat
  tableStyle : Option StyleId := none
  columnStyle : Option StyleId := none
  cellStyles : Option (List (List StyleId)) := none

structure ImageParams where
  href : String
  width : Float
  height : Float

inductive StructuredContent where
  | table (params : TableParams)
  | image (params : ImageParams)

inductive ContentFault where
  | emptyTable (rows columns : Nat)
  | cellShape (rows columns : Nat)
  | blankHref
  | imageSize (width height : Float)
  | noCursor

def ContentFault.message : ContentFault → String
  | .emptyTable rows columns =>
    "table needs at least one row and one column, got " ++ toString rows ++ "x" ++ toString columns
  | .cellShape rows columns =>
    "cell style matrix does not match a " ++ toString rows ++ "x" ++ toString columns ++ " table"
  | .blankHref => "image href is empty"
  | .imageSize width height =>
    "image size must be positive, got " ++ Decimal.plain width ++ "x" ++ Decimal.plain height
  | .noCursor => "there is no local cursor to insert at"

namespace StructuredContent

def kind : StructuredContent → String
  | .table _ => "table"
  | .image _ => "image"

def hasShape (rows columns : Nat) (cells : List (List StyleId)) : Bool :=
  cells.length == rows && cells.all (·.length == columns)

def isSize (x : Float) : Bool := x.isFinite && 0 < x

def validate : StructuredContent → Except ContentFault Unit
  | .table t =>
    if t.rows = 0 ∨ t.columns = 0 then .error (.emptyTable t.rows t.columns)
    else if t.cellStyles.all (hasShape t.rows t.columns) then .ok ()
    else .error (.cellShape t.rows t.columns)
  | .image i =>
    if Text.trim i.href = "" then .error .blankHref
    else if isSize i.width && isSize i.height then .ok ()
    else .error (.imageSize i.width i.height)

end StructuredContent

end Coedit
