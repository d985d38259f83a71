import Coedit.Content
import Coedit.Wire.Style

/-!
# Structured content on the wire
-/

namespace Coedit.Wire

def readTableParams : Reader TableParams := fun v => do
  let fields ←
    readRecord ["rows", "columns", "table_style", "column_style", "cell_styles"] v
  let rows ← fields.get "rows" readWord
  let columns ← fields.get "columns" readWord
  let tableStyle ← fields.getOption "table_style" readStyleId
  let columnStyle ← fields.getOption "column_style" readStyleId
  let cellStyles ← fields.getOption "cell_styles" (readList (readList readStyleId))
  pure { rows, columns, tableStyle, columnStyle, cellStyles }

def ofTableParams (t : TableParams) : Value :=
  .object [("rows", ofWord t.rows), ("columns", ofWord t.columns),
    ("table_style", ofOption ofStyleId t.tableStyle),
    ("column_style", ofOption ofStyleId t.columnStyle),
    ("cell_styles", ofOption (ofList (ofList ofStyleId)) t.cellStyles)]

def readImageParams : Reader ImageParams := fun v => do
  let fields ← readRecord ["href", "width", "height"] v
  let href ← fields.get "href" readText
  let width ← fields.get "width" readFloat
  let height ← fields.get "height" readFloat
  pure { href, width, height }

def ofImageParams (i : ImageParams) : Value :=
  .object [("href", .text i.href), ("width", ofFloat i.width), ("height", ofFloat i.height)]

def readContent : Reader StructuredContent := fun v =>
  match readChoice v with
  | some ("Table", content) => (readTableParams content).map .table
  | some ("Image", content) => (readImageParams content).map .image
  | _ => none

def ofContent : StructuredContent → Value
  | .table t => .object [("Table", ofTableParams t)]
  | .image i => .object [("Image", ofImageParams i)]

end Coedit.Wire
