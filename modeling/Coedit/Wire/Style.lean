import Coedit.Style
import Coedit.Wire.Value

/-!
# Styles on the wire
-/

namespace Coedit.Wire

def readStyleId : Reader StyleId := fun v => (readText v).map StyleId.mk

def ofStyleId (id : StyleId) : Value := .text id.text

def styleFamilyNames : List (String × StyleFamily) :=
  [("Paragraph", .paragraph), ("Text", .text), ("Table", .table), ("TableColumn", .tableColumn),
    ("TableCell", .tableCell), ("Graphic", .graphic)]

def readStyleFamily : Reader StyleFamily := readName .json styleFamilyNames

def ofStyleFamily : StyleFamily → Value
  | .paragraph => .text "Paragraph"
  | .text => .text "Text"
  | .table => .text "Table"
  | .tableColumn => .text "TableColumn"
  | .tableCell => .text "TableCell"
  | .graphic => .text "Graphic"

theorem readStyleFamily_ofStyleFamily (f : StyleFamily) :
    readStyleFamily (ofStyleFamily f) = some f := by
  cases f <;> rfl

def readTextDict : Reader (Dict String String) := readDict readText

def ofTextDict (d : Dict String String) : Value := ofDict .text d

def readStyleDefinition : Reader StyleDefinition := fun v => do
  let fields ← readRecord ["attributes", "properties"] v
  let attributes ← fields.get "attributes" readTextDict
  let properties ← fields.get "properties" (readDict readTextDict)
  pure { attributes, properties }

def ofStyleDefinition (d : StyleDefinition) : Value :=
  .object [("attributes", ofTextDict d.attributes), ("properties", ofDict ofTextDict d.properties)]

end Coedit.Wire
