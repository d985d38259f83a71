import Coedit.Content
import Coedit.Member

/-!
# Documents

A document is a flat list of styled paragraphs with the styles, fonts and metadata that
belong to it, and the structured content that was inserted.
-/

namespace Coedit

abbrev ParagraphRef := Nat

structure Paragraph where
  id : ParagraphRef
  text : String
  style : StyleId
  deriving DecidableEq, Repr

structure Document where
  paragraphs : List Paragraph := []
  styles : Dict StyleId Style := ∅
  defaultStyle : StyleDefinition := {}
  fonts : Dict String String := ∅
  metadata : Dict String String := ∅
  inserted : List (StepPosition × StructuredContent) := []

namespace Document

def addParagraph (d : Document) (text : String) (style : StyleId) : Document :=
  { d with paragraphs := d.paragraphs ++ [{ id := d.paragraphs.length + 1, text, style }] }

def addCommonStyle (d : Document) (id : StyleId) (displayName : String) : Document :=
  { d with styles := d.styles.insert id (.common displayName) }

def addAutomaticStyle (d : Document) (id parent : StyleId) : Document :=
  { d with styles := d.styles.insert id { parent := some parent, automatic := true } }

/-- Changes the definition of an existing style, or of the default style. -/
def modifyDefinition (d : Document) (id : StyleId)
    (f : StyleDefinition → StyleDefinition) : Document :=
  if id.isDefault then { d with defaultStyle := f d.defaultStyle }
  else { d with styles := d.styles.modify id fun s => { s with definition := f s.definition } }

/-- Whether `id` names the default style or a style of the document. -/
def defines (d : Document) (id : StyleId) : Bool := id.isDefault || d.styles.contains id

/-- What the style itself sets, without its parents. -/
def definition? (d : Document) (id : StyleId) : Option StyleDefinition :=
  if id.isDefault then some d.defaultStyle else (d.styles.get? id).map (·.definition)

/-- The styles offered to users, in the order of their identifiers. A style without a name
of its own is offered under its identifier. -/
def paragraphStyles (d : Document) : List StyleSummary :=
  (d.styles.toList.filter fun (_, s) => !s.automatic).map fun (id, s) =>
    { id, displayName := (s.definition.attributes.get? displayNameKey).getD id.text }

end Document

end Coedit
