import Coedit.Document.Basic

/-!
# Building documents

A document can be put together step by step. Steps that name a missing style do nothing.
-/

namespace Coedit

inductive BuildStep where
  | paragraph (text : String) (style : StyleId)
  | commonStyle (id : StyleId) (displayName : String)
  | automaticStyle (id parent : StyleId)
  | styleAttribute (id : StyleId) (key value : String)
  | styleProperty (id : StyleId) (group key value : String)
  | font (name family : String)
  | metadata (key value : String)
  | parent (id parent : StyleId)

namespace Document

def apply (d : Document) : BuildStep → Document
  | .paragraph text style => d.addParagraph text style
  | .commonStyle id displayName => d.addCommonStyle id displayName
  | .automaticStyle id parent => d.addAutomaticStyle id parent
  | .styleAttribute id key value =>
    { d with styles := d.styles.modify id fun s =>
        { s with definition := s.definition.setAttribute key value } }
  | .styleProperty id group key value =>
    d.modifyDefinition id fun s => s.setProperty group key value
  | .font name family => { d with fonts := d.fonts.insert name family }
  | .metadata key value => { d with metadata := d.metadata.insert key value }
  | .parent id parent =>
    { d with styles := d.styles.modify id fun s => { s with parent := some parent } }

def build (steps : List BuildStep) : Document := steps.foldl apply {}

end Document

end Coedit
