import Coedit.Feature
import Coedit.Wire.Value

/-!
# Editor options and features on the wire
-/

namespace Coedit.Wire

def modusNames : List (String × Modus) := [("full_editing", .fullEditing), ("review", .review)]

def readModus (format : Format) : Reader Modus := readName format modusNames

def modusName : Modus → String
  | .fullEditing => "full_editing"
  | .review => "review"

def editorOptionFields : List String :=
  ["modus", "all_features_enabled", "direct_text_styling_enabled",
    "direct_paragraph_styling_enabled", "paragraph_style_selecting_enabled",
    "paragraph_style_editing_enabled", "image_editing_enabled", "hyperlink_editing_enabled",
    "annotations_enabled", "undo_redo_enabled", "zooming_enabled"]

def readEditorOptions (format : Format) : Reader EditorOptions := fun v => do
  let fields ← readDefaulted format editorOptionFields v
  let modus ← fields.getD "modus" (readModus format) .fullEditing
  let allFeatures ← fields.getD "all_features_enabled" readBool false
  let directTextStyling ← fields.getOption "direct_text_styling_enabled" readBool
  let directParagraphStyling ← fields.getOption "direct_paragraph_styling_enabled" readBool
  let paragraphStyleSelecting ← fields.getOption "paragraph_style_selecting_enabled" readBool
  let paragraphStyleEditing ← fields.getOption "paragraph_style_editing_enabled" readBool
  let imageEditing ← fields.getOption "image_editing_enabled" readBool
  let hyperlinkEditing ← fields.getOption "hyperlink_editing_enabled" readBool
  let annotations ← fields.getOption "annotations_enabled" readBool
  let undoRedo ← fields.getOption "undo_redo_enabled" readBool
  let zooming ← fields.getOption "zooming_enabled" readBool
  pure
    { modus, allFeatures, directTextStyling, directParagraphStyling, paragraphStyleSelecting,
      paragraphStyleEditing, imageEditing, hyperlinkEditing, annotations, undoRedo, zooming }

def editorSwitches (o : EditorOptions) : List (String × Option Bool) :=
  [("direct_text_styling_enabled", o.directTextStyling),
    ("direct_paragraph_styling_enabled", o.directParagraphStyling),
    ("paragraph_style_selecting_enabled", o.paragraphStyleSelecting),
    ("paragraph_style_editing_enabled", o.paragraphStyleEditing),
    ("image_editing_enabled", o.imageEditing),
    ("hyperlink_editing_enabled", o.hyperlinkEditing),
    ("annotations_enabled", o.annotations),
    ("undo_redo_enabled", o.undoRedo),
    ("zooming_enabled", o.zooming)]

def ofEditorOptions (o : EditorOptions) : Value :=
  .object (("modus", .text (modusName o.modus)) :: ("all_features_enabled", .bool o.allFeatures) ::
    (editorSwitches o).map fun s => (s.1, ofOption .bool s.2))

def ofFeatureSet (f : FeatureSet) : Value :=
  .object [("review_mode", .bool f.reviewMode),
    ("direct_text_styling", .bool f.directTextStyling),
    ("direct_paragraph_styling", .bool f.directParagraphStyling),
    ("paragraph_style_selecting", .bool f.paragraphStyleSelecting),
    ("paragraph_style_editing", .bool f.paragraphStyleEditing),
    ("image_editing", .bool f.imageEditing),
    ("hyperlink_editing", .bool f.hyperlinkEditing),
    ("annotations", .bool f.annotations),
    ("undo_redo", .bool f.undoRedo),
    ("zooming", .bool f.zooming)]

end Coedit.Wire
