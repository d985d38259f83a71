import Coedit.Toml.Document
import Coedit.Wire.Config

/-!
# Configuration texts

A configuration is kept as a TOML document: the two optional settings first, then a table for
the editor and one for the user.
-/

namespace Coedit.Config

def textLine (key value : String) : String := key ++ " = " ++ Toml.quoted value ++ "\n"

def flagLine (key : String) (flag : Bool) : String :=
  key ++ " = " ++ (if flag then "true" else "false") ++ "\n"

def optionalLine {α : Type} (line : String → α → String) (key : String) : Option α → String
  | some value => line key value
  | none => ""

def editorLines (o : EditorOptions) : String :=
  textLine "modus" (Wire.modusName o.modus) ++ flagLine "all_features_enabled" o.allFeatures ++
    String.join ((Wire.editorSwitches o).map fun s => optionalLine flagLine s.1 s.2)

def userLines (p : MemberProperties) : String :=
  textLine "display_name" p.displayName ++ textLine "color" p.color ++
    textLine "image_ref" p.imageRef

def settingLines (c : Config) : String :=
  optionalLine textLine "member_id" c.memberId ++ optionalLine textLine "fonts_css" c.fontsCss

def toText (c : Config) : String :=
  let settings := c.settingLines
  (if settings = "" then "" else settings ++ "\n") ++
    "[editor]\n" ++ editorLines c.editor ++ "\n[user]\n" ++ userLines c.user

/-- Reads a configuration as it was written; unknown settings are ignored. -/
def ofText? (text : String) : Option Config := (Toml.read text).bind (Wire.readConfig .toml)

end Coedit.Config
