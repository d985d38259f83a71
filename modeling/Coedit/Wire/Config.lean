import Coedit.Config.Basic
import Coedit.Wire.Member
import Coedit.Wire.Options

/-!
# Configurations on the wire
-/

namespace Coedit.Wire

def readConfig (format : Format) : Reader Config := fun v => do
  let fields ← readDefaulted format ["member_id", "fonts_css", "editor", "user"] v
  let memberId ← fields.getOption "member_id" readText
  let fontsCss ← fields.getOption "fonts_css" readText
  let editor ← fields.getD "editor" (readEditorOptions format) {}
  let user ← fields.getD "user" (readMemberProperties format) {}
  pure { memberId, fontsCss, editor, user }

def optionalField (name : String) (value : Option String) : Fields :=
  match value with
  | some text => [(name, .text text)]
  | none => []

def ofConfig (c : Config) : Value :=
  .object (optionalField "member_id" c.memberId ++ optionalField "fonts_css" c.fontsCss ++
    [("editor", ofEditorOptions c.editor), ("user", ofMemberProperties c.user)])

end Coedit.Wire
