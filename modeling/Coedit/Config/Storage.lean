import Coedit.Config.Expansion
import Coedit.Config.Text

/-!
# Stored configurations

Loading a configuration from a file expands the path of its stylesheet and fills in the
user's empty properties. Saving it writes what it holds.
-/

namespace Coedit.Config

/-- The configuration in which paths are expanded and the user is complete. -/
def complete (env : Environment) (home : String) (c : Config) : Config :=
  { c with
    fontsCss := c.fontsCss.map (expandPath env home)
    user := c.user.withDefaults }

/-- The configuration in a file, as it was written; none if there is no such file. -/
def readFile (files : FileTree) (path : String) : Except ConfigError (Option Config) :=
  if !files.has path then .ok none
  else match files.text path with
    | .error cause => .error (.read path cause)
    | .ok text =>
      match ofText? text with
      | none => .error (.parse path)
      | some c => .ok (some c)

def load (files : FileTree) (env : Environment) (home path : String) :
    Except ConfigError (Option Config) :=
  (readFile files path).map fun c => c.map (complete env home)

def loadFonts (files : FileTree) (c : Config) : Except ConfigError (Option String) :=
  match c.fontsCss with
  | none => .ok none
  | some path =>
    match files.text path with
    | .ok css => .ok (some css)
    | .error cause => .error (.fonts path cause)

def save (files : FileTree) (path : String) (c : Config) : Except FileError FileTree :=
  files.write path c.toText.toUTF8.data.toList

end Coedit.Config
