import Coedit.Feature
import Coedit.FileTree
import Coedit.Member

/-!
# Configurations

What a user can configure: a lasting identifier, a stylesheet with fonts, the editor's
options, and the properties that other members see.
-/

namespace Coedit

structure Config where
  memberId : Option String := none
  fontsCss : Option String := none
  editor : EditorOptions := {}
  user : MemberProperties := {}
  deriving DecidableEq, Repr, Inhabited

inductive ConfigError where
  | read (path : String) (cause : FileError)
  | parse (path : String)
  | fonts (path : String) (cause : FileError)
  deriving DecidableEq, Repr

namespace ConfigError

def message : ConfigError → String
  | read path cause => "Failed to read config file at " ++ path ++ ": " ++ cause.message
  | parse path => "Failed to parse config file at " ++ path
  | fonts path cause => "Failed to read fonts stylesheet at " ++ path ++ ": " ++ cause.message

def causes : ConfigError → List String
  | read _ cause | fonts _ cause => [cause.message]
  | parse _ => []

end ConfigError

def Config.path (home : String) : String := home ++ "/.config/docsession/config.toml"

def Config.localMember (c : Config) (fresh : MemberId) : MemberId :=
  match c.memberId with
  | some id => ⟨id⟩
  | none => fresh

end Coedit
