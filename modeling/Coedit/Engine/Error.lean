import Coedit.FileTree
import Coedit.Signal.Bus

/-!
# Engine errors
-/

namespace Coedit

inductive EngineError where
  | documentNotFound (url : String)
  | notLoaded
  | closed
  | rejected (reason : String)
  | io (cause : FileError)
  | signal (cause : SignalError)
  deriving DecidableEq, Repr

namespace EngineError

def message : EngineError → String
  | documentNotFound url => "document not found: " ++ url
  | notLoaded => "no document is loaded"
  | closed => "the document session is closed"
  | rejected reason => "operation rejected: " ++ reason
  | io cause => "IO error: " ++ cause.message
  | signal cause => cause.message

def causes : EngineError → List String
  | io cause => [cause.message]
  | _ => []

end EngineError

end Coedit
