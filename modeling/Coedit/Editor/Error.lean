import Coedit.Editor.Lifecycle
import Coedit.Session.Error
import Coedit.Teardown

/-!
# Editor errors
-/

namespace Coedit

inductive EditorError where
  | illegalTransition (fault : IllegalTransition)
  | noSession
  | session (cause : SessionError)
  | engine (cause : EngineError)
  | teardown (cause : TeardownError)
  | signal (cause : SignalError)

namespace EditorError

def message : EditorError → String
  | illegalTransition fault => fault.message
  | noSession => "no document session is open"
  | session cause => cause.message
  | engine cause => cause.message
  | teardown cause => cause.message
  | signal cause => cause.message

def causes : EditorError → List String
  | session cause => cause.causes
  | engine cause => cause.causes
  | teardown cause => cause.causes
  | _ => []

end EditorError

end Coedit
