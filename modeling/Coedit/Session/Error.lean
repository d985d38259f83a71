import Coedit.Content
import Coedit.Engine.Error
import Coedit.Identifier
import Coedit.Text.Quoted

/-!
# Session errors
-/

namespace Coedit

def StyleId.quoted (s : StyleId) : String := "StyleId(" ++ Text.quoted s.text ++ ")"

inductive SessionError where
  | invalidParameters (kind : String) (fault : ContentFault)
  | unknownStyle (style : StyleId)
  | identifier (cause : Identifier.IdentifierError)
  | engine (cause : EngineError)
  | signal (cause : SignalError)

namespace SessionError

def message : SessionError → String
  | invalidParameters kind fault => "invalid " ++ kind ++ " parameters: " ++ fault.message
  | unknownStyle style => "unknown style: " ++ style.quoted
  | identifier cause => cause.message
  | engine cause => cause.message
  | signal cause => cause.message

def causes : SessionError → List String
  | engine cause => cause.causes
  | _ => []

end SessionError

end Coedit
