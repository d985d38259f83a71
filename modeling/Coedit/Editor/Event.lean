import Coedit.Dict
import Coedit.Signal.Bus

/-!
# Editor events
-/

namespace Coedit

inductive EditorSignal where
  | unknownError
  | documentModifiedChanged
  | metadataChanged
  deriving DecidableEq, Repr

namespace EditorSignal

def all : List EditorSignal := [unknownError, documentModifiedChanged, metadataChanged]

theorem mem_all (s : EditorSignal) : s ∈ all := by cases s <;> decide

def name : EditorSignal → String
  | unknownError => "UnknownError"
  | documentModifiedChanged => "DocumentModifiedChanged"
  | metadataChanged => "MetadataChanged"

end EditorSignal

instance : SignalKind EditorSignal where
  name := EditorSignal.name

inductive EditorEvent where
  | unknownError (text : String)
  | documentModifiedChanged (modified : Bool)
  | metadataChanged (set : Dict String String) (removed : List String)
  deriving DecidableEq

def EditorEvent.signal : EditorEvent → EditorSignal
  | unknownError _ => .unknownError
  | documentModifiedChanged _ => .documentModifiedChanged
  | metadataChanged _ _ => .metadataChanged

end Coedit
