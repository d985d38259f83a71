import Coedit.Engine.Basic
import Coedit.Font
import Coedit.Identifier
import Coedit.Session.Tracker

/-!
# Sessions

A session is one member's view of an open document: it relays the engine's events to the
member's user interface, tracks the style under the local cursor, and remembers the style
identifiers that it has given away before the engine knows them.
-/

namespace Coedit

def relayedSignals : List EngineSignal :=
  [.memberAdded, .memberUpdated, .memberRemoved, .cursorAdded, .cursorMoved, .cursorRemoved,
    .paragraphChanged, .styleCreated, .styleDeleted, .paragraphStyleModified,
    .undoStackChanged]

/-- What a session knows, apart from its subscribers. -/
structure SessionCore where
  member : MemberId
  tracker : StyleTracker := {}
  reserved : List StyleId := []
  deriving DecidableEq, Repr

namespace SessionCore

/-- What the local member's style identifiers end with. -/
def salt (s : SessionCore) : String := Identifier.synthesize s.member.text

def isLocal (s : SessionCore) (member : MemberId) : Bool := member == s.member

def reserve (s : SessionCore) (style : StyleId) : SessionCore :=
  if style ∈ s.reserved then s else { s with reserved := style :: s.reserved }

def release (s : SessionCore) (style : StyleId) : SessionCore :=
  { s with reserved := s.reserved.filter (· ≠ style) }

/-- The state after destruction: nothing tracked, nothing reserved. -/
def cleared (s : SessionCore) : SessionCore := { s with tracker := .reset, reserved := [] }

def cursor? (s : SessionCore) (r : Replica) : Option Cursor := r.cursors.get? s.member

end SessionCore

end Coedit
