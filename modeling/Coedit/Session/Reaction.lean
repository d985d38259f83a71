import Coedit.Session.Basic

/-!
# Reacting to engine events

A session reacts to an engine event in a few steps. Each step changes the session and may
announce one event; the next step starts when everybody has heard it.
-/

namespace Coedit

inductive Reaction where
  | announce (event : SessionEvent)
  /-- Observe the paragraph under the local cursor. -/
  | followCursor
  /-- Observe the tracked paragraph again. -/
  | recheck
  | resetTracker
  | release (style : StyleId)
  deriving DecidableEq, Repr

namespace SessionCore

def observe (s : SessionCore) (r : Replica) (info : ParagraphInfo) :
    SessionCore × Option SessionEvent :=
  let style := (r.document.commonStyleName info.style).getD .default
  let (tracker, event) := s.tracker.observe info.paragraph style
  ({ s with tracker }, event)

def react (s : SessionCore) (r : Replica) : Reaction → SessionCore × Option SessionEvent
  | .announce event => (s, some event)
  | .followCursor =>
    match (s.cursor? r).bind fun c => r.document.paragraphAt? c.position with
    | some info => s.observe r info
    | none => (s, none)
  | .recheck =>
    match s.tracker.currentParagraph.bind r.document.paragraph? with
    | some info => s.observe r info
    | none => (s, none)
  | .resetTracker => ({ s with tracker := .reset }, none)
  | .release style => (s.release style, none)

/-- A change to a paragraph concerns the session if the paragraph meets the local selection
or is the tracked one. -/
def concerns (s : SessionCore) (r : Replica) (paragraph : ParagraphRef) : Bool :=
  r.selectionIntersects s.member paragraph || s.tracker.currentParagraph == some paragraph

def ifLocal (s : SessionCore) (member : MemberId) (reaction : Reaction) : List Reaction :=
  if s.isLocal member then [reaction] else []

def reactions (s : SessionCore) (r : Replica) : EngineEvent → List Reaction
  | .memberAdded m => [.announce (.memberAdded m)]
  | .memberUpdated m => [.announce (.memberUpdated m)]
  | .memberRemoved m => s.ifLocal m .resetTracker ++ [.announce (.memberRemoved m)]
  | .cursorAdded m => .announce (.cursorAdded m) :: s.ifLocal m .followCursor
  | .cursorMoved m => .announce (.cursorMoved m) :: s.ifLocal m .followCursor
  | .cursorRemoved m => s.ifLocal m .resetTracker ++ [.announce (.cursorRemoved m)]
  | .paragraphChanged p _ =>
    if s.concerns r p then [.announce (.paragraphChanged p .content), .recheck] else []
  | .styleCreated style => [.release style, .announce (.styleCreated style)]
  | .styleDeleted style => [.release style, .announce (.styleDeleted style)]
  | .paragraphStyleModified style => [.announce (.styleModified style)]
  | .undoStackChanged => [.announce .undoStackChanged]
  | .metadataChanged _ _ => []

end SessionCore

end Coedit
