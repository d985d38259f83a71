import Coedit.Session.Reaction
import Coedit.Workspace.Basic

/-!
# Delivery

How events reach those who subscribed to them. Everybody who hears an event may give
commands, which are carried out before the next one hears it. Applying the queue delivers the
events of a batch after the whole batch was applied.
-/

namespace Coedit.Workspace

def notify (act : Conduct) (event : AnyEvent) (id : Nat) (w : Workspace) : Workspace :=
  match w.observers.get? id with
  | none => w
  | some o =>
    let (actions, rest) := o.answer
    let w := w.record (.observer (.heard o.label event))
    carryOut act (fun reply => record (.observer (.did o.label reply))) actions
      { w with observers := w.observers.insert id rest }

def announce (act : Conduct) (id : Nat) (event : SessionEvent) (w : Workspace) : Workspace :=
  match w.sessions.get? id with
  | none => w
  | some s => s.bus.deliver event.signal (notify act (.session event)) w

/-- Announces an event on the bus of an editor that can still be reached. -/
def report (act : Conduct) (editor : Nat) (event : EditorEvent) (w : Workspace) : Workspace :=
  match w.editor? editor with
  | none => w
  | some e =>
    let after := e.bus.deliver event.signal (notify act (.editor event))
      { w with reporting := editor :: w.reporting }
    { after with reporting := w.reporting }

def reactOnce (act : Conduct) (id : Nat) (w : Workspace) (reaction : Reaction) : Workspace :=
  match w.sessions.get? id with
  | none => w
  | some s =>
    let (core, event) := s.core.react w.engine.replica reaction
    let w := w.modifySession id fun s => { s with core }
    match event with
    | some event => w.announce act id event
    | none => w

def sessionHears (act : Conduct) (event : EngineEvent) (id : Nat) (w : Workspace) : Workspace :=
  match w.sessions.get? id with
  | none => w
  | some s =>
    if s.attached || 0 < s.reacting then
      let reactions := s.core.reactions w.engine.replica event
      let w := w.modifySession id fun s => { s with reacting := s.reacting + 1 }
      let w := reactions.foldl (reactOnce act id) w
      w.modifySession id fun s => { s with reacting := s.reacting - 1 }
    else w

/-- Sets the flag of an undo manager; a change is reported to the editors that subscribed. -/
def setModified (act : Conduct) (id : Nat) (modified : Bool) (w : Workspace) : Workspace :=
  match w.undoManagers.get? id with
  | none => w
  | some m =>
    let (m, changed) := m.setModified modified
    let w := { w with undoManagers := w.undoManagers.insert id m }
    if changed then
      m.bus.deliver .modifiedChanged
        (fun editor => report act editor (.documentModifiedChanged modified)) w
    else w

/-- Tells an undo manager that the undo stack changed, which modifies the document. -/
def inform (act : Conduct) (id : Nat) (w : Workspace) : Workspace :=
  if w.isUndoManagerUsed id then
    let after := setModified act id true { w with informed := id :: w.informed }
    { after with informed := w.informed }
  else w

def hear (act : Conduct) (event : EngineEvent) (listener : EngineListener) (w : Workspace) :
    Workspace :=
  match listener with
  | .session id => w.sessionHears act event id
  | .undoManager id => w.inform act id
  | .metadataRelay editor =>
    match event with
    | .metadataChanged set removed => w.report act editor (.metadataChanged set removed)
    | _ => w
  | .observer id => w.notify act (.engine event) id

def publish (act : Conduct) (w : Workspace) (event : EngineEvent) : Workspace :=
  w.engine.bus.deliver event.signal (hear act event) w

/-- Applies at most `count` batches of the queue, each followed by its events. -/
def applyQueued (act : Conduct) : Nat → Workspace → Workspace
  | 0, w => w
  | count + 1, w =>
    match w.engine.applyNext? with
    | none => w
    | some (events, engine) =>
      applyQueued act count (events.foldl (publish act) { w with engine })

/-- Applies the queue, with all that is queued meanwhile. -/
def flush (act : Conduct) (w : Workspace) : Workspace := applyQueued act w.potential w

/-- Takes a batch into the queue, if a document is open. -/
def take (batch : Batch) (w : Workspace) : Except EngineError Workspace :=
  match w.engine.accept batch with
  | .error cause => .error cause
  | .ok engine => .ok { w with engine }

/-- What follows when a batch was queued: an engine that applies at once flushes. -/
def followUp (act : Conduct) (w : Workspace) : Workspace :=
  if w.engine.immediate then w.flush act else w

def enqueue (act : Conduct) (batch : Batch) (w : Workspace) : Except EngineError Unit × Workspace :=
  match w.take batch with
  | .error cause => (.error cause, w)
  | .ok w => (.ok (), w.followUp act)

def refused? (w : Workspace) (batch : Batch) : Option Operation :=
  batch.find? fun op => w.refusals.operations.contains op.name

def takeFrom (batch : Batch) (w : Workspace) : Except EngineError Workspace :=
  match w.refused? batch with
  | some op => .error (.rejected ("refused " ++ op.name))
  | none => w.take batch

def submit (act : Conduct) (batch : Batch) (w : Workspace) : Except EngineError Unit × Workspace :=
  match w.takeFrom batch with
  | .error cause => (.error cause, w)
  | .ok w => (.ok (), w.followUp act)

/-- Loads a document into the engine; a failure changes nothing. -/
def loadDocument (files : FileTree) (url : String) (w : Workspace) :
    Except EngineError Unit × Workspace :=
  match w.engine.load files url with
  | .ok engine => (.ok (), { w with engine })
  | .error cause => (.error cause, w)

def closeEngine (act : Conduct) (w : Workspace) : Except EngineError Unit × Workspace :=
  if w.engine.isOpen then
    let w := w.flush act
    let (result, engine) := w.engine.finishClose
    (result, { w with engine })
  else (.error .notLoaded, w)

/-- Subscribes to the engine on behalf of a session or an editor. -/
def subscribe (signal : EngineSignal) (listener : EngineListener) (w : Workspace) :
    Except EngineError Nat × Workspace :=
  if w.refusals.signals.contains signal.name then
    (.error (.signal (.invalidSignalKind signal.name)), w)
  else match w.engine.subscribe signal listener with
    | .ok (id, engine) => (.ok id, { w with engine })
    | .error cause => (.error cause, w)

def unsubscribe (signal : EngineSignal) (id : Nat) (w : Workspace) : Workspace :=
  { w with engine := w.engine.unsubscribe signal id }

end Coedit.Workspace
