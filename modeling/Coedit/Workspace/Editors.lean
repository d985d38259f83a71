import Coedit.Workspace.Sessions

/-!
# The editor of a workspace

Opening a document loads it and starts a session for the local member; closing it takes the
member out again, closes the engine and destroys the session. An open that fails leaves the
editor closed. A close that fails leaves it closing for ever, and reports why.
-/

namespace Coedit.Workspace

def createEditor (spec : EditorSpec) (w : Workspace) : Workspace :=
  let dropped := match w.editor.bind (·.session) with
    | some id => w.dropSession id
    | none => w
  { dropped with
    nextId := w.nextId + 1
    replaced := w.editor.toList ++ w.replaced
    editor := some
      { id := w.nextId
        member := spec.member
        options := spec.options
        user := spec.user.withDefaults
        fontsCss := spec.fontsCss
        frontend := spec.frontend } }

/-- The session of an editor, which is open only while editing. -/
def openSession? (e : Editor) : Option Nat := if e.state = .editing then e.session else none

theorem session_of_openSession? {e : Editor} {id : Nat} (h : openSession? e = some id) :
    e.session = some id := by
  unfold openSession? at h
  split at h
  · exact h
  · cases h

def advance (action : EditorAction) : Attempt EditorError Unit := .of fun w =>
  match w.editor with
  | none => (.error .noSession, w)
  | some e =>
    match e.state.next action with
    | .ok state => (.ok (), { w with editor := some { e with state } })
    | .error fault => (.error (.illegalTransition fault), w)

def byEngine {α : Type} (f : Workspace → Except EngineError α × Workspace) :
    Attempt EditorError α := .of fun w =>
  match f w with
  | (.ok a, w) => (.ok a, w)
  | (.error cause, w) => (.error (.engine cause), w)

def bySession {α : Type} (f : Workspace → Except EngineError α × Workspace) :
    Attempt EditorError α := .of fun w =>
  match f w with
  | (.ok a, w) => (.ok a, w)
  | (.error cause, w) => (.error (.session (.engine cause)), w)

def attachToolbar (e : Editor) (attached : Bool) (w : Workspace) : Workspace :=
  (w.interfaceNote e.frontend (.attached attached)).modifyEditor fun e =>
    { e with toolbar := e.toolbar.attach attached }

def relayModified (e : Editor) (manager : Nat) (w : Workspace) : Workspace :=
  match w.undoManagers.get? manager with
  | none => w
  | some m =>
    match m.subscribe e.id with
    | .error _ => w
    | .ok (subscription, m) =>
      { w with undoManagers := w.undoManagers.insert manager m }.modifyEditor fun e =>
        { e with undoManager := some manager, modifiedSubscription := some subscription }

/-- What an input controller fails to do while a session is started. -/
structure InputFaults where
  undoManager : Option EngineError := none
  cursor : Option EngineError := none

/-- An input controller that fails does nothing. -/
def unlessFault (fault : Option EngineError) (f : Workspace → Except EngineError Unit × Workspace)
    (w : Workspace) : Except EngineError Unit × Workspace :=
  match fault with
  | some cause => (.error cause, w)
  | none => f w

def startUndo (e : Editor) (session : Nat) (faults : InputFaults := {}) :
    Attempt EditorError Unit := do
  modify (interfaceNote e.frontend .undoManager)
  let manager ← modifyGet createUndoManager
  byEngine (unlessFault faults.undoManager (setUndoManager session manager))
  modify (relayModified e manager)

/-- Makes the local member and its cursor known, and relays changes to the metadata. -/
def enterDocument (act : Conduct) (e : Editor) (session : Nat) (faults : InputFaults := {}) :
    Attempt EditorError Unit := do
  let relay ← byEngine (subscribe .metadataChanged (.metadataRelay e.id))
  modify (modifyEditor fun e => { e with metadataSubscription := some relay })
  byEngine (submit act [.addMember e.member e.user])
  modify (attachToolbar e true)
  byEngine (unlessFault faults.cursor (insertCursor act session))
  modify (setEditing session true)

def equipSession (act : Conduct) (e : Editor) (session : Nat) (faults : InputFaults := {}) :
    Attempt EditorError Unit := do
  if e.options.features.undoRedo then startUndo e session faults
  enterDocument act e session faults

/-- Starts a session on the document that was loaded. The editor has it as soon as it works; until
then a failure loses it. -/
def startSession (act : Conduct) (e : Editor) (faults : InputFaults := {}) :
    Attempt EditorError Unit := do
  let spec := { member := e.member, fontsCss := e.fontsCss, frontend := e.frontend }
  let session ← bySession (createSession spec e.options.features)
  tryCatch (equipSession act e session faults) fun cause => do
    modify (dropSession session)
    throw cause
  modify (modifyEditor fun e => { e with session := some session })

/-- Ends what the editor relays from the engine and from its undo manager. -/
def detachRelays (w : Workspace) : Workspace :=
  match w.editor with
  | none => w
  | some e =>
    let w := match e.metadataSubscription with
      | some id => w.unsubscribe .metadataChanged id
      | none => w
    let w := match e.undoManager, e.modifiedSubscription with
      | some manager, some subscription =>
        { w with undoManagers := w.undoManagers.modify manager (·.unsubscribe subscription) }
      | _, _ => w
    w.modifyEditor fun e =>
      { e with undoManager := none, modifiedSubscription := none, metadataSubscription := none }

/-- Takes the session away from the editor, without tearing it down. -/
def abandonSession (w : Workspace) : Workspace :=
  match w.editor.bind (·.session) with
  | none => w
  | some id => (w.dropSession id).modifyEditor fun e => { e with session := none }

def abandonOpening (act : Conduct) (w : Workspace) : Workspace :=
  (w.detachRelays.abandonSession.closeEngine act).2

/-- Starts to edit a document that was loaded, or closes the engine again. -/
def startLoaded (act : Conduct) (e : Editor) (faults : InputFaults := {}) :
    Attempt EditorError Unit := do
  tryCatch (startSession act e faults) fun cause => do
    modify (abandonOpening act)
    advance .loadFailed
    throw cause
  advance .ready

def openDocument (act : Conduct) (files : FileTree) (e : Editor) (url : String)
    (faults : InputFaults := {}) : Attempt EditorError Unit := do
  advance .open
  tryCatch
    (byEngine (loadDocument files url))
    fun cause => do
      advance .loadFailed
      throw cause
  startLoaded act e faults

/-- Takes the local member out of the document, closes the engine and destroys the
session. -/
def leaveDocument (act : Conduct) (e : Editor) (session : Nat) : Attempt EditorError Unit := do
  byEngine (removeCursor act session)
  byEngine (submit act [.removeMember e.member])
  byEngine (closeEngine act)
  modify detachRelays
  .of fun w =>
    match w.destroySession session with
    | (.ok (), w) => (.ok (), w)
    | (.error cause, w) => (.error (.teardown cause), w)

def closeDocument (act : Conduct) (e : Editor) : Attempt EditorError Unit := do
  advance .close
  match e.session with
  | none => throw .noSession
  | some session =>
    modify (modifyEditor fun e => { e with session := none })
    modify (setEditing session false)
    modify (attachToolbar e false)
    tryCatch (leaveDocument act e session) fun cause => do
      modify detachRelays
      modify (report act e.id (.unknownError cause.message))
      modify (dropSession session)
      throw cause
    advance .closed

/-- Tears the chrome down. The editor is destroyed even if a part refuses. -/
def destroyEditor (e : Editor) : Attempt EditorError Unit := do
  advance .destroy
  let result ← modifyGet (tearDownAll (chromeParts.map fun part =>
    tearDownPart e.frontend part fun w => w))
  modify (modifyEditor fun e => { e with bus := e.bus.clear })
  match result with
  | .ok () => pure ()
  | .error cause => throw (.teardown cause)

/-- Replaces the local member's details; others hear of it while a document is open. -/
def setUser (act : Conduct) (e : Editor) (user : MemberProperties) :
    Attempt EditorError Unit := do
  modify (modifyEditor fun e => { e with user := user.withDefaults })
  match openSession? e with
  | none => pure ()
  | some session =>
    .of fun w =>
      match w.edit act session (.updateMember user.withDefaults) with
      | (.ok _, w) => (.ok (), w)
      | (.error cause, w) => (.error (.session cause), w)

def setMetadata (act : Conduct) (e : Editor) (set : Dict String String)
    (removed : List String) : Attempt EditorError Unit :=
  match openSession? e with
  | none => throw .noSession
  | some _ => byEngine (submit act [.updateMetadata e.member set removed])

def metadata? (w : Workspace) (e : Editor) (property : String) :
    Except EditorError (Option String) :=
  match openSession? e with
  | none => .error .noSession
  | some _ => .ok (w.engine.document.metadata.get? property)

/-- Whether the document was modified; never without an undo manager. -/
def isModified (w : Workspace) (e : Editor) : Bool :=
  (e.undoManager.bind w.undoManagers.get?).any (·.modified)

def editorStatus (w : Workspace) (e : Editor) : EditorStatus :=
  { state := e.state, modified := w.isModified e, hasSession := (openSession? e).isSome }

end Coedit.Workspace
