import Coedit.Workspace.Delivery

/-!
# Sessions of a workspace

Creating and destroying sessions, their edits and their input controllers. A session is
subscribed to every signal that it relays, or not created at all.
-/

namespace Coedit.Workspace

/-- Subscribes a session to signals; at the first refusal the subscriptions made so far are
taken back. -/
def subscribeSession (id : Nat) (made : List (EngineSignal × Nat)) :
    List EngineSignal → Workspace → Except EngineError (List (EngineSignal × Nat)) × Workspace
  | [], w => (.ok made, w)
  | signal :: rest, w =>
    match w.subscribe signal (.session id) with
    | (.ok subscription, w) => subscribeSession id (made ++ [(signal, subscription)]) rest w
    | (.error cause, w) =>
      (.error cause, made.foldl (fun w s => w.unsubscribe s.1 s.2) w)

def createSession (spec : SessionSpec) (features : FeatureSet) (w : Workspace) :
    Except EngineError Nat × Workspace :=
  let w := w.interfaceNote spec.frontend (.components spec.member features)
  let id := w.nextId
  match subscribeSession id [] relayedSignals { w with nextId := id + 1 } with
  | (.error cause, w) => (.error cause, w)
  | (.ok subscriptions, w) =>
    let session : Session :=
      { core := { member := spec.member }
        frontend := spec.frontend
        subscriptions
        availableFonts := (spec.fontsCss.map Font.available).getD [] }
    (.ok id, { w with sessions := w.sessions.insert id session })

def createUndoManager (w : Workspace) : Nat × Workspace :=
  (w.nextId, { w with
    undoManagers := w.undoManagers.insert w.nextId {}
    nextId := w.nextId + 1 })

def changeReservation (id : Nat) (proposal : Proposal)
    (change : SessionCore → StyleId → SessionCore) (w : Workspace) : Workspace :=
  match proposal.reserve with
  | some style => w.modifySession id fun s => { s with core := change s.core style }
  | none => w

/-- Queues what an edit comes to; the flag says whether there was anything to queue. A new
style's identifier is reserved before its batch is submitted, since the engine may apply the
batch at once, and released if the batch is refused. -/
def queueEdit (id : Nat) (e : Edit) (w : Workspace) :
    Except SessionError (EditAnswer × Bool) × Workspace :=
  match w.sessions.get? id with
  | none => (.ok (.done, false), w)
  | some s =>
    match s.core.propose w.engine.replica e with
    | .error cause => (.error cause, w)
    | .ok proposal =>
      if proposal.batch.isEmpty then (.ok (proposal.answer, false), w)
      else
        let reserved := w.changeReservation id proposal .reserve
        match reserved.takeFrom proposal.batch with
        | .ok w => (.ok (proposal.answer, true), w)
        | .error cause =>
          (.error (.engine cause), reserved.changeReservation id proposal .release)

def edit (act : Conduct) (id : Nat) (e : Edit) (w : Workspace) :
    Except SessionError EditAnswer × Workspace :=
  match w.queueEdit id e with
  | (.ok (answer, queued), w) => (.ok answer, if queued then w.followUp act else w)
  | (.error cause, w) => (.error cause, w)

def dropUndoSubscription (id : Nat) (w : Workspace) : Workspace :=
  match (w.sessions.get? id).bind (·.input.undoSubscription) with
  | none => w
  | some subscription =>
    (w.unsubscribe .undoStackChanged subscription).modifySession id fun s =>
      { s with input := { s.input with undoSubscription := none } }

/-- Gives the input controller an undo manager. If the subscription for the new one is
refused, the old one stays, without a subscription. -/
def setUndoManager (id manager : Nat) (w : Workspace) : Except EngineError Unit × Workspace :=
  match (w.dropUndoSubscription id).subscribe .undoStackChanged (.undoManager manager) with
  | (.error cause, w) => (.error cause, w)
  | (.ok subscription, w) =>
    (.ok (), w.modifySession id fun s =>
      { s with input := { s.input with
          undoManager := some manager
          undoSubscription := some subscription } })

def setEditing (id : Nat) (editing : Bool) (w : Workspace) : Workspace :=
  match w.sessions.get? id with
  | none => w
  | some s =>
    (w.interfaceNote s.frontend (if editing then .startEditing else .endEditing)).modifySession
      id fun s => { s with input := { s.input with editing } }

def submitFor (act : Conduct) (id : Nat) (operation : MemberId → Operation) (w : Workspace) :
    Except EngineError Unit × Workspace :=
  match w.sessions.get? id with
  | none => (.ok (), w)
  | some s => w.submit act [operation s.core.member]

def insertCursor (act : Conduct) (id : Nat) (w : Workspace) : Except EngineError Unit × Workspace :=
  w.submitFor act id .addCursor

def removeCursor (act : Conduct) (id : Nat) (w : Workspace) : Except EngineError Unit × Workspace :=
  w.submitFor act id .removeCursor

/-- Tears down a part of the user interface, which may refuse; `release` runs if it does
not. -/
def tearDownPart (frontend : Frontend) (part : String) (release : Workspace → Workspace) :
    TeardownAction Workspace := fun w =>
  let w := w.interfaceNote frontend (.tornDown part)
  match frontend with
  | .headless => (.ok (), release w)
  | .recording failing =>
    if failing.contains part then (.error (.component part "refused to stop"), w)
    else (.ok (), release w)

def releaseInput (id : Nat) (w : Workspace) : Workspace :=
  (w.dropUndoSubscription id).modifySession id fun s =>
    { s with input := { s.input with editing := false } }

/-- The end of a session's teardown: no subscription is left on either side. -/
def releaseSignals (id : Nat) (w : Workspace) : Workspace :=
  match w.sessions.get? id with
  | none => w
  | some s =>
    (s.subscriptions.foldl (fun w s => w.unsubscribe s.1 s.2) w).modifySession id fun s =>
      { s with core := s.core.cleared, bus := s.bus.clear }

def sessionTeardown (id : Nat) (frontend : Frontend) : List (TeardownAction Workspace) :=
  (sessionParts.map fun part =>
    tearDownPart frontend part
      (if part == "input controller" then releaseInput id else fun w => w)) ++
    [fun w => (.ok (), w.releaseSignals id)]

/-- Destroys a session. Whether or not this succeeds, the session is no longer attached. -/
def destroySession (id : Nat) (w : Workspace) : Except TeardownError Unit × Workspace :=
  match w.sessions.get? id with
  | none => (.ok (), w)
  | some s =>
    let (result, w) := tearDownAll (sessionTeardown id s.frontend) w
    (result, w.dropSession id)

def inputUndoManager? (w : Workspace) (s : Session) : Option (UndoManager Nat) :=
  s.input.undoManager.bind w.undoManagers.get?

def askSession (w : Workspace) (s : Session) : SessionQuery → Reply
  | .state => .sessionState
      { cursor := s.core.cursor? w.engine.replica
        paragraph := s.core.tracker.currentParagraph
        style := s.core.tracker.current.map (·.style) }
  | .localMember => .memberId s.core.member
  | .member member => .member (w.engine.replica.members.get? member)
  | .styles => .styles w.engine.document.paragraphStyles
  | .attributes style => .definition (w.engine.document.inheritedAttributes style true)
  | .isStyleUsed style => .flag (w.engine.document.isStyleUsed style)
  | .declaredFonts => .declaredFonts (Font.declared w.engine.document.fonts.toList)
  | .availableFonts => .availableFonts s.availableFonts
  | .isEditing => .flag s.input.editing
  | .undoState => .undoState ((w.inputUndoManager? s).map fun m =>
      { modified := m.modified
        hasUndoStates := m.hasUndoStates
        hasRedoStates := m.hasRedoStates })

end Coedit.Workspace
