import Coedit.Workspace.Editors

/-!
# Carrying out commands

`perform` carries out a command with a bounded depth of nesting; `execute` allows for all the
nesting that the observers can cause. A command that needs an object which an enclosing
command holds is answered with `busy`.
-/

namespace Coedit.Workspace

def reply {ε : Type} (failure : ε → Failure) :
    Except ε Unit × Workspace → Reply × Workspace
  | (.ok (), w) => (.done, w)
  | (.error cause, w) => (.failed (failure cause), w)

def addObserver (label : String) (actions : List Command) (times : Nat) (w : Workspace) :
    Workspace :=
  { w with
    observers := w.observers.insert w.nextId { label, actions, remaining := times }
    nextId := w.nextId + 1 }

def doEngine (act : Conduct) (w : Workspace) : EngineCommand → Reply × Workspace
  | .register url document => (.done, { w with engine := w.engine.register url document })
  | .load url => reply .engine (w.loadDocument w.files url)
  | .close => reply .engine (w.closeEngine act)
  | .flush => (.done, w.flush act)
  | .failNextClose reason =>
    (.done, { w with engine := { w.engine with closeFailure := some reason } })
  | .setImmediate on => (.done, { w with engine := { w.engine with immediate := on } })
  | .refuse signals operations => (.done, { w with refusals := { signals, operations } })
  | .enqueue batch => reply .engine (w.enqueue act batch)
  | .takeSubmitted =>
    (.engine (.batches w.engine.submitted),
      { w with engine := { w.engine with submitted := [] } })
  | .unsubscribe signal id => (.done, w.unsubscribe signal id)
  | .ask query => (.engine (w.engine.answer query), w)

def watchEngine (signal : EngineSignal) (label : String) (actions : List Command) (times : Nat)
    (w : Workspace) : Reply × Workspace :=
  match w.engine.subscribe signal (.observer w.nextId) with
  | .ok (id, engine) => (.subscribed id, { w with engine }.addObserver label actions times)
  | .error cause => (.failed (.engine cause), w)

/-- The session that a command means, and what holds it: the editor's if there is an editor,
else the standalone one. An editor may have no session open. -/
def meantSession (w : Workspace) : Option (Place × Option Nat) :=
  match w.editor, w.standalone with
  | some e, _ => some (.editor, openSession? e)
  | none, some id => some (.standalone, some id)
  | none, none => none

def withSession (access : Access) (job : Nat → Workspace → Reply × Workspace)
    (w : Workspace) : Reply × Workspace :=
  match w.meantSession with
  | some (place, some id) => w.holding place access (job id)
  | some (place, none) => w.holding place access fun w => (.failed (.editor .noSession), w)
  | none => (.absent, w)

def withEditor (access : Access) (job : Editor → Workspace → Reply × Workspace)
    (w : Workspace) : Reply × Workspace :=
  match w.editor with
  | some e => w.holding .editor access (job e)
  | none => (.absent, w)

def doSession (act : Conduct) (id : Nat) (w : Workspace) : SessionCommand → Reply × Workspace
  | .unsubscribe signal subscription =>
    (.done, w.modifySession id fun s => { s with bus := s.bus.unsubscribe signal subscription })
  | .ask query =>
    match w.sessions.get? id with
    | some s => (w.askSession s query, w)
    | none => (.absent, w)
  | .edit e =>
    match w.edit act id e with
    | (.ok answer, w) => (.edited answer, w)
    | (.error cause, w) => (.failed (.session cause), w)
  | .undo => (.flag (((w.sessions.get? id).bind w.inputUndoManager?).any (·.undo)), w)
  | .redo => (.flag (((w.sessions.get? id).bind w.inputUndoManager?).any (·.redo)), w)

def watchSession (signal : SessionSignal) (label : String) (actions : List Command)
    (times : Nat) (id : Nat) (w : Workspace) : Reply × Workspace :=
  match w.sessions.get? id with
  | none => (.absent, w)
  | some s =>
    match s.bus.subscribe signal w.nextId with
    | .ok (subscription, bus) =>
      (.subscribed subscription,
        (w.modifySession id fun s => { s with bus }).addObserver label actions times)
    | .error cause => (.failed (.session (.signal cause)), w)

def doInput (act : Conduct) (id : Nat) (w : Workspace) : InputCommand → Reply × Workspace
  | .insertCursor => reply .engine (w.insertCursor act id)
  | .removeCursor => reply .engine (w.removeCursor act id)
  | .setUndoManager =>
    let (manager, w) := w.createUndoManager
    reply .engine (w.setUndoManager id manager)
  | .startEditing => (.done, w.setEditing id true)
  | .endEditing => (.done, w.setEditing id false)

def editorAccess : EditorCommand → Access
  | .open _ | .close | .destroy | .setUser _ => .exclusive
  | _ => .shared

def doEditor (act : Conduct) (e : Editor) (w : Workspace) : EditorCommand → Reply × Workspace
  | .open url => reply .editor ((openDocument act w.files e url).result w)
  | .close => reply .editor ((closeDocument act e).result w)
  | .destroy => reply .editor ((destroyEditor e).result w)
  | .setUser user => reply .editor ((setUser act e user).result w)
  | .status => (.editorStatus (w.editorStatus e), w)
  | .profile => (.editorProfile { member := e.member, options := e.options, user := e.user }, w)
  | .setMetadata set removed => reply .editor ((setMetadata act e set removed).result w)
  | .metadata property =>
    match w.metadata? e property with
    | .ok text => (.text text, w)
    | .error cause => (.failed (.editor cause), w)
  | .isModified => (.flag (w.isModified e), w)
  | .setModified modified =>
    match e.undoManager with
    | some id => (.done, w.setModified act id modified)
    | none => (.done, w)
  | .unsubscribe signal id =>
    (.done, w.modifyEditor fun e => { e with bus := e.bus.unsubscribe signal id })

def watchEditor (signal : EditorSignal) (label : String) (actions : List Command) (times : Nat)
    (e : Editor) (w : Workspace) : Reply × Workspace :=
  match e.bus.subscribe signal w.nextId with
  | .ok (subscription, bus) =>
    (.subscribed subscription,
      (w.modifyEditor fun e => { e with bus }).addObserver label actions times)
  | .error cause => (.failed (.editor (.signal cause)), w)

/-- Makes a session the standalone one. An older one is let go without being torn down. -/
def installSession (id : Nat) (w : Workspace) : Workspace :=
  let w := match w.standalone with
    | some older => w.dropSession older
    | none => w
  { w with standalone := some id }

/-- Creates the standalone session. If an older one is in use, the new one is let go. -/
def newSession (spec : SessionSpec) (w : Workspace) : Reply × Workspace :=
  match w.createSession spec .all with
  | (.error cause, w) => (.failed (.session (.engine cause)), w)
  | (.ok id, w) =>
    if w.isFree .standalone .exclusive then (.done, w.installSession id)
    else (.busy, w.dropSession id)

def destroyStandalone (w : Workspace) : Reply × Workspace :=
  match w.standalone with
  | none => (.absent, w)
  | some id =>
    w.holding .standalone .exclusive fun w =>
      reply .teardown ({ w with standalone := none }.destroySession id)

def newEditor (spec : EditorSpec) (w : Workspace) : Reply × Workspace :=
  w.holding .editor .exclusive fun w => (.done, w.createEditor spec)

def step (act : Conduct) (command : Command) (w : Workspace) : Reply × Workspace :=
  match command with
  | .engine c => w.doEngine act c
  | .session c => w.withSession .shared fun id w => w.doSession act id c
  | .input c => w.withSession .exclusive fun id w => w.doInput act id c
  | .editor c => w.withEditor (editorAccess c) fun e w => w.doEditor act e c
  | .newSession spec => w.newSession spec
  | .destroySession => w.destroyStandalone
  | .newEditor spec => w.newEditor spec
  | .watchEngine signal label actions times => w.watchEngine signal label actions times
  | .watchSession signal label actions times =>
    w.withSession .shared (watchSession signal label actions times)
  | .watchEditor signal label actions times =>
    w.withEditor .shared (watchEditor signal label actions times)
  | .undecodable => (.undecodable, w)

/-- Carries out a command, with at most `depth` levels of nesting. -/
def perform : Nat → Conduct
  | 0, _, w => (.done, w)
  | depth + 1, command, w => step (perform depth) command w

def execute (command : Command) (w : Workspace) : Reply × Workspace :=
  perform (w.potential + command.weight) command w

def run : List Command → Workspace → List (Reply × List LogEntry) × Workspace
  | [], w => ([], w)
  | c :: rest, w =>
    let (reply, w) := w.execute c
    let (log, w) := w.takeLog
    let (results, w) := run rest w
    ((reply, log) :: results, w)

end Coedit.Workspace
