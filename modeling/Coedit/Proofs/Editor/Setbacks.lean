import Coedit.Proofs.Editor.Bystanders
import Coedit.Proofs.Editor.Refusals

/-!
# Setbacks of an opening

The editor acquires what it needs for a document step by step: a session, which subscribes to
the signals that it relays, an undo manager, a relay for the metadata, and its place among the
members. Every step may fail. Here it is followed what the editor and the engine's bus are when
one does, before anything is given up.
-/

namespace Coedit

namespace Workspace

open Attempt (Triple)

/-! ## Opening with a faulty input controller -/

/-- Opens a document with an input controller that may be faulty. -/
def openOn (faults : InputFaults) (url : String) (w : Workspace) : Reply × Workspace :=
  w.withEditor .exclusive fun e w =>
    reply .editor ((openDocument conduct w.files e url faults).result w)

/-! ## What failed, and what it leaves behind -/

/-- What an opening can fail at, in the order in which it is tried. -/
inductive Obstacle where
  | document
  | relay
  | undoManager
  | metadata
  | member
  | cursor
  deriving DecidableEq, Repr

def entryObstacle (e : Editor) (w : Workspace) : Obstacle :=
  if !w.admits .metadataChanged then .metadata
  else if (w.refused? [.addMember e.member e.user]).isSome then .member
  else .cursor

def sessionObstacle (faults : InputFaults) (e : Editor) (w : Workspace) : Obstacle :=
  if !relayedSignals.all w.admits then .relay
  else if e.options.features.undoRedo && faults.undoManager.isSome then .undoManager
  else entryObstacle e w

/-- What an opening fails at, if it does. The cursor is the last thing to fail, and only then
others have heard of the member; they may have closed the document again. -/
def obstacle (faults : InputFaults) (url : String) (e : Editor) (w : Workspace) : Obstacle :=
  match w.engine.find w.files url with
  | .error _ => .document
  | .ok _ => sessionObstacle faults e w

/-- A bus with the subscriptions of an editor's session and of the undo manager, if there is to
be one. -/
def sessionBus (e : Editor) (w : Workspace) : SignalBus EngineSignal EngineListener :=
  if e.options.features.undoRedo then
    joined (relayedBy w.nextId w.engine.bus) .undoStackChanged (.undoManager (w.nextId + 1))
  else relayedBy w.nextId w.engine.bus

namespace Obstacle

def bus (o : Obstacle) (e : Editor) (w : Workspace) : SignalBus EngineSignal EngineListener :=
  match o with
  | document | relay => w.engine.bus
  | undoManager => relayedBy w.nextId w.engine.bus
  | _ => sessionBus e w

/-- The subscriptions that outlive their session: those of the session itself, and that of its
input controller. -/
def left (o : Obstacle) (e : Editor) (w : Workspace) :
    List (Subscription EngineSignal EngineListener) :=
  match o with
  | document | relay => []
  | undoManager => relays w.nextId w.engine.bus.nextId
  | _ => relays w.nextId w.engine.bus.nextId ++
      if e.options.features.undoRedo then
        [{ id := w.engine.bus.nextId + relayedSignals.length, kind := .undoStackChanged
           handler := .undoManager (w.nextId + 1) }]
      else []

def toolbar (o : Obstacle) (e : Editor) : Toolbar :=
  match o with
  | cursor => { attached := true }
  | _ => e.toolbar

end Obstacle

theorem Obstacle.subscriptions_bus (o : Obstacle) (e : Editor) (w : Workspace) :
    (o.bus e w).subscriptions = w.engine.bus.subscriptions ++ o.left e w := by
  have hrelayed := subscriptions_relayedBy w.nextId w.engine.bus
  have hsession : (sessionBus e w).subscriptions = w.engine.bus.subscriptions ++
      (relays w.nextId w.engine.bus.nextId ++ if e.options.features.undoRedo then
        [{ id := w.engine.bus.nextId + relayedSignals.length, kind := .undoStackChanged
           handler := .undoManager (w.nextId + 1) }]
      else []) := by
    unfold sessionBus
    split
    · rw [← List.append_assoc, ← hrelayed]
      rfl
    · rw [List.append_nil, hrelayed]
  cases o with
  | document | relay => exact (List.append_nil _).symm
  | undoManager => exact hrelayed
  | metadata | member | cursor => exact hsession

/-! ## Before others hear of it -/

structure Prepared (start : Workspace) (next : Nat) (e : Editor)
    (bus : SignalBus EngineSignal EngineListener) (w : Workspace) : Prop
    extends Standing start.holds e bus w where
  refusals : w.refusals = start.refusals
  declared : bus.declared = start.engine.bus.declared
  numbered : bus.Numbered
  opened : w.engine.phase = .opened
  nextId : w.nextId = next

section Prepared

variable {start w w' : Workspace} {next : Nat} {e e' cur : Editor} {faults : InputFaults}
  {bus : SignalBus EngineSignal EngineListener}

theorem Prepared.admits (h : Prepared start next e bus w) (signal : EngineSignal) :
    w.admits signal = start.admits signal := by
  unfold Workspace.admits SignalBus.isDeclared
  rw [h.refusals, h.wired, h.declared]

theorem Prepared.modifyEditor (h : Prepared start next e bus w) (f : Editor → Editor) :
    Prepared start next (f e) bus (w.modifyEditor f) :=
  ⟨h.toStanding.modifyEditor f, h.refusals, h.declared, h.numbered, h.opened, h.nextId⟩

/-- Nothing that matters here was changed. -/
theorem Prepared.congr (h : Prepared start next e bus w) (hpassing : Passing w w')
    (hrefusals : w'.refusals = w.refusals) (hphase : w'.engine.phase = w.engine.phase) :
    Prepared start next e bus w' :=
  ⟨h.toStanding.passing hpassing, hrefusals.trans h.refusals, h.declared, h.numbered,
    hphase.trans h.opened, hpassing.nextId.trans h.nextId⟩

theorem Prepared.subscribed (h : Prepared start next e bus w) (signal : EngineSignal)
    (listener : EngineListener) : Prepared start next e (joined bus signal listener)
      { w with engine := Workspace.subscribed w.engine signal listener } where
  under := h.under
  editor := h.editor
  wired := by
    rw [← h.wired]
    rfl
  gives := h.gives
  refusals := h.refusals
  declared := h.declared
  numbered := numbered_joined h.numbered signal listener
  opened := h.opened
  nextId := h.nextId

/-! ## Starting a session -/

/-- The opening failed at `o`, and what it acquired is still to be given up. -/
def Halted (start : Workspace) (e : Editor) (o : Obstacle) (w : Workspace) : Prop :=
  ∃ e' bus, Standing start.holds e' bus w ∧
    { e'.silent with session := none } = { e with toolbar := o.toolbar e } ∧
    (unrelayed e' bus).subscriptions = (o.bus e start).subscriptions

theorem Halted.passing {o : Obstacle} (h : Halted start e o w) (hpassing : Passing w w') :
    Halted start e o w' := by
  obtain ⟨e', bus, hw, hsilent, hbus⟩ := h
  exact ⟨e', bus, hw.passing hpassing, hsilent, hbus⟩

theorem silent_of_bare (h : e.Bare) : { e.silent with session := none } = e := by
  cases e
  obtain ⟨rfl, rfl, rfl, rfl⟩ := h
  rfl

def Blank (session : Nat) (w : Workspace) : Prop :=
  ∃ s, w.sessions.get? session = some s ∧ s.input.undoSubscription = none

/-- A session was created, or a signal that it relays was refused. -/
theorem triple_createSession_or_halt (hbare : cur.Bare) (e : Editor) (spec : SessionSpec)
    (features : FeatureSet) :
    Triple (Prepared start start.nextId cur start.engine.bus)
      (bySession (createSession spec features))
      (fun id w => relayedSignals.all start.admits = true ∧ id = start.nextId ∧
        Prepared start (start.nextId + 1) cur (relayedBy start.nextId start.engine.bus) w ∧
          Blank start.nextId w)
      (fun _ => Halted start cur (sessionObstacle faults e start)) := by
  intro w hw
  cases hall : relayedSignals.all start.admits with
  | false =>
      have hobstacle : sessionObstacle faults e start = .relay := by simp [sessionObstacle, hall]
      have hnumbered : w.engine.bus.Numbered := hw.wired ▸ hw.numbered
      obtain ⟨signal, hmem, hsignal⟩ : ∃ signal ∈ relayedSignals, start.admits signal = false := by
        simpa using hall
      obtain ⟨cause, bus, log, heq, hsame⟩ := createSession_of_refused
        ⟨signal, hmem, (hw.admits signal).trans hsignal⟩ hnumbered spec features
      simp only [bySession, Attempt.result_of, heq]
      rw [hobstacle]
      refine ⟨cur, bus, ⟨hw.under, hw.editor, rfl, hw.gives⟩, silent_of_bare hbare, ?_⟩
      rw [unrelayed, hbare.metadata, hsame, hw.wired]
      rfl
  | true =>
      have hadmitted : ∀ signal ∈ relayedSignals, w.admits signal = true := fun signal hmem =>
        (hw.admits signal).trans (List.all_eq_true.1 hall signal hmem)
      obtain ⟨w', heq⟩ := createSession_of_admits hadmitted spec features
      obtain ⟨engine, made, log, -, rfl, hsubscribed⟩ := createSession_spec heq
      simp only [bySession, Attempt.result_of, heq]
      have hbus : engine.bus = relayedBy start.nextId start.engine.bus := by
        rw [hsubscribed.engine, bus_subscribedAll, hw.nextId, hw.wired]
        rfl
      obtain ⟨_, hengine, -⟩ := subscribedAll_eq w.nextId relayedSignals w.engine
      rw [← hsubscribed.engine] at hengine
      refine ⟨trivial, hw.nextId, ⟨⟨hw.under, hw.editor, hbus, hw.gives⟩, hw.refusals,
        (declared_relayedBy _ _).trans hw.declared, numbered_relayedBy _ hw.numbered, ?_,
        congrArg (· + 1) hw.nextId⟩, newSessionState spec made, by rw [hw.nextId]; simp, rfl⟩
      rw [hengine]
      exact hw.opened

/-! ## The undo manager -/

theorem triple_startUndo_of_fault {Q : Workspace → Prop} {cause : EngineError}
    (hfault : faults.undoManager = some cause) (e : Editor) (id : Nat) :
    Triple (Standing start.holds e' bus) (startUndo e id faults) (fun _ => Q)
      (fun _ => Standing start.holds e' bus) := by
  refine startUndo_rule (A := Standing start.holds e' bus)
    (B := fun _ => Standing start.holds e' bus) (C := fun _ _ => False)
    (fun w hw => hw.passing (passing_interfaceNote e.frontend .undoManager w))
    (fun w hw => ⟨hw.under, hw.editor, hw.wired, hw.gives⟩) (fun manager => ?_)
    fun _ _ hfalse => hfalse.elim
  rw [hfault]
  exact triple_byEngine_of_error fun w hw => ⟨cause, w, rfl, hw⟩

theorem triple_setUndoManager {E : EditorError → Workspace → Prop}
    (hadmitted : start.admits .undoStackChanged = true) {session manager : Nat} :
    Triple (fun w => (Prepared start next e bus w ∧ Blank session w) ∧
        w.undoManagers.get? manager = some {}) (byEngine (setUndoManager session manager))
      (fun _ w => Prepared start next e (joined bus .undoStackChanged (.undoManager manager)) w ∧
        w.undoManagers.get? manager = some {}) E := by
  refine triple_byEngine fun w hw => ?_
  obtain ⟨⟨hprepared, s, hs, hundo⟩, hmanager⟩ := hw
  have hdropped : w.dropUndoSubscription session = w := by
    unfold dropUndoSubscription
    rw [hs, Option.bind_some, hundo]
  unfold setUndoManager
  rw [hdropped, subscribe_of_admits ((hprepared.admits _).trans hadmitted)]
  refine ⟨(), _, rfl, ?_, hmanager⟩
  exact (hprepared.subscribed _ _).congr (passing_modifySession fun _ => rfl) rfl rfl

theorem triple_startUndo_of_sound {E : EditorError → Workspace → Prop}
    (hsound : faults.undoManager = none) (hadmitted : start.admits .undoStackChanged = true)
    (e : Editor) (id : Nat) :
    Triple (fun w => Prepared start next e' bus w ∧ Blank id w) (startUndo e id faults)
      (fun _ => Prepared start (next + 1)
        { e' with undoManager := some next, modifiedSubscription := some 0 }
        (joined bus .undoStackChanged (.undoManager next))) E := by
  refine startUndo_rule (A := fun w => Prepared start next e' bus w ∧ Blank id w)
    (B := fun manager w => manager = next ∧ (Prepared start (next + 1) e' bus w ∧ Blank id w) ∧
      w.undoManagers.get? next = some {})
    (C := fun manager w => manager = next ∧ Prepared start (next + 1) e'
      (joined bus .undoStackChanged (.undoManager next)) w ∧ w.undoManagers.get? next = some {})
    (fun w hw => ?_) (fun w hw => ?_) (fun manager => ?_) fun manager w hw => ?_
  · obtain ⟨log, hlog⟩ := interfaceNote_eq e.frontend .undoManager w
    rw [hlog]
    exact ⟨hw.1.congr ⟨rfl, rfl, rfl, fun _ => rfl, rfl, fun _ => rfl⟩ rfl rfl, hw.2⟩
  · obtain ⟨hprepared, hblank⟩ := hw
    refine ⟨hprepared.nextId, ⟨⟨⟨hprepared.under, hprepared.editor, hprepared.wired,
      hprepared.gives⟩, hprepared.refusals, hprepared.declared, hprepared.numbered,
      hprepared.opened, congrArg (· + 1) hprepared.nextId⟩, hblank⟩, ?_⟩
    simp [createUndoManager, hprepared.nextId]
  · rw [hsound]
    rintro w ⟨rfl, hw⟩
    exact (triple_setUndoManager hadmitted).mono (fun _ hw => hw) (fun _ _ hw => ⟨rfl, hw⟩)
      (fun _ _ hw => hw) w hw
  · obtain ⟨rfl, hprepared, hmanager⟩ := hw
    have hmanaged : Prepared start (manager + 1) e'
        (joined bus .undoStackChanged (.undoManager manager))
        { w with undoManagers := w.undoManagers.insert manager (relayingManager e.id) } :=
      hprepared.congr ⟨rfl, rfl, rfl, fun _ => rfl, rfl, fun _ => rfl⟩ rfl rfl
    rw [relayModified_of_new hmanager e]
    exact hmanaged.modifyEditor fun e =>
      { e with undoManager := some manager, modifiedSubscription := some 0 }

/-! ## Entering the document -/

theorem refused?_of_refusals (h : w.refusals = start.refusals) (batch : Batch) :
    w.refused? batch = start.refused? batch := by
  unfold refused?
  rw [h]

theorem submit_of_refused {batch : Batch} (h : (w.refused? batch).isSome = true) :
    ∃ cause, w.submit conduct batch = (.error cause, w) := by
  obtain ⟨op, hop⟩ := Option.isSome_iff_exists.1 h
  unfold submit takeFrom
  rw [hop]
  exact ⟨_, rfl⟩

/-- An engine with an open document takes what it does not refuse. -/
theorem submit_of_taken {batch : Batch} (h : w.refused? batch = none)
    (hopened : w.engine.phase = .opened) : (w.submit conduct batch).1 = .ok () := by
  unfold submit takeFrom take Engine.accept
  rw [h, hopened]

def StillLoading (start : Workspace) (w : Workspace) : Prop :=
  ∃ e bus, Standing start.holds e bus w ∧ e.state = .loading

/-- The relay is made, or the signal is refused. -/
theorem triple_relayMetadata_or_halt (hcur : { e'.silent with session := none } = cur)
    (hrelay : e'.metadataSubscription = none)
    (hbus : bus.subscriptions = (sessionBus cur start).subscriptions) (e : Editor) :
    Triple (Prepared start next e' bus)
      (byEngine (subscribe .metadataChanged (.metadataRelay e.id)))
      (fun relay w => start.admits .metadataChanged = true ∧ relay = bus.nextId ∧
        Prepared start next e' (joined bus .metadataChanged (.metadataRelay e.id)) w)
      (fun _ => Halted start cur (entryObstacle e start)) := by
  cases hmetadata : start.admits .metadataChanged with
  | false =>
      have hentry : entryObstacle e start = .metadata := by simp [entryObstacle, hmetadata]
      rw [hentry]
      intro w hw
      obtain ⟨cause, heq⟩ := subscribe_of_refused ((hw.admits _).trans hmetadata)
        (.metadataRelay e.id)
      simp only [byEngine, Attempt.result_of, heq]
      refine ⟨e', bus, hw.toStanding, hcur, ?_⟩
      rw [unrelayed, hrelay]
      exact hbus
  | true =>
      refine triple_byEngine fun w hw => ?_
      rw [subscribe_of_admits ((hw.admits _).trans hmetadata)]
      exact ⟨_, _, rfl, rfl, by rw [hw.wired], hw.subscribed _ _⟩

/-- The engine accepts the member, or refuses it. -/
theorem triple_introduce_or_halt (hheld : (.editor, .exclusive) ∈ start.holds)
    (hmetadata : start.admits .metadataChanged = true)
    (hcur : { e'.silent with session := none } = cur)
    (hended : (unrelayed e' bus).subscriptions = (sessionBus cur start).subscriptions)
    (e : Editor) :
    Triple (Prepared start next e' bus) (byEngine (submit conduct [.addMember e.member e.user]))
      (fun _ w => entryObstacle e start = .cursor ∧ Standing start.holds e' bus w)
      (fun _ => Halted start cur (entryObstacle e start)) := by
  cases hmember : start.refused? [.addMember e.member e.user] with
  | some op =>
      have hentry : entryObstacle e start = .member := by simp [entryObstacle, hmetadata, hmember]
      rw [hentry]
      intro w hw
      have hrefused : (w.refused? [.addMember e.member e.user]).isSome = true := by
        rw [refused?_of_refusals hw.refusals, hmember]
        rfl
      obtain ⟨cause, heq⟩ := submit_of_refused hrefused
      simp only [byEngine, Attempt.result_of, heq]
      exact ⟨e', bus, hw.toStanding, hcur, hended⟩
  | none =>
      have hentry : entryObstacle e start = .cursor := by simp [entryObstacle, hmetadata, hmember]
      refine triple_byEngine fun w hw => ⟨(), (w.submit conduct [.addMember e.member e.user]).2, ?_,
        hentry, (lasting_standing hheld).submit _ hw.toStanding⟩
      rw [← submit_of_taken ((refused?_of_refusals hw.refusals _).trans hmember) hw.opened]

theorem triple_enterDocument_or_halt (hheld : (.editor, .exclusive) ∈ start.holds)
    (hloading : e'.state = .loading) (hcur : { e'.silent with session := none } = cur)
    (hrelay : e'.metadataSubscription = none) (hnumbered : bus.Numbered)
    (hbus : bus.subscriptions = (sessionBus cur start).subscriptions) (e : Editor) (id : Nat) :
    Triple (Prepared start next e' bus) (enterDocument conduct e id faults)
      (fun _ => StillLoading start) (fun _ => Halted start cur (entryObstacle e start)) := by
  let relaying : Editor := { e' with metadataSubscription := some bus.nextId }
  let attached : Editor := { relaying with toolbar := { attached := true } }
  let wired := joined bus .metadataChanged (.metadataRelay e.id)
  let Entered (w : Workspace) : Prop :=
    entryObstacle e start = .cursor ∧ Standing start.holds attached wired w
  have hended : (unrelayed relaying wired).subscriptions = (sessionBus cur start).subscriptions :=
    (unsubscribe_joined hnumbered (.metadataRelay e.id)).trans hbus
  have hintroduce (relay : Nat) : Triple
      (fun w => start.admits .metadataChanged = true ∧ Prepared start next relaying wired w)
      (byEngine (submit conduct [.addMember e.member e.user]))
      (fun _ w => entryObstacle e start = .cursor ∧ Standing start.holds relaying wired w)
      (fun _ => Halted start cur (entryObstacle e start)) := by
    rintro w ⟨hmetadata, hw⟩
    refine triple_introduce_or_halt hheld hmetadata ?_ hended e w hw
    exact hcur
  have hhalted (cause : EditorError) (w : Workspace) (hw : Entered w) :
      Halted start cur (entryObstacle e start) w := by
    have hattached := congrArg (fun e : Editor => { e with toolbar := { attached := true } }) hcur
    rw [hw.1]
    exact ⟨attached, wired, hw.2, hattached, hended⟩
  have hcursor : Triple Entered (byEngine (insertCursor conduct id)) (fun _ => Entered)
      (fun _ => Entered) :=
    triple_byEngine_of_lasting fun w hw =>
      ⟨hw.1, (lasting_standing hheld).submitFor id .addCursor hw.2⟩
  refine enterDocument_rule (triple_relayMetadata_or_halt hcur hrelay hbus e) ?_ hintroduce ?_
    (fun _ => triple_unlessFault (hcursor.mono (fun _ hw => hw) (fun _ _ hw => hw) hhalted)
      fun cause w _ hw => hhalted (.engine cause) w hw) ?_
  · rintro relay w ⟨hmetadata, rfl, hw⟩
    exact ⟨hmetadata, hw.modifyEditor fun e => { e with metadataSubscription := some bus.nextId }⟩
  · intro relay w hw
    have hnoted := hw.2.passing (passing_interfaceNote e.frontend (.attached true) w)
    exact ⟨hw.1, hnoted.modifyEditor fun e => { e with toolbar := e.toolbar.attach true }⟩
  · exact fun relay w hw => ⟨_, wired, hw.2.passing (passing_setEditing id true w), hloading⟩

/-! ## The whole way -/

def Outfitted (start : Workspace) (cur : Editor) (w : Workspace) : Prop :=
  ∃ e' next bus, e'.state = .loading ∧ { e'.silent with session := none } = cur ∧
    e'.metadataSubscription = none ∧ bus.subscriptions = (sessionBus cur start).subscriptions ∧
      Prepared start next e' bus w

/-- The undo manager was provided, or the input controller has failed. -/
theorem triple_startUndo_or_halt (hloading : cur.state = .loading) (hbare : cur.Bare)
    (hoptions : cur.options = e.options) (hadmitted : relayedSignals.all start.admits = true)
    (hundo : e.options.features.undoRedo = true) :
    Triple (fun w => Prepared start (start.nextId + 1) cur
        (relayedBy start.nextId start.engine.bus) w ∧ Blank start.nextId w)
      (startUndo e start.nextId faults)
      (fun _ w => sessionObstacle faults e start = entryObstacle e start ∧ Outfitted start cur w)
      (fun _ => Halted start cur (sessionObstacle faults e start)) := by
  have hsilent := silent_of_bare hbare
  cases hfault : faults.undoManager with
  | some cause =>
      have hobstacle : sessionObstacle faults e start = .undoManager := by
        simp [sessionObstacle, hadmitted, hundo, hfault]
      refine (triple_startUndo_of_fault (Q := fun _ => False) hfault e _).mono
        (fun _ hw => hw.1.toStanding) (fun _ _ hfalse => hfalse.elim) fun _ w hw => ?_
      rw [hobstacle]
      refine ⟨cur, _, hw, hsilent, ?_⟩
      rw [unrelayed, hbare.metadata]
      rfl
  | none =>
      have hobstacle : sessionObstacle faults e start = entryObstacle e start := by
        simp [sessionObstacle, hadmitted, hfault]
      have hbus : (joined (relayedBy start.nextId start.engine.bus) .undoStackChanged
          (.undoManager (start.nextId + 1))).subscriptions =
            (sessionBus cur start).subscriptions := by
        rw [sessionBus, hoptions, hundo]
        rfl
      have hstack : start.admits .undoStackChanged = true :=
        List.all_eq_true.1 hadmitted _ (by decide)
      refine (triple_startUndo_of_sound hfault hstack e _).mono (fun _ hw => hw)
        (fun _ w hw => ⟨hobstacle, ?_⟩) fun _ _ hw => hw
      exact ⟨{ cur with undoManager := some (start.nextId + 1), modifiedSubscription := some 0 }, _,
        _, hloading, hsilent, hbare.metadata, hbus, hw⟩

theorem triple_equipSession_or_halt (hheld : (.editor, .exclusive) ∈ start.holds)
    (hloading : cur.state = .loading) (hbare : cur.Bare) (hoptions : cur.options = e.options)
    (hadmitted : relayedSignals.all start.admits = true) :
    Triple (fun w => Prepared start (start.nextId + 1) cur
        (relayedBy start.nextId start.engine.bus) w ∧ Blank start.nextId w)
      (equipSession conduct e start.nextId faults) (fun _ => StillLoading start)
      (fun _ => Halted start cur (sessionObstacle faults e start)) := by
  refine equipSession_rule
    (triple_startUndo_or_halt hloading hbare hoptions hadmitted) (fun w hplain hw => ?_) ?_
  · have hobstacle : sessionObstacle faults e start = entryObstacle e start := by
      simp [sessionObstacle, hadmitted, hplain]
    have hbus : (relayedBy start.nextId start.engine.bus).subscriptions =
        (sessionBus cur start).subscriptions := by
      rw [sessionBus, hoptions, hplain]
      rfl
    exact ⟨hobstacle, _, _, _, hloading, silent_of_bare hbare, hbare.metadata, hbus, hw.1⟩
  · rintro w ⟨hobstacle, e', next, bus, hstate, hcur, hrelay, hbus, hw⟩
    rw [hobstacle]
    exact triple_enterDocument_or_halt hheld hstate hcur hrelay hw.numbered hbus e _ w hw

theorem triple_startSession_or_halt (hheld : (.editor, .exclusive) ∈ start.holds)
    (hloading : cur.state = .loading) (hbare : cur.Bare) (hoptions : cur.options = e.options) :
    Triple (Prepared start start.nextId cur start.engine.bus) (startSession conduct e faults)
      (fun _ => StillLoading start)
      (fun _ => Halted start cur (sessionObstacle faults e start)) := by
  refine startSession_rule (B := fun _ => StillLoading start)
    (F := fun _ _ => Halted start cur (sessionObstacle faults e start))
    (triple_createSession_or_halt hbare e _ _) (fun session => ?_)
    (fun session cause w hw => hw.passing (passing_modifySession fun _ => rfl))
    fun session w hw => ?_
  · rintro w ⟨hadmitted, rfl, hw⟩
    exact triple_equipSession_or_halt hheld hloading hbare hoptions hadmitted w hw
  · obtain ⟨e', bus, hw, hstate⟩ := hw
    exact ⟨_, bus, hw.modifyEditor fun e => { e with session := some session }, hstate⟩

end Prepared

end Workspace

end Coedit
