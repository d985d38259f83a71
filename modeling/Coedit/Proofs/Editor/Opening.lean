import Coedit.Proofs.Editor.Stages
import Coedit.Proofs.Workspace.Operations

/-!
# Opening a document

An engine that refuses nothing lets the editor start a session on every document that it has
loaded. Each step of starting one leads from a stage of the editor to another, with a record for
each subscription that it makes.
-/

namespace Coedit.Workspace

open Attempt (Triple)

structure OpenStage (base : List (Subscription EngineSignal EngineListener)) (e : Editor)
    (held : Option Nat) (records : List (EngineSignal × Nat)) (w : Workspace) : Prop
    extends Stage base e held records w where
  opened : w.engine.phase = .opened
  linked : Linked e w

theorem engine_interfaceNote (frontend : Frontend) (note : InterfaceNote) (w : Workspace) :
    (w.interfaceNote frontend note).engine = w.engine := by
  cases frontend <;> rfl

theorem phase_setEditing (id : Nat) (editing : Bool) (w : Workspace) :
    (w.setEditing id editing).engine.phase = w.engine.phase := by
  unfold setEditing
  cases w.sessions.get? id with
  | none => rfl
  | some s => simp only [modifySession, engine_interfaceNote]

section Opening

variable {base : List (Subscription EngineSignal EngineListener)} {e : Editor} {id : Nat}
  {held : Option Nat} {records : List (EngineSignal × Nat)} {w w' : Workspace}
  {E : EditorError → Workspace → Prop}

theorem OpenStage.noted (h : OpenStage base e held records w) (frontend : Frontend)
    (note : InterfaceNote) : OpenStage base e held records (w.interfaceNote frontend note) where
  toStage := h.undisturbed (undisturbed_interfaceNote h.quiet frontend note)
  opened := by rw [engine_interfaceNote, h.opened]
  linked := h.linked.undisturbed (undisturbed_interfaceNote h.quiet frontend note)

theorem OpenStage.modifyEditor (h : OpenStage base e held records w) (f : Editor → Editor)
    (hlinked : Linked (f e) w) : OpenStage base (f e) held records (w.modifyEditor f) :=
  ⟨h.toStage.modifyEditor f, h.opened, hlinked.relay, hlinked.manager⟩

/-! ## Submitting -/

theorem phase_submission :
    Submission fun w w' => w'.Quiet ∧ w'.engine.phase = w.engine.phase where
  quiet := fun h => h.1
  refl := fun h => ⟨h, rfl⟩
  trans := fun h h' => ⟨h'.1, h'.2.trans h.2⟩
  flush := by
    intro w h
    have hheard := heard_flush h
    exact ⟨hheard.quiet, by rw [hheard.engine]; rfl⟩
  queued := fun h _ => ⟨h, rfl⟩
  reserve := by
    intro w h id p
    have hkept := undisturbed_changeReservation h id p .reserve
    obtain ⟨sessions, heq⟩ := changeReservation_eq id p .reserve w
    exact ⟨hkept.quiet, by rw [heq]⟩
  release := by
    intro w h id p
    have hkept := undisturbed_changeReservation h id p .release
    obtain ⟨sessions, heq⟩ := changeReservation_eq id p .release w
    exact ⟨hkept.quiet, by rw [heq]⟩

/-- An engine with an open document accepts every batch. -/
theorem submit_of_opened (hw : w.Welcoming) (hopened : w.engine.phase = .opened) (batch : Batch) :
    (w.submit conduct batch).1 = .ok () := by
  have hrefused : w.refused? batch = none := by
    unfold refused?
    rw [hw.refusals]
    simp
  unfold submit takeFrom take Engine.accept
  rw [hrefused, hopened]

theorem submit_spec (h : OpenStage base e held records w) (batch : Batch) :
    ∃ w', w.submit conduct batch = (.ok (), w') ∧ OpenStage base e held records w' := by
  have hphase := (phase_submission.submit h.quiet batch).2
  have hsubmitted := undisturbed_submission.submit h.quiet batch
  refine ⟨(w.submit conduct batch).2, ?_, h.undisturbed hsubmitted, hphase.trans h.opened,
    h.linked.undisturbed hsubmitted⟩
  rw [← submit_of_opened h.welcoming h.opened batch]

theorem triple_submit (batch : Batch) : Triple (OpenStage base e held records)
    (byEngine (submit conduct batch)) (fun _ => OpenStage base e held records) E :=
  triple_byEngine fun w hw => by
    obtain ⟨w', heq, hstage⟩ := submit_spec hw batch
    exact ⟨(), w', heq, hstage⟩

theorem triple_insertCursor (id : Nat) : Triple (OpenStage base e held records)
    (byEngine (insertCursor conduct id)) (fun _ => OpenStage base e held records) E := by
  refine triple_byEngine fun w hw => ?_
  unfold insertCursor submitFor
  cases w.sessions.get? id with
  | none => exact ⟨(), w, rfl, hw⟩
  | some s =>
      obtain ⟨w', heq, hstage⟩ := submit_spec hw [.addCursor s.core.member]
      exact ⟨(), w', heq, hstage⟩

/-! ## The session -/

theorem triple_createSession (hdetached : e.Detached) (spec : SessionSpec)
    (features : FeatureSet) :
    Triple (OpenStage base e none []) (bySession (createSession spec features))
      (fun id => OpenStage base e (some id) []) E := by
  refine triple_bySession fun w hw => ?_
  obtain ⟨w', heq⟩ := createSession_of_welcoming hw.welcoming spec features
  refine ⟨w.nextId, w', heq, ?_⟩
  obtain ⟨engine, made, log, -, rfl, hsubscribed⟩ := createSession_spec heq
  obtain ⟨bus, hengine, hdeclared⟩ := subscribedAll_eq w.nextId relayedSignals w.engine
  have hengine := hsubscribed.engine.trans hengine
  subst hengine
  have hwelcoming := welcoming_of_declared hw.welcoming hdeclared
  refine ⟨⟨hw.quiet, ⟨hwelcoming.refusals, hwelcoming.declared⟩, hw.editor,
    newSessionState spec made, by simp, fun s hs => ?_⟩, hw.opened, hdetached.linked _⟩
  rcases hsubscribed.recorded s hs with hold | hmade
  · exact hw.covered.mono (by simp) s hold
  · exact .inr (.inr (by simp [Session.records, newSessionState, hmade]))

/-! ## The undo manager -/

/-- The input controller's old subscription goes, and with it its record. -/
theorem dropUndoSubscription_spec (h : Stage base e (some id) records w) :
    ∃ bus sessions s,
      w.dropUndoSubscription id = { w with engine := { w.engine with bus }, sessions } ∧
      bus.declared = w.engine.bus.declared ∧ sessions.get? id = some s ∧
      s.input.undoSubscription = none ∧
      Owned base (records ++ s.subscriptions) (w.dropUndoSubscription id) := by
  obtain ⟨s, hs, howned⟩ := h.covered
  unfold dropUndoSubscription
  rw [hs]
  simp only [Option.bind_some]
  cases hundo : s.input.undoSubscription with
  | none =>
      refine ⟨w.engine.bus, w.sessions, s, rfl, rfl, hs, hundo, ?_⟩
      exact howned.mono (by simp [Session.records, hundo])
  | some subscription =>
      have hdropped : (w.sessions.modify id fun s =>
          { s with input := { s.input with undoSubscription := none } }).get? id =
            some { s with input := { s.input with undoSubscription := none } } := by
        rw [Dict.get?_modify, if_pos rfl, hs]
        rfl
      refine ⟨_, _, _, rfl, rfl, hdropped, rfl, ?_⟩
      refine owned_unsubscribe (howned.mono fun r hr => ?_)
      simp only [Session.records, hundo, Option.toList_some, List.map_cons, List.map_nil,
        List.mem_append, List.mem_singleton] at hr
      simp only [List.mem_cons, List.mem_append]
      rcases hr with hr | hr | hr
      · exact .inr (.inl hr)
      · exact .inr (.inr hr)
      · exact .inl hr

theorem setUndoManager_spec (h : Stage base e (some id) records w) (manager : Nat) :
    ∃ w', w.setUndoManager id manager = (.ok (), w') ∧ Stage base e (some id) records w' ∧
      w'.undoManagers = w.undoManagers ∧ w'.nextId = w.nextId ∧
        w'.engine.phase = w.engine.phase := by
  obtain ⟨bus, sessions, s, heq, hdeclared, hs, hundo, howned⟩ := dropUndoSubscription_spec h
  have hwelcoming : (w.dropUndoSubscription id).Welcoming := by
    have hdropped := welcoming_of_declared h.welcoming hdeclared
    rw [heq]
    exact ⟨hdropped.refusals, hdropped.declared⟩
  have hset : ((w.dropUndoSubscription id).sessions.modify id fun s =>
      { s with input := { s.input with
          undoManager := some manager
          undoSubscription := some (w.dropUndoSubscription id).engine.bus.nextId } }).get? id =
        some { s with input := { s.input with
          undoManager := some manager
          undoSubscription := some (w.dropUndoSubscription id).engine.bus.nextId } } := by
    rw [Dict.get?_modify, if_pos rfl, show (w.dropUndoSubscription id).sessions = sessions by
      rw [heq], hs]
    rfl
  unfold setUndoManager
  rw [subscribe_of_welcoming hwelcoming]
  refine ⟨_, rfl, ⟨?_, ⟨hwelcoming.refusals, hwelcoming.declared⟩, ?_, _, hset, ?_⟩, ?_, ?_, ?_⟩
  · have hquiet := h.quiet
    simpa [Quiet, modifySession, heq] using hquiet
  · simp [modifySession, heq, h.editor]
  · refine (owned_subscribed howned .undoStackChanged (.undoManager manager)).mono fun r hr => ?_
    simp only [Session.records, Option.toList_some, List.map_cons, List.map_nil, List.mem_append,
      List.mem_singleton]
    rcases List.mem_cons.1 hr with hr | hr
    · exact .inr (.inr hr)
    · rcases List.mem_append.1 hr with hr | hr
      · exact .inl hr
      · exact .inr (.inl hr)
  · simp [modifySession, heq]
  · simp [modifySession, heq]
  · simp [modifySession, subscribed, heq]

theorem Linked.createUndoManager (h : Linked e w) : Linked e w.createUndoManager.2 :=
  h.kept (fun _ hs _ => hs) (Nat.le_succ _) fun _ hlt => by
    simp only [Workspace.createUndoManager, Dict.get?_insert, if_neg (Nat.ne_of_gt hlt)]

/-- The input controller's subscriptions are none of those that the editor has a record of. -/
theorem Linked.setUndoManager (h : Linked e w) (id manager : Nat) :
    Linked e (w.setUndoManager id manager).2 := by
  have hdropped : Linked e (w.dropUndoSubscription id) := by
    unfold dropUndoSubscription
    split
    · exact h
    · exact h.kept (fun s hs hkind => List.mem_filter.2 ⟨hs, by simp [hkind]⟩) (Nat.le_refl _)
        fun _ _ => rfl
  exact of_setUndoManager hdropped
    (hdropped.kept (fun s hs _ => List.mem_append_left _ hs) (Nat.le_refl _) fun _ _ => rfl)

def relayingManager (editor : Nat) : UndoManager Nat where
  bus := { declared := [.modifiedChanged], subscriptions := [⟨0, .modifiedChanged, editor⟩]
           nextId := 1 }

theorem relayModified_of_new {manager : Nat} (h : w.undoManagers.get? manager = some {})
    (e : Editor) : w.relayModified e manager =
      { w with undoManagers := w.undoManagers.insert manager (relayingManager e.id) }.modifyEditor
        fun e => { e with undoManager := some manager, modifiedSubscription := some 0 } := by
  unfold relayModified
  rw [h]
  rfl

theorem triple_startUndo {e cur : Editor} (hsame : cur.id = e.id) (hdetached : cur.Detached) :
    Triple (OpenStage base cur (some id) []) (startUndo e id)
      (fun _ w => ∃ manager, OpenStage base
        { cur with undoManager := some manager, modifiedSubscription := some 0 } (some id) [] w)
      E := by
  let Made (manager : Nat) (w : Workspace) : Prop := OpenStage base cur (some id) [] w ∧
    w.undoManagers.get? manager = some {} ∧ manager < w.nextId
  have hset : ∀ manager, Triple (Made manager) (byEngine (setUndoManager id manager))
      (fun _ => Made manager) E := by
    refine fun manager => triple_byEngine fun w hw => ?_
    obtain ⟨hopen, hmanager, hlt⟩ := hw
    obtain ⟨w', heq, hstage, hmanagers, hnextId, hphase⟩ :=
      setUndoManager_spec hopen.toStage manager
    exact ⟨(), w', heq, ⟨hstage, hphase.trans hopen.opened, hdetached.linked w'⟩,
      by rw [hmanagers]; exact hmanager, by rw [hnextId]; exact hlt⟩
  refine startUndo_rule (A := OpenStage base cur (some id) []) (B := Made) (C := Made)
    (fun w hw => hw.noted e.frontend .undoManager) (fun w hw => ?_) hset fun manager w hw => ?_
  · exact ⟨⟨hw.congr rfl rfl rfl rfl hw.editor, hw.opened, hdetached.linked _⟩,
      by simp [createUndoManager], Nat.lt_succ_self _⟩
  · obtain ⟨hopen, hmanager, hlt⟩ := hw
    rw [relayModified_of_new hmanager e]
    have hmanaged : OpenStage base cur (some id) []
        { w with undoManagers := w.undoManagers.insert manager (relayingManager e.id) } :=
      ⟨hopen.congr rfl rfl rfl rfl hopen.editor, hopen.opened, hdetached.linked _⟩
    refine ⟨manager, hmanaged.modifyEditor
      (fun e => { e with undoManager := some manager, modifiedSubscription := some 0 })
      ⟨fun relay hrelay => ?_, fun other hother => ?_⟩⟩
    · rw [hdetached.metadata] at hrelay
      cases hrelay
    · obtain rfl := Option.some.inj hother
      exact ⟨hlt, relayingManager e.id, 0, Dict.get?_insert_self _ _ _, rfl,
        by simp [relayingManager, hsame]⟩

/-! ## Entering the document -/

theorem triple_relayMetadata (e : Editor) (cur : Editor) :
    Triple (OpenStage base cur (some id) [])
      (byEngine (subscribe .metadataChanged (.metadataRelay e.id)))
      (fun relay w => OpenStage base cur (some id) [(.metadataChanged, relay)] w ∧
        { id := relay, kind := .metadataChanged, handler := .metadataRelay e.id } ∈
          w.engine.bus.subscriptions) E := by
  refine triple_byEngine fun w hw => ⟨_, _, subscribe_of_welcoming hw.welcoming _ _, ?_, ?_⟩
  · obtain ⟨s, hs, howned⟩ := hw.covered
    exact ⟨⟨hw.quiet, welcoming_subscribed hw.welcoming _ _, hw.editor, s, hs,
      owned_subscribed howned _ _⟩, hw.opened, hw.linked.kept
        (fun s hs _ => List.mem_append_left _ hs) (Nat.le_refl _) fun _ _ => rfl⟩
  · exact List.mem_append_right _ List.mem_cons_self

theorem triple_enterDocument {e cur : Editor} (hsame : cur.id = e.id) :
    Triple (OpenStage base cur (some id) []) (enterDocument conduct e id)
      (fun _ w => ∃ relay, OpenStage base
        { cur with metadataSubscription := some relay, toolbar := { attached := true } } (some id)
        [(.metadataChanged, relay)] w) E := by
  let relaying (relay : Nat) : Editor := { cur with metadataSubscription := some relay }
  let entered (relay : Nat) : Editor := { relaying relay with toolbar := { attached := true } }
  have hrelaying (relay : Nat) (w : Workspace)
      (hw : OpenStage base cur (some id) [(.metadataChanged, relay)] w ∧
        { id := relay, kind := .metadataChanged, handler := .metadataRelay e.id } ∈
          w.engine.bus.subscriptions) :
      OpenStage base (relaying relay) (some id) [(.metadataChanged, relay)]
        (w.modifyEditor fun e => { e with metadataSubscription := some relay }) := by
    refine hw.1.modifyEditor (fun e => { e with metadataSubscription := some relay })
      ⟨fun other hother => ?_, hw.1.linked.manager⟩
    obtain rfl := Option.some.inj hother
    exact hsame ▸ hw.2
  have hentered (relay : Nat) (w : Workspace)
      (hw : OpenStage base (relaying relay) (some id) [(.metadataChanged, relay)] w) :
      OpenStage base (entered relay) (some id) [(.metadataChanged, relay)]
        (w.attachToolbar e true) := by
    have hnoted := hw.noted e.frontend (.attached true)
    exact hnoted.modifyEditor (fun e => { e with toolbar := e.toolbar.attach true })
      (hnoted.linked.editor rfl rfl rfl rfl)
  refine enterDocument_rule (triple_relayMetadata e cur) hrelaying (fun _ => triple_submit _)
    hentered (fun _ => triple_insertCursor id) fun relay w hw => ?_
  have hediting := undisturbed_setEditing hw.quiet id true
  refine ⟨relay, hw.undisturbed hediting, ?_, hw.linked.undisturbed hediting⟩
  rw [phase_setEditing, hw.opened]

/-! ## The whole way -/

theorem triple_advance {action : EditorAction} {state : EditorState}
    (hnext : e.state.next? action = some state) : Triple (Stage base e held records)
      (advance action) (fun _ => Stage base { e with state } held records) E := by
  intro w hw
  rw [result_advance_of_legal hw.editor hnext]
  exact hw.modifyEditor fun e => { e with state }

/-- An editor like `e`, attached to a session, with a record for each subscription. -/
def Working (base : List (Subscription EngineSignal EngineListener)) (e : Editor)
    (w : Workspace) : Prop :=
  ∃ e' : Editor, ∃ session relay, e'.options = e.options ∧ e'.state = e.state ∧
    e'.Attached session relay ∧ Stage base e' (some session) [(.metadataChanged, relay)] w ∧
      Linked e' w

def Acquired (base : List (Subscription EngineSignal EngineListener)) (e : Editor)
    (session : Nat) (w : Workspace) : Prop :=
  ∃ e' : Editor, ∃ relay, e'.options = e.options ∧ e'.state = e.state ∧
    ({ e' with session := some session } : Editor).Attached session relay ∧
      Stage base e' (some session) [(.metadataChanged, relay)] w ∧ Linked e' w

theorem Acquired.join (h : Acquired base e id w) :
    Working base e (w.modifyEditor fun e => { e with session := some id }) := by
  obtain ⟨e', relay, hoptions, hstate, hattached, hstage, hlinked⟩ := h
  exact ⟨{ e' with session := some id }, id, relay, hoptions, hstate, hattached,
    hstage.modifyEditor fun e => { e with session := some id }, hlinked.relay, hlinked.manager⟩

theorem triple_enterAcquired {e cur : Editor} (hsame : cur.id = e.id)
    (hundo : cur.undoManager.isSome = cur.options.features.undoRedo)
    (hmodified : cur.modifiedSubscription.isSome = cur.options.features.undoRedo) :
    Triple (OpenStage base cur (some id) []) (enterDocument conduct e id)
      (fun _ => Acquired base cur id) E := by
  refine (triple_enterDocument hsame).mono (fun _ hw => hw) ?_ fun _ _ hw => hw
  rintro _ w ⟨relay, hw⟩
  exact ⟨{ cur with metadataSubscription := some relay, toolbar := { attached := true } },
    relay, rfl, rfl, ⟨rfl, hundo, hmodified, rfl, rfl⟩, hw.toStage, hw.linked⟩

theorem triple_equipSession {e cur : Editor} (hsame : cur.id = e.id)
    (hoptions : cur.options = e.options) (hdetached : cur.Detached) :
    Triple (OpenStage base cur (some id) []) (equipSession conduct e id)
      (fun _ => Acquired base cur id) E := by
  let Provided (w : Workspace) : Prop := ∃ cur' : Editor,
    cur'.id = e.id ∧ cur'.options = cur.options ∧ cur'.state = cur.state ∧
      cur'.undoManager.isSome = cur'.options.features.undoRedo ∧
        cur'.modifiedSubscription.isSome = cur'.options.features.undoRedo ∧
          OpenStage base cur' (some id) [] w
  refine equipSession_rule (A := Provided) (fun hfeature => ?_) (fun w hfeature hw => ?_) ?_
  · refine (triple_startUndo hsame hdetached).mono (fun _ hw => hw) ?_ fun _ _ hw => hw
    rintro _ w ⟨manager, hw⟩
    have hundo : true = cur.options.features.undoRedo := by rw [hoptions, hfeature]
    exact ⟨{ cur with undoManager := some manager, modifiedSubscription := some 0 }, hsame, rfl,
      rfl, hundo, hundo, hw⟩
  · have hundo : cur.options.features.undoRedo = false := by rw [hoptions, hfeature]
    refine ⟨cur, hsame, rfl, rfl, ?_, ?_, hw⟩
    · exact (congrArg Option.isSome hdetached.undoManager).trans hundo.symm
    · exact (congrArg Option.isSome hdetached.modified).trans hundo.symm
  · rintro w ⟨cur', hsame', hoptions', hstate', hundo, hmodified, hw⟩
    refine (triple_enterAcquired hsame' hundo hmodified).mono (fun _ hw => hw) ?_
      (fun _ _ hw => hw) w hw
    rintro _ w ⟨e', relay, hoptions, hstate, hacquired⟩
    exact ⟨e', relay, hoptions.trans hoptions', hstate.trans hstate', hacquired⟩

/-- A session can be started on every document that was loaded. -/
theorem triple_startSession {e cur : Editor} (hsame : cur.id = e.id)
    (hoptions : cur.options = e.options) (hdetached : cur.Detached) :
    Triple (OpenStage base cur none []) (startSession conduct e) (fun _ => Working base cur) E :=
  startSession_rule (F := fun _ _ _ => False) (triple_createSession hdetached _ _)
    (fun _ => triple_equipSession hsame hoptions hdetached) (fun _ _ _ hw => hw.elim)
    fun _ _ hw => hw.join

theorem triple_loadDocument (hdetached : e.Detached) (files : FileTree) (url : String) :
    Triple (Stage base e none []) (byEngine (loadDocument files url))
      (fun _ => OpenStage base e none []) (fun _ => Stage base e none []) := by
  intro w hw
  have hstage := hw.undisturbed (undisturbed_loadDocument hw.quiet files url)
  unfold byEngine loadDocument Engine.load at *
  rw [Attempt.result_of]
  cases hfind : w.engine.find files url with
  | error cause => exact hw
  | ok document =>
      rw [hfind] at hstage
      exact ⟨hstage, rfl, hdetached.linked _⟩

theorem triple_openDocument {options : EditorOptions} {state : EditorState}
    (hoptions : e.options = options) (hdetached : e.Detached)
    (hnext : e.state.next? .open = some state) (files : FileTree) (url : String) :
    Triple (Stage base e none []) (openDocument conduct files e url)
      (fun _ => Secure options base) (fun _ => Secure options base) := by
  obtain ⟨rfl, -⟩ := state_of_open hnext
  let loading : Editor := { e with state := .loading }
  have hloading : loading.Detached := ⟨hdetached.session, hdetached.undoManager,
    hdetached.modified, hdetached.metadata, hdetached.toolbar⟩
  have hfailed : Triple (Stage base loading none []) (advance .loadFailed)
      (fun _ => Secure options base) (fun _ => Secure options base) := by
    refine (triple_advance rfl).mono (fun _ hw => hw) (fun _ w hw => ?_) fun _ _ hw => hw
    exact .idle (e := { loading with state := .closed }) hoptions (.inr (.inl rfl))
      ⟨hloading.session, hloading.undoManager, hloading.modified, hloading.metadata,
        hloading.toolbar⟩ hw
  have hready : Triple (Working base loading) (advance .ready) (fun _ => Secure options base)
      (fun _ => Secure options base) := by
    rintro w ⟨e', session, relay, hsame, hstate, hattached, hw, hlinked⟩
    have hnext : e'.state.next? .ready = some .editing := by
      rw [hstate]
      rfl
    rw [result_advance_of_legal hw.editor hnext]
    have hediting := hw.modifyEditor fun e => { e with state := .editing }
    refine ⟨.editing { e' with state := .editing } session relay (hsame.trans hoptions) rfl
      ⟨hattached.session, hattached.undoManager, hattached.modified, hattached.metadata,
        hattached.toolbar⟩ hediting, fun cur hcur => ?_⟩
    obtain rfl := Option.some.inj (hediting.editor.symm.trans hcur)
    exact ⟨hlinked.relay, hlinked.manager⟩
  have hstart : Triple (OpenStage base loading none []) (startSession conduct e)
      (fun _ => Working base loading) (fun _ _ => False) := triple_startSession rfl rfl hloading
  exact openDocument_rule (triple_advance hnext) (triple_loadDocument hloading files url) hstart
    (fun _ hw => hw.elim) (fun _ => hfailed) hready

/-- Opening a document leaves the editor with what it keeps a record of, whatever comes of it,
unless it is not allowed at all. -/
theorem secure_openDocument {options : EditorOptions} (h : Settled options base w)
    (heditor : w.editor = some e) (files : FileTree) (url : String) :
    ((openDocument conduct files e url).result w).2 = w ∨
      Secure options base ((openDocument conduct files e url).result w).2 := by
  cases hnext : e.state.next? .open with
  | none => exact .inl (by rw [result_openDocument_of_illegal heditor hnext])
  | some state =>
      obtain ⟨-, hidle⟩ := state_of_open hnext
      obtain ⟨hoptions, hdetached, hstage⟩ := h.stage_of_idle heditor hidle
      exact .inr ((triple_openDocument hoptions hdetached hnext files url).result hstage)

end Opening

end Coedit.Workspace
