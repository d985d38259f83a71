import Coedit.Proofs.Editor.DeadEnds
import Coedit.Proofs.Workspace.Flags

/-!
# Changes are noticed

While a document is open, nothing that is done with the editor, its session and its engine
changes the document behind the back of the editor's undo manager: if its flag is down afterwards,
it was down before, and the document is the same.
-/

namespace Coedit

/-- Commands that leave the editor its document, its undo manager and the news for that, and
subscriptions that do not call back. -/
def Command.staysEditing : Command → Bool
  | .engine (.load _) | .engine (.unsubscribe _ _) => false
  | .input .setUndoManager | .editor .close => false
  | .engine _ | .session _ | .input _ | .editor _ | .undecodable => true
  | .watchEngine _ _ actions _ | .watchSession _ _ actions _ | .watchEditor _ _ actions _ =>
    actions.isEmpty
  | .newSession _ | .destroySession | .newEditor _ => false

/-- The command that puts the flag down. -/
def Command.marksSaved : Command → Bool
  | .editor (.setModified false) => true
  | _ => false

namespace Workspace

/-- The editor is in the same state with the same undo manager, and if the flag of that is down,
it was down before, and the document is the same. -/
structure Noticed (manager : Nat) (w w' : Workspace) : Prop where
  quiet : w'.Quiet
  holds : w'.holds = w.holds
  editor : ∀ e, w.editor = some e →
    ∃ e', w'.editor = some e' ∧ e'.state = e.state ∧ e'.undoManager = e.undoManager
  wired : Wired manager w → Wired manager w'
  document : Wired manager w → w'.modified? manager = some false →
    w.modified? manager = some false ∧ w'.engine.document = w.engine.document

section Noticed

variable {w w' w'' : Workspace} {manager : Nat} {e : Editor}

theorem Noticed.trans (h : Noticed manager w w') (h' : Noticed manager w' w'') :
    Noticed manager w w'' where
  quiet := h'.quiet
  holds := h'.holds.trans h.holds
  editor := by
    intro e he
    obtain ⟨e', he', hstate, hmanager⟩ := h.editor e he
    obtain ⟨e'', he'', hstate', hmanager'⟩ := h'.editor e' he'
    exact ⟨e'', he'', hstate'.trans hstate, hmanager'.trans hmanager⟩
  wired := fun hwired => h'.wired (h.wired hwired)
  document := by
    intro hwired hdown
    obtain ⟨hdown', hsame'⟩ := h'.document (h.wired hwired) hdown
    obtain ⟨hdown'', hsame⟩ := h.document hwired hdown'
    exact ⟨hdown'', hsame'.trans hsame⟩

/-- Neither the editor, nor its undo manager, nor the document changed, and every subscription to
the engine is still there. -/
theorem noticed_of_kept (hquiet : w'.Quiet) (hholds : w'.holds = w.holds)
    (heditor : w'.editor = w.editor) (hmanagers : w'.undoManagers.get? manager =
      w.undoManagers.get? manager) (hdocument : w'.engine.document = w.engine.document)
    (hheard : ∀ listener, listener ∈ w.engine.bus.handlers .undoStackChanged →
      listener ∈ w'.engine.bus.handlers .undoStackChanged) : Noticed manager w w' := by
  have hflag : w'.modified? manager = w.modified? manager := congrArg (Option.map _) hmanagers
  refine ⟨hquiet, hholds, fun e he => ⟨e, heditor.trans he, rfl, rfl⟩, fun hwired => ?_,
    fun _ hdown => ⟨hflag.symm.trans hdown, hdocument⟩⟩
  refine ⟨?_, hheard _ hwired.hears, ?_⟩
  · rw [heditor]
    exact hwired.editor
  · rw [hflag]
    exact hwired.managed

theorem noticed_of_same (hquiet : w'.Quiet) (hholds : w'.holds = w.holds)
    (heditor : w'.editor = w.editor) (hmanagers : w'.undoManagers = w.undoManagers)
    (hdocument : w'.engine.document = w.engine.document)
    (hbus : w'.engine.bus = w.engine.bus) : Noticed manager w w' :=
  noticed_of_kept hquiet hholds heditor (by rw [hmanagers]) hdocument
    fun _ hmem => by rw [hbus]; exact hmem

theorem Noticed.refl (h : w.Quiet) : Noticed manager w w := noticed_of_same h rfl rfl rfl rfl rfl

theorem Heard.noticed (h : Heard w w') (hraised : Raised w w') : Noticed manager w w' := by
  have hwired : Wired manager w → Wired manager w' := fun hwired => hwired.heard h hraised
  obtain ⟨observers, log, undoManagers, sessions, rfl, hquiet, -⟩ := h
  exact ⟨hquiet, rfl, fun e he => ⟨e, he, rfl, rfl⟩, hwired,
    fun _ hdown => ⟨hraised.was_down hdown, rfl⟩⟩

theorem noticed_modifyEditor (h : w.Quiet) {f : Editor → Editor}
    (hf : ∀ e, (f e).state = e.state ∧ (f e).undoManager = e.undoManager) :
    Noticed manager w (w.modifyEditor f) where
  quiet := h
  holds := rfl
  editor := fun e he => ⟨f e, by simp [Workspace.modifyEditor, he], hf e⟩
  wired := by
    intro hwired
    obtain ⟨e, he, hmanager⟩ := hwired.editor
    exact ⟨⟨f e, by simp [Workspace.modifyEditor, he], (hf e).2.trans hmanager⟩, hwired.hears,
      hwired.managed⟩
  document := fun _ hdown => ⟨hdown, rfl⟩

/-! ## Queueing and flushing -/

theorem noticed_applyNow (h : w.Quiet) (batch : Batch) : Noticed manager w (w.applyNow batch) := by
  have hheard := heard_applyNow h batch
  let applied := w.withEngine { w.engine with replica := (w.engine.replica.applyBatch batch).1 }
  have hraised : Raised applied (w.applyNow batch) := raised_publishAll conduct _ h
  have hwired : Wired manager w → Wired manager (w.applyNow batch) := fun hwired =>
    Wired.heard (w := applied) ⟨hwired.editor, hwired.hears, hwired.managed⟩ hheard hraised
  refine ⟨hheard.quiet, ?_, fun e he => ⟨e, ?_, rfl, rfl⟩, hwired,
    fun hwired hdown => document_applyNow hwired h batch hdown⟩
  · obtain ⟨observers, log, undoManagers, sessions, heq, -, -⟩ := hheard
    rw [heq]
    rfl
  · obtain ⟨observers, log, undoManagers, sessions, heq, -, -⟩ := hheard
    rw [heq]
    exact he

theorem noticed_flush (h : w.Quiet) : Noticed manager w (w.flush conduct) := by
  have hqueue : Noticed manager w (w.withQueue [] w.engine.submitted w.engine.immediate) :=
    noticed_of_same h rfl rfl rfl rfl rfl
  rw [flush_eq_applyAll h]
  exact List.foldlRecOn _ _ hqueue fun w' hw' batch _ =>
    hw'.trans (noticed_applyNow hw'.quiet batch)

theorem noticed_changeReservation (h : w.Quiet) (id : Nat) (p : Proposal)
    (change : SessionCore → StyleId → SessionCore) :
    Noticed manager w (w.changeReservation id p change) := by
  unfold changeReservation
  split <;> exact noticed_of_same h rfl rfl rfl rfl rfl

theorem noticed_submission (manager : Nat) : Submission (Noticed manager) where
  quiet := Noticed.quiet
  refl := Noticed.refl
  trans := Noticed.trans
  flush := noticed_flush
  queued := fun h _ => noticed_of_same h rfl rfl rfl rfl rfl
  reserve := fun h id p => noticed_changeReservation h id p .reserve
  release := fun h id p => noticed_changeReservation h id p .release

theorem noticed_submitFor (h : w.Quiet) (id : Nat) (operation : MemberId → Operation) :
    Noticed manager w (w.submitFor conduct id operation).2 := by
  unfold submitFor
  cases w.sessions.get? id with
  | none => exact .refl h
  | some s => exact (noticed_submission manager).submit h _

theorem noticed_interfaceNote (h : w.Quiet) (frontend : Frontend) (note : InterfaceNote) :
    Noticed manager w (w.interfaceNote frontend note) := by
  cases frontend <;> exact noticed_of_same h rfl rfl rfl rfl rfl

theorem noticed_setEditing (h : w.Quiet) (id : Nat) (editing : Bool) :
    Noticed manager w (w.setEditing id editing) := by
  unfold setEditing
  cases w.sessions.get? id with
  | none => exact .refl h
  | some s =>
      have hnote : Noticed manager w _ := noticed_interfaceNote h s.frontend
        (if editing then .startEditing else .endEditing)
      exact hnote.trans (noticed_of_same hnote.quiet rfl rfl rfl rfl rfl)

theorem noticed_closeEngine (h : w.Quiet) : Noticed manager w (w.closeEngine conduct).2 := by
  unfold closeEngine
  split
  · have hflush : Noticed manager w _ := noticed_flush h
    have hclosed : Noticed manager (w.flush conduct) { w.flush conduct with
        engine := (w.flush conduct).engine.finishClose.2 } := by
      refine noticed_of_same hflush.quiet rfl rfl rfl ?_ (passing_finishClose _).bus
      show (w.flush conduct).engine.finishClose.2.document = _
      unfold Engine.finishClose
      split <;> rfl
    exact hflush.trans hclosed
  · exact .refl h

theorem noticed_subscribe (h : w.Quiet) (signal : EngineSignal) (listener : EngineListener) :
    Noticed manager w (w.subscribe signal listener).2 := by
  obtain ⟨cause, hcause⟩ | hok := subscribe_cases signal listener w
  · rw [hcause]
    exact .refl h
  · rw [hok]
    exact noticed_of_kept h rfl rfl rfl rfl fun found hfound =>
      mem_handlers_subscribed.2 (.inl hfound)

/-! ## Commands while a document is open -/

theorem noticed_doEngine (h : w.Quiet) {c : EngineCommand}
    (hc : (Command.engine c).staysEditing = true) :
    Noticed manager w (w.doEngine conduct c).2 := by
  cases c with
  | load | unsubscribe => cases hc
  | close => exact of_reply (noticed_closeEngine h)
  | flush => exact noticed_flush h
  | enqueue batch => exact of_reply ((noticed_submission manager).enqueue h batch)
  | ask query => exact .refl h
  | register | failNextClose | setImmediate | takeSubmitted | refuse =>
      exact noticed_of_same h rfl rfl rfl rfl rfl

theorem noticed_doSession (h : w.Quiet) (id : Nat) (c : SessionCommand) :
    Noticed manager w (w.doSession conduct id c).2 := by
  cases c with
  | unsubscribe signal subscription => exact noticed_of_same h rfl rfl rfl rfl rfl
  | ask query =>
      rw [doSession_ask_snd]
      exact .refl h
  | edit e =>
      rw [doSession_edit_snd]
      exact (noticed_submission manager).edit h id e
  | undo | redo => exact .refl h

theorem noticed_doInput (h : w.Quiet) (id : Nat) {c : InputCommand}
    (hc : (Command.input c).staysEditing = true) :
    Noticed manager w (w.doInput conduct id c).2 := by
  cases c with
  | insertCursor => exact of_reply (noticed_submitFor h id .addCursor)
  | removeCursor => exact of_reply (noticed_submitFor h id .removeCursor)
  | setUndoManager => cases hc
  | startEditing => exact noticed_setEditing h id true
  | endEditing => exact noticed_setEditing h id false

theorem noticed_setUser (h : w.Quiet) (user : MemberProperties) :
    Noticed manager w ((setUser conduct e user).result w).2 := by
  have hset : Noticed manager w
      (w.modifyEditor fun e => { e with user := user.withDefaults }) :=
    noticed_modifyEditor h fun _ => ⟨rfl, rfl⟩
  exact of_setUser hset fun session _ =>
    hset.trans ((noticed_submission manager).edit hset.quiet session _)

theorem noticed_doEditor (h : w.Quiet) (he : w.editor = some e) (hediting : e.state = .editing)
    {c : EditorCommand} (hc : (Command.editor c).staysEditing = true)
    (hsaves : (Command.editor c).marksSaved = false) :
    Noticed manager w (w.doEditor conduct e c).2 := by
  have hrefused : ∀ course, c.course? = some course → e.state.next? course.action = none →
      Noticed manager w (w.doEditor conduct e c).2 := by
    intro course hcourse hnext
    rw [doEditor_of_illegal he hcourse hnext]
    exact .refl h
  cases c with
  | «open» | destroy => exact hrefused _ rfl (by rw [hediting]; rfl)
  | close => cases hc
  | setUser user => exact of_reply (noticed_setUser h user)
  | status | profile | isModified => exact .refl h
  | setMetadata set removed =>
      exact of_reply (of_setMetadata (.refl h) ((noticed_submission manager).submit h _))
  | metadata property =>
      rw [doEditor_metadata_snd]
      exact .refl h
  | setModified modified =>
      cases modified with
      | false => cases hsaves
      | true =>
          exact of_setModified (.refl h) fun id _ =>
            (told_setModified conduct id true h).heard.noticed (raised_setModified conduct id h)
  | unsubscribe signal id => exact noticed_modifyEditor h fun _ => ⟨rfl, rfl⟩

theorem noticed_addObserver (h : w.Quiet) (label : String) (times : Nat) :
    Noticed manager w (w.addObserver label [] times) :=
  noticed_of_same (quiet_addObserver h label times) rfl rfl rfl rfl rfl

theorem noticed_watchEngine (h : w.Quiet) (signal : EngineSignal) (label : String)
    (times : Nat) : Noticed manager w (w.watchEngine signal label [] times).2 := by
  unfold watchEngine Engine.subscribe SignalBus.subscribe
  cases w.engine.bus.checkDeclared signal with
  | error cause => exact .refl h
  | ok _ =>
      have hjoined : Noticed manager w
          { w with engine := subscribed w.engine signal (.observer w.nextId) } :=
        noticed_of_kept h rfl rfl rfl rfl fun found hfound =>
          mem_handlers_subscribed.2 (.inl hfound)
      exact hjoined.trans (noticed_addObserver hjoined.quiet label times)

theorem noticed_watchSession (h : w.Quiet) (signal : SessionSignal) (label : String)
    (times id : Nat) : Noticed manager w (watchSession signal label [] times id w).2 := by
  unfold watchSession
  cases w.sessions.get? id with
  | none => exact .refl h
  | some s =>
      simp only
      cases s.bus.subscribe signal w.nextId with
      | error cause => exact .refl h
      | ok made =>
          have hbus : Noticed manager w (w.modifySession id fun s => { s with bus := made.2 }) :=
            noticed_of_same h rfl rfl rfl rfl rfl
          exact hbus.trans (noticed_addObserver hbus.quiet label times)

theorem noticed_watchEditor (h : w.Quiet) (signal : EditorSignal) (label : String) (times : Nat)
    (e : Editor) : Noticed manager w (watchEditor signal label [] times e w).2 := by
  unfold watchEditor
  cases e.bus.subscribe signal w.nextId with
  | error cause => exact .refl h
  | ok made =>
      have hbus : Noticed manager w (w.modifyEditor fun e => { e with bus := made.2 }) :=
        noticed_modifyEditor h fun _ => ⟨rfl, rfl⟩
      exact hbus.trans (noticed_addObserver hbus.quiet label times)

theorem noticed_holding {place : Place} {access : Access} {job : Workspace → Reply × Workspace}
    (h : w.Quiet)
    (hjob : ∀ w', w'.Quiet → w'.editor = w.editor → Noticed manager w' (job w').2) :
    Noticed manager w (w.holding place access job).2 := by
  unfold holding
  split
  · have hdone := hjob { w with holds := (place, access) :: w.holds } h rfl
    exact ⟨hdone.quiet, rfl, hdone.editor, fun hwired =>
      have hheld := hdone.wired ⟨hwired.editor, hwired.hears, hwired.managed⟩
      ⟨hheld.editor, hheld.hears, hheld.managed⟩,
      fun hwired => hdone.document ⟨hwired.editor, hwired.hears, hwired.managed⟩⟩
  · exact .refl h

theorem noticed_withSession {access : Access} {job : Nat → Workspace → Reply × Workspace}
    (h : w.Quiet) (hjob : ∀ id w', Quiet w' → Noticed manager w' (job id w').2) :
    Noticed manager w (w.withSession access job).2 := by
  unfold withSession
  split
  · exact noticed_holding h fun w' hw' _ => hjob _ w' hw'
  · exact noticed_holding h fun w' hw' _ => .refl hw'
  · exact .refl h

theorem noticed_withEditor {access : Access} {job : Editor → Workspace → Reply × Workspace}
    (h : w.Quiet) (hjob : ∀ e w', w.editor = some e → w'.editor = some e → w'.Quiet →
      Noticed manager w' (job e w').2) : Noticed manager w (w.withEditor access job).2 := by
  unfold withEditor
  cases he : w.editor with
  | none => exact .refl h
  | some e => exact noticed_holding h fun w' hw' heditor => hjob e w' he (heditor.trans he) hw'

theorem noticed_execute (h : w.Quiet) (he : w.editor = some e) (hediting : e.state = .editing)
    {c : Command} (hc : c.staysEditing = true) (hsaves : c.marksSaved = false) :
    Noticed manager w (w.execute c).2 := by
  rw [execute_eq_step]
  cases c with
  | engine c => exact noticed_doEngine h hc
  | session c => exact noticed_withSession h fun id w' hw' => noticed_doSession hw' id c
  | input c => exact noticed_withSession h fun id w' hw' => noticed_doInput hw' id hc
  | editor c =>
      refine noticed_withEditor h fun e' w' hsame he' hw' => ?_
      obtain rfl := Option.some.inj (he.symm.trans hsame)
      exact noticed_doEditor hw' he' hediting hc hsaves
  | watchEngine signal label actions times =>
      obtain rfl := List.isEmpty_iff.1 hc
      exact noticed_watchEngine h signal label times
  | watchSession signal label actions times =>
      obtain rfl := List.isEmpty_iff.1 hc
      exact noticed_withSession h fun id w' hw' => noticed_watchSession hw' signal label times id
  | watchEditor signal label actions times =>
      obtain rfl := List.isEmpty_iff.1 hc
      exact noticed_withEditor h fun e w' _ _ hw' => noticed_watchEditor hw' signal label times e
  | undecodable => exact .refl h
  | newSession | destroySession | newEditor => cases hc

end Noticed

end Workspace

end Coedit
