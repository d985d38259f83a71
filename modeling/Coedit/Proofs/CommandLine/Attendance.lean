import Coedit.CommandLine.Program
import Coedit.Proofs.Editor.Holding
import Coedit.Proofs.Editor.Reopening

/-!
# The editor at the command line

The command line has one editor without a user interface, and only listens. When its document was
opened, the engine is open, and it stays so until the editor leaves: nobody else closes it, and
nobody orders a failure.
-/

namespace Coedit

namespace Workspace

open Attempt (Triple)

/-! ## The engine stays open -/

structure OpenDoor (w : Workspace) : Prop where
  quiet : w.Quiet
  door : w.door = (.opened, none)

section OpenDoor

variable {w w' : Workspace} {e : Editor}

/-- Nothing that is done with sessions opens or closes an engine. -/
theorem handling_door :
    Handling fun w w' => w'.observers = w.observers ∧ w'.door = w.door where
  refl := fun _ => ⟨rfl, rfl⟩
  trans := fun h h' => ⟨h'.1.trans h.1, h'.2.trans h.2⟩
  note := by
    intro w frontend note
    obtain ⟨log, hlog⟩ := interfaceNote_eq frontend note w
    rw [hlog]
    exact ⟨rfl, rfl⟩
  unsubscribe := fun _ _ _ => ⟨rfl, rfl⟩
  session := fun _ _ => ⟨rfl, rfl⟩
  subscribed := fun _ _ _ => ⟨rfl, rfl⟩
  installed := fun _ _ => ⟨rfl, rfl⟩

theorem OpenDoor.handled (h : OpenDoor w) (hw : w'.observers = w.observers ∧ w'.door = w.door) :
    OpenDoor w' := by
  refine ⟨?_, hw.2.trans h.door⟩
  unfold Quiet
  rw [hw.1]
  exact h.quiet

theorem OpenDoor.submitted (h : OpenDoor w) (hw : w'.Quiet ∧ w'.door = w.door) : OpenDoor w' :=
  ⟨hw.1, hw.2.trans h.door⟩

theorem triple_byEngine_openDoor {α : Type} {f : Workspace → Except EngineError α × Workspace}
    (hf : ∀ w, OpenDoor w → OpenDoor (f w).2) :
    Triple OpenDoor (byEngine f) (fun _ => OpenDoor) (fun _ _ => True) :=
  (triple_byEngine_of_lasting hf).mono (fun _ hw => hw) (fun _ _ hw => hw) fun _ _ _ => trivial

theorem triple_startUndo_openDoor (e : Editor) (id : Nat) :
    Triple OpenDoor (startUndo e id) (fun _ => OpenDoor) (fun _ _ => True) := by
  refine startUndo_rule (A := OpenDoor) (B := fun _ => OpenDoor)
    (fun w hw => hw.handled (handling_door.note w e.frontend .undoManager))
    (fun w hw => hw.handled ⟨rfl, rfl⟩)
    (fun manager => triple_byEngine_openDoor fun w hw =>
      hw.handled (handling_door.setUndoManager id manager w))
    fun manager w hw => ?_
  obtain hsame | ⟨m, subscription, hrelayed⟩ := relayModified_cases e manager w
  · rw [hsame]
    exact hw
  · rw [hrelayed]
    exact hw.handled ⟨rfl, rfl⟩

theorem triple_enterDocument_openDoor (e : Editor) (id : Nat) :
    Triple OpenDoor (enterDocument conduct e id) (fun _ => OpenDoor) (fun _ _ => True) := by
  have hcursor : ∀ w, OpenDoor w → OpenDoor (w.insertCursor conduct id).2 := by
    intro w hw
    unfold insertCursor submitFor
    cases w.sessions.get? id with
    | none => exact hw
    | some s => exact hw.submitted (door_submission.submit hw.quiet _)
  have hattach (w : Workspace) (hw : OpenDoor w) : OpenDoor (w.attachToolbar e true) :=
    hw.handled (handling_door.trans (handling_door.note w e.frontend (.attached true)) ⟨rfl, rfl⟩)
  exact enterDocument_rule
    (triple_byEngine_openDoor fun w hw => hw.handled (handling_door.subscribe _ _ w))
    (fun _ w hw => hw.handled ⟨rfl, rfl⟩)
    (fun _ => triple_byEngine_openDoor fun w hw =>
      hw.submitted (door_submission.submit hw.quiet _))
    (fun _ => hattach) (fun _ => triple_byEngine_openDoor hcursor)
    fun _ w hw => hw.handled (handling_door.setEditing id true w)

theorem triple_startSession_openDoor (e : Editor) :
    Triple OpenDoor (startSession conduct e) (fun _ => OpenDoor) (fun _ _ => True) := by
  refine startSession_rule (A := fun _ => OpenDoor) (B := fun _ => OpenDoor)
    (triple_bySession_if fun w id w' hw heq => ?_)
    (fun id => equipSession_rule (fun _ => triple_startUndo_openDoor e id) (fun _ _ hw => hw)
      (triple_enterDocument_openDoor e id))
    (fun _ _ _ _ => trivial) fun _ w hw => hw.handled ⟨rfl, rfl⟩
  have hcreated := handling_door.createSession (fun _ => ⟨rfl, rfl⟩) (fun _ _ => ⟨rfl, rfl⟩)
    { member := e.member, fontsCss := e.fontsCss, frontend := e.frontend } e.options.features w
  rw [heq] at hcreated
  exact hw.handled hcreated

/-- To get ready is to edit. -/
theorem triple_advanceReady_openDoor : Triple OpenDoor (advance .ready)
    (fun _ w => OpenDoor w ∧ w.editor.map (·.state) = some .editing) (fun _ _ => True) := by
  refine advance_rule (fun w e state hw he hnext => ⟨hw.handled ⟨rfl, rfl⟩, ?_⟩) fun _ _ _ => trivial
  simp [Workspace.modifyEditor, he, state_of_ready hnext]

theorem triple_loadDocument_openDoor (files : FileTree) (url : String) :
    Triple (fun w => w.Quiet ∧ w.engine.closeFailure = none) (byEngine (loadDocument files url))
      (fun _ => OpenDoor) (fun _ _ => True) := by
  refine triple_byEngine_if fun w _ w' hw heq => ?_
  unfold loadDocument Engine.load at heq
  cases hfind : w.engine.find files url with
  | error cause => simp [hfind] at heq
  | ok d =>
      simp only [hfind, Prod.mk.injEq, true_and] at heq
      subst heq
      exact ⟨hw.1, congrArg (Prod.mk Phase.opened) hw.2⟩

/-- When a document was opened, the editor is editing and the engine is open. -/
theorem triple_openDocument_openDoor (files : FileTree) (e : Editor) (url : String) :
    Triple (fun w => w.Quiet ∧ w.engine.closeFailure = none) (openDocument conduct files e url)
      (fun _ w => OpenDoor w ∧ w.editor.map (·.state) = some .editing) (fun _ _ => True) := by
  have hadvance : Triple (fun w => w.Quiet ∧ w.engine.closeFailure = none) (advance .open)
      (fun _ w => w.Quiet ∧ w.engine.closeFailure = none) (fun _ _ => True) :=
    advance_rule (fun _ _ _ hw _ _ => hw) fun _ _ _ => trivial
  exact openDocument_rule hadvance (triple_loadDocument_openDoor files url)
    (triple_startSession_openDoor e) (fun _ _ => trivial)
    (fun _ => advance_rule (fun _ _ _ _ _ _ => trivial) fun _ _ _ => trivial)
    triple_advanceReady_openDoor

end OpenDoor

/-! ## At work -/

structure Attending (spec : EditorSpec) (first : Nat) (e : Editor) (id : Nat) (w : Workspace) : Prop
    extends OpenDoor w where
  welcoming : w.Welcoming
  partnered : Partnered spec first w
  editor : w.editor = some e
  editing : e.state = .editing
  session : e.session = some id
  free : w.holds = []

structure Prompted (spec : EditorSpec) (first : Nat) (e : Editor) (id : Nat) (w : Workspace) : Prop
    extends Attending spec first e id w where
  empty : w.engine.pending = []
  log : w.log = []

section Attending

variable {spec : EditorSpec} {first id : Nat} {e : Editor} {w w' : Workspace}

theorem proceeds_takeLog (h : w.Quiet) : Proceeds [] w w.takeLog.2 := by
  have htold : Told w w.takeLog.2 := ⟨w.observers, [], w.undoManagers, rfl, h, fun _ => rfl⟩
  exact htold.proceeds

theorem proceeds_holding (h : w.Quiet) (holds : List (Place × Access)) :
    Proceeds [] w { w with holds } :=
  ⟨⟨⟨h, rfl, rfl, rfl, Nat.le_refl _, fun _ => rfl, fun _ => rfl⟩, fun _ => rfl⟩,
    (List.append_nil _).symm, rfl⟩

/-- Neither holding the editor meanwhile nor hearing what was noted makes a difference. -/
theorem proceeds_meantime {batches : List Batch} {holds : List (Place × Access)} (hquiet : w.Quiet)
    (h : Proceeds batches { w with holds } w') :
    Proceeds batches w { w' with holds := [], log := [] } := by
  have hreleased : Proceeds [] w' { w' with holds := [] } := proceeds_holding h.quiet []
  have hheard := hreleased.trans (proceeds_takeLog hreleased.quiet)
  have hall := ((proceeds_holding hquiet holds).trans h).trans hheard
  simp only [List.nil_append, List.append_nil] at hall
  exact hall

theorem Attending.proceeds {batches : List Batch} (h : Attending spec first e id w)
    (hproceeds : Proceeds batches w w') (hdoor : w'.door = w.door) (hfree : w'.holds = []) :
    Attending spec first e id w' where
  quiet := hproceeds.quiet
  door := hdoor.trans h.door
  welcoming := hproceeds.toUndisturbed.welcoming h.welcoming
  partnered := (works_continues h.partnered ⟨batches, hproceeds⟩).partnered
  editor := hproceeds.editor.trans h.editor
  editing := h.editing
  session := h.session
  free := hfree

theorem Attending.opened (h : Attending spec first e id w) : w.engine.phase = .opened :=
  congrArg Prod.fst h.door

theorem Attending.isOpen (h : Attending spec first e id w) : w.engine.isOpen = true := by
  simp [Engine.isOpen, h.opened]

theorem Attending.member (h : Attending spec first e id w) : e.member = spec.member :=
  (h.partnered.matched e h.editor).member

theorem Attending.openSession? (h : Attending spec first e id w) :
    Workspace.openSession? e = some id := by
  rw [Workspace.openSession?, if_pos h.editing, h.session]

/-- The session is the editor's member's. -/
theorem Attending.partner (h : Attending spec first e id w) :
    ∃ s, w.sessions.get? id = some s ∧ s.core.member = spec.member := by
  obtain ⟨-, s, hs, hmember, -⟩ := (h.partnered.matched e h.editor).session id h.session
  exact ⟨s, hs, hmember⟩

/-- A command to the session reaches it. -/
theorem Attending.withSession (h : Attending spec first e id w) {access : Access}
    (job : Nat → Workspace → Reply × Workspace) :
    w.withSession access job = ((job id { w with holds := [(.editor, access)] }).1,
      { (job id { w with holds := [(.editor, access)] }).2 with holds := [] }) := by
  unfold Workspace.withSession meantSession holding
  simp only [h.editor, h.openSession?]
  rw [if_pos (by simp [isFree, h.free]), h.free]

theorem Attending.execute_session (h : Attending spec first e id w) (c : SessionCommand) :
    w.execute (.session c) =
      ((doSession conduct id { w with holds := [(.editor, .shared)] } c).1,
        { (doSession conduct id { w with holds := [(.editor, .shared)] } c).2
          with holds := [] }) := by
  rw [execute_eq_step]
  exact h.withSession _

end Attending

end Workspace

namespace CommandLine

open Workspace

section Attending

variable {spec : EditorSpec} {first id : Nat} {e : Editor} {w w' : Workspace}

/-- A flush at the end of a line applies all that is left. -/
theorem prompted_flush (h : Attending spec first e id w) :
    Prompted spec first e id (flush w).2 ∧ Proceeds [] w (flush w).2 := by
  have hheard := heard_flush h.quiet
  have hflushed : (flush w).2 = (w.flush conduct).takeLog.2 := by
    simp only [flush, perform, execute_eq_step]
    rfl
  have hproceeds : Proceeds [] w (flush w).2 := by
    rw [hflushed]
    exact (proceeds_flush h.quiet).trans (proceeds_takeLog hheard.quiet)
  have hdoor : (flush w).2.door = w.door := by
    rw [hflushed]
    exact door_flush h.quiet
  have hengine : (flush w).2.engine = drained w.engine := by
    rw [hflushed]
    exact hheard.engine
  have hfree : (flush w).2.holds = [] := by
    obtain ⟨observers, log, undoManagers, sessions, heq, -⟩ := hheard
    rw [hflushed, heq]
    exact h.free
  refine ⟨⟨h.proceeds hproceeds hdoor hfree, ?_, ?_⟩, hproceeds⟩
  · rw [hengine]
    rfl
  · rw [hflushed]
    rfl

/-- A command that changes nothing is only answered. -/
theorem perform_of_unchanged {c : Command} {reply : Reply} (h : w.execute c = (reply, w))
    (hlog : w.log = []) : perform c w = (reply, [], w) := by
  have htaken : w.takeLog = ([], w) := by
    cases w
    simp only at hlog
    subst hlog
    rfl
  simp [perform, h, htaken]

/-- A command that held the editor shows what it noted. -/
theorem perform_of_held {c : Command} {reply : Reply}
    (h : w.execute c = (reply, { w' with holds := [] })) :
    perform c w = (reply, w'.log.filterMap shown, { w' with holds := [], log := [] }) := by
  simp only [perform, h]
  rfl

/-- Where all was applied, a flush does nothing. -/
theorem flush_of_prompted (h : Prompted spec first e id w) : flush w = ([], w) := by
  have hstep : w.execute (.engine .flush) = (.done, w) := by
    rw [execute_eq_step]
    exact congrArg (Prod.mk Reply.done) (flush_of_nil h.empty)
  exact congrArg Prod.snd (perform_of_unchanged hstep h.log)

/-- Whoever listens to the session changes nothing about the work. -/
theorem proceeds_watchSession (h : w.Quiet) (signal : SessionSignal) (label : String)
    (times id : Nat) : Proceeds [] w (w.watchSession signal label [] times id).2 ∧
      (w.watchSession signal label [] times id).2.engine = w.engine := by
  unfold watchSession
  split
  · exact ⟨Proceeds.refl h, rfl⟩
  · split
    · rename_i s _ _ subscription bus _
      have hbus : Steady w (w.modifySession id fun s => { s with bus }) :=
        steady_modifySession h id (by intro s; rfl)
      have hadded : Steady (w.modifySession id fun s => { s with bus })
          ((w.modifySession id fun s => { s with bus }).addObserver label [] times) :=
        ⟨undisturbed_addObserver hbus.quiet label times, fun _ => rfl⟩
      exact ⟨(hbus.trans hadded).idle rfl, rfl⟩
    · exact ⟨Proceeds.refl h, rfl⟩

theorem prompted_watch (h : Prompted spec first e id w) (signal : SessionSignal) :
    Prompted spec first e id (perform (.watchSession signal "" [] 0) w).2.2 := by
  let held : Workspace := { w with holds := [(.editor, .shared)] }
  obtain ⟨hwatched, hengine⟩ := proceeds_watchSession (w := held) h.quiet signal "" 0 id
  have hexecute : w.execute (.watchSession signal "" [] 0) =
      ((held.watchSession signal "" [] 0 id).1,
        { (held.watchSession signal "" [] 0 id).2 with holds := [] }) := by
    rw [execute_eq_step]
    exact h.withSession _
  rw [perform_of_held hexecute]
  refine ⟨h.proceeds (proceeds_meantime h.quiet hwatched) ?_ rfl, ?_, rfl⟩
  · simp [door, hengine, held]
  · simp [hengine, held, h.empty]

theorem performAll_cons (c : Command) (rest : List Command) (w : Workspace) :
    (performAll (c :: rest) w).2 = (performAll rest (perform c w).2.2).2 := rfl

theorem prompted_watchAll (h : Prompted spec first e id w) :
    Prompted spec first e id (performAll watchAll w).2 := by
  unfold watchAll
  generalize SessionSignal.all = signals
  induction signals generalizing w with
  | nil => exact h
  | cons signal rest ih => exact ih (prompted_watch h signal)

theorem prompted_beginning (h : Attending spec first e id w) :
    Prompted spec first e id (performAll (.engine .flush :: watchAll) w).2 := by
  rw [performAll_cons]
  exact prompted_watchAll (prompted_flush h).1

/-! ## The opening -/

structure Poised (spec : EditorSpec) (first : Nat) (w : Workspace) : Prop where
  settled : Settled spec.options [] w
  partnered : Partnered spec first w

theorem Poised.perform (h : Poised spec first w) {c : Command} (hc : c.aroundEditor = true) :
    Poised spec first (perform c w).2.2 := by
  have hsettled := settled_around h.settled hc
  have hcounts := counts_execute h.settled h.partnered hc
  exact ⟨hsettled.takeLog,
    (works_continues hcounts.partnered ⟨[], proceeds_takeLog hsettled.quiet⟩).partnered⟩

def setUp (spec : EditorSpec) : List Command :=
  [.newEditor spec, .watchEditor .documentModifiedChanged "" [] 0,
    .watchEditor .unknownError "" [] 0]

theorem poised_setUp (spec : EditorSpec) (files : FileTree) :
    Poised spec 0 (performAll (setUp spec) { files }).2 := by
  have hquiet : Quiet { files } := fun _ _ h => (by cases h)
  have hwelcoming : Welcoming { files } := ⟨rfl, fun signal => by cases signal <;> rfl⟩
  have hbounded : ∀ s ∈ ({ files } : Workspace).engine.bus.subscriptions,
      s.id < ({ files } : Workspace).engine.bus.nextId := fun _ hs => (List.not_mem_nil hs).elim
  have hcreated : Poised spec 0 (createEditor spec { files }) :=
    ⟨settled_createEditor hquiet hwelcoming spec, (tallied_createEditor hbounded spec).partnered⟩
  have hwatched : Poised spec 0 (CommandLine.perform (.watchEditor .documentModifiedChanged "" [] 0)
    (createEditor spec { files })).2.2 := hcreated.perform rfl
  exact hwatched.perform (c := .watchEditor .unknownError "" [] 0) rfl

/-- A document that was opened is being edited. -/
theorem attending_of_opened {url : String} (h : Poised spec first w) (hfree : w.holds = [])
    (hfailure : w.engine.closeFailure = none) (heditor : w.editor = some e)
    (hopened : ∀ cause, (perform (.editor (.open url)) w).1 ≠ .failed cause) :
    ∃ e' id, Attending spec first e' id (perform (.editor (.open url)) w).2.2 := by
  have hpoised := h.perform (c := .editor (.open url)) rfl
  let held : Workspace := { w with holds := [(.editor, .exclusive)] }
  have hdone := triple_openDocument_openDoor w.files e url held ⟨h.settled.quiet, hfailure⟩
  have hperformed := perform_of_held (execute_editor_of_free heditor hfree (.open url))
  simp only [doEditor, editorAccess] at hperformed
  rw [hperformed] at hopened hpoised ⊢
  cases hr : (Workspace.openDocument conduct w.files e url).result held with
  | mk answer w' =>
      rw [hr] at hdone hopened hpoised
      cases answer with
      | error cause => exact absurd rfl (hopened (.editor cause))
      | ok _ =>
          obtain ⟨hdoor, hediting⟩ := hdone
          obtain ⟨e', he', hstate⟩ := Option.map_eq_some_iff.1 hediting
          obtain ⟨-, id, relay, hattached, hstage⟩ := hpoised.settled.stage_of_editing he' hstate
          exact ⟨e', id, ⟨⟨hstage.quiet, hdoor.door⟩, hstage.welcoming, hpoised.partnered, he',
            hstate, hattached.session, rfl⟩⟩

theorem prompted_of_openDocument {i : Invocation} {url : String} {c : Config}
    {fontsCss : Option String} {opening : Transcript}
    (h : openDocument i url c fontsCss = (opening, .running w)) :
    ∃ e id, Prompted (editorSpec c fontsCss i.fresh) 0 e id w := by
  let spec := editorSpec c fontsCss i.fresh
  have hpoised : Poised spec 0 (performAll (setUp spec) { files := i.files }).2 :=
    poised_setUp spec i.files
  have hfree : (performAll (setUp spec) { files := i.files }).2.holds = [] := rfl
  have hfailure : (performAll (setUp spec) { files := i.files }).2.engine.closeFailure = none := rfl
  obtain ⟨e₀, he₀⟩ : ∃ e, (performAll (setUp spec) { files := i.files }).2.editor = some e :=
    ⟨_, rfl⟩
  unfold openDocument at h
  extract_lets commands at h
  have hcommands : commands = setUp spec := rfl
  rw [hcommands] at h
  -- From here on the commands before the opening must not be computed.
  generalize performAll (setUp spec) { files := i.files } = ready at h hpoised hfree hfailure he₀
  have hopened := @attending_of_opened spec 0 e₀ _ url hpoised hfree hfailure he₀
  generalize hperform : perform (.editor (.open url)) ready.2 = opened at hopened
  obtain ⟨printed, ready⟩ := ready
  obtain ⟨reply, events, v⟩ := opened
  simp only [hperform] at h hopened
  cases reply
  case failed cause => cases h
  all_goals
    obtain ⟨e, id, hattending⟩ := hopened (by simp)
    have hready := prompted_beginning hattending
    generalize performAll (.engine .flush :: watchAll) v = later at h hready
    simp only [Prod.mk.injEq, Stage.running.injEq] at h
    exact ⟨e, id, h.2 ▸ hready⟩

/-- Whatever document was opened, the command line is ready for its first line. -/
theorem prompted_of_start {i : Invocation} {opening : Transcript}
    (h : start i = (opening, .running w)) : ∃ spec first e id,
      spec.frontend = .headless ∧ Prompted spec first e id w := by
  unfold start at h
  split at h
  · split at h
    · cases h
    · simp only at h
      split at h
      · cases h
      · obtain ⟨e, id, hready⟩ := prompted_of_openDocument h
        exact ⟨_, 0, e, id, rfl, hready⟩
  · cases h

end Attending

end CommandLine

end Coedit
