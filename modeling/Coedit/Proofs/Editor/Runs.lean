import Coedit.Proofs.Editor.Closing
import Coedit.Proofs.Workspace.Upshot

/-!
# Editors in every run

An editor is settled after each of its commands, however they follow each other, and whatever
fails on the way: it has a session and relays changes just while it is editing, and as long as
it is not closing it has left nothing subscribed to the engine but what it still uses.
-/

namespace Coedit

/-- Commands to an editor, its session and its engine, and subscriptions that do not call back.
The engine keeps its own subscriptions and refuses nothing. -/
def Command.toEditor : Command → Bool
  | .engine (.refuse _ _) | .engine (.unsubscribe _ _) => false
  | .engine _ | .session _ | .input _ | .editor _ | .undecodable => true
  | .watchEngine _ _ actions _ | .watchSession _ _ actions _ | .watchEditor _ _ actions _ =>
    actions.isEmpty
  | .newSession _ | .destroySession | .newEditor _ => false

namespace Workspace

open Attempt (Triple)

section Runs

variable {options : EditorOptions} {base : List (Subscription EngineSignal EngineListener)}
  {e : Editor} {w w' : Workspace}

/-! ## Destroying the editor -/

theorem triple_destroyEditor {state : EditorState} (hoptions : e.options = options)
    (hdetached : e.Detached) (hnext : e.state.next? .destroy = some state) :
    Triple (Stage base e none []) (destroyEditor e) (fun _ => Secure options base)
      (fun _ => Secure options base) := by
  obtain ⟨rfl, -⟩ := state_of_destroy hnext
  let destroyed : Editor := { e with state := .destroyed }
  have hadvance : Triple (Stage base e none []) (advance .destroy)
      (fun _ => Secure options base) (fun _ => Secure options base) := by
    refine (triple_advance hnext).mono (fun _ hw => hw) (fun _ w hw => ?_) fun _ _ hw => hw
    exact .idle (e := destroyed) hoptions (.inr (.inr rfl)) ⟨hdetached.session,
      hdetached.undoManager, hdetached.modified, hdetached.metadata, hdetached.toolbar⟩ hw
  exact destroyEditor_rule hadvance
    (fun part w hw =>
      hw.undisturbed (undisturbed_interfaceNote hw.settled.quiet e.frontend (.tornDown part)))
    (fun w hw => hw.modifyDetails (fun e => e.user) fun e => e.bus.clear) fun _ _ hw => hw

theorem secure_destroyEditor (h : Settled options base w) (heditor : w.editor = some e) :
    ((destroyEditor e).result w).2 = w ∨ Secure options base ((destroyEditor e).result w).2 := by
  cases hnext : e.state.next? .destroy with
  | none => exact .inl (by rw [result_destroyEditor_of_illegal heditor hnext])
  | some state =>
      obtain ⟨-, hidle⟩ := state_of_destroy hnext
      obtain ⟨hoptions, hdetached, hstage⟩ := h.stage_of_idle heditor hidle
      exact .inr ((triple_destroyEditor hoptions hdetached hnext).result hstage)

/-! ## What is kept through a run -/

/-- A property of settled workspaces that no command to the editor takes away. -/
structure Settling (options : EditorOptions)
    (base : List (Subscription EngineSignal EngineListener)) (P : Workspace → Prop) : Prop where
  settled : ∀ {w}, P w → Settled options base w
  secure : ∀ {w}, Secure options base w → P w
  undisturbed : ∀ {w w'}, P w → Undisturbed w w' → P w'
  modifyDetails : ∀ {w}, P w → ∀ (user : Editor → MemberProperties)
    (bus : Editor → SignalBus EditorSignal Nat),
    P (w.modifyEditor fun e => { e with user := user e, bus := bus e })
  holding : ∀ {w}, P w → ∀ holds, P { w with holds }
  observed : ∀ {w}, P w → ∀ signal observer,
    P { w with engine := subscribed w.engine signal (.observer observer) }
  setUndoManager : ∀ {w e session}, P w → w.editor = some e → e.session = some session →
    P (w.doInput conduct session .setUndoManager).2

theorem Stage.observed {held : Option Nat} {records : List (EngineSignal × Nat)}
    (h : Stage base e held records w) (signal : EngineSignal) (observer : Nat) :
    Stage base e held records
      { w with engine := subscribed w.engine signal (.observer observer) } := by
  refine ⟨h.quiet, welcoming_subscribed h.welcoming _ _, h.editor, ?_⟩
  have hcovered := h.covered
  cases held with
  | none => exact owned_observed hcovered signal observer
  | some id =>
      obtain ⟨s, hs, howned⟩ := hcovered
      exact ⟨s, hs, owned_observed howned signal observer⟩

theorem Settled.observed (h : Settled options base w) (signal : EngineSignal) (observer : Nat) :
    Settled options base { w with engine := subscribed w.engine signal (.observer observer) } := by
  cases h with
  | idle e hoptions hstate hdetached hstage =>
      exact .idle e hoptions hstate hdetached (hstage.observed signal observer)
  | editing e session relay hoptions hstate hattached hstage =>
      exact .editing e session relay hoptions hstate hattached (hstage.observed signal observer)
  | closing e hoptions hstate hdetached hquiet hwelcoming heditor =>
      exact .closing e hoptions hstate hdetached hquiet (welcoming_subscribed hwelcoming _ _)
        heditor

theorem Backed.observed (h : w.Backed) (signal : EngineSignal) (observer : Nat) :
    Backed { w with engine := subscribed w.engine signal (.observer observer) } := fun e he =>
  (h e he).kept (fun _ hs _ => List.mem_append_left _ hs) (Nat.le_refl _) fun _ _ => rfl

/-- Only the editor's own session can be given an undo manager. -/
theorem settled_setUndoManager {session : Nat} (h : Settled options base w)
    (heditor : w.editor = some e) (hsession : e.session = some session) :
    Settled options base (w.doInput conduct session .setUndoManager).2 ∧
      (w.doInput conduct session .setUndoManager).2.editor = some e := by
  cases h with
  | idle cur hoptions hstate hdetached hstage =>
      obtain rfl := Option.some.inj (hstage.editor.symm.trans heditor)
      rw [hdetached.session] at hsession
      cases hsession
  | editing cur current relay hoptions hstate hattached hstage =>
      obtain rfl := Option.some.inj (hstage.editor.symm.trans heditor)
      obtain rfl := Option.some.inj (hattached.session.symm.trans hsession)
      have hcreated : Stage base cur (some current) [(.metadataChanged, relay)]
          w.createUndoManager.2 := hstage.congr rfl rfl rfl rfl hstage.editor
      obtain ⟨w', heq, hset, -⟩ := setUndoManager_spec hcreated w.createUndoManager.1
      simp only [doInput]
      rw [heq]
      exact ⟨.editing cur current relay hoptions hstate hattached hset, hset.editor⟩
  | closing cur hoptions hstate hdetached hquiet hwelcoming hcur =>
      obtain rfl := Option.some.inj (hcur.symm.trans heditor)
      rw [hdetached.session] at hsession
      cases hsession

theorem settling_settled : Settling options base (Settled options base) where
  settled := fun h => h
  secure := fun h => h.settled
  undisturbed := Settled.undisturbed
  modifyDetails := Settled.modifyDetails
  holding := Settled.holding
  observed := Settled.observed
  setUndoManager := fun h heditor hsession => (settled_setUndoManager h heditor hsession).1

theorem settling_secure : Settling options base (Secure options base) where
  settled := fun h => h.settled
  secure := fun h => h
  undisturbed := Secure.undisturbed
  modifyDetails := Secure.modifyDetails
  holding := fun h holds => ⟨h.settled.holding holds, h.backed.holding holds⟩
  observed := fun h signal observer =>
    ⟨h.settled.observed signal observer, h.backed.observed signal observer⟩
  setUndoManager := by
    intro w e session h heditor hsession
    obtain ⟨hsettled, hsame⟩ := settled_setUndoManager h.settled heditor hsession
    refine ⟨hsettled, fun cur hcur => ?_⟩
    obtain rfl := Option.some.inj (hsame.symm.trans hcur)
    have hlinked := (h.backed e heditor).createUndoManager
    exact of_reply (P := Linked e) (hlinked.setUndoManager session w.createUndoManager.1)

variable {P : Workspace → Prop}

theorem Settling.secured (hP : Settling options base P) (h : P w)
    (hw : w' = w ∨ Secure options base w') : P w' := by
  rcases hw with rfl | hw
  · exact h
  · exact hP.secure hw

/-! ## Commands to the editor -/

theorem Settling.setUser (hP : Settling options base P) (h : P w) (user : MemberProperties) :
    P ((setUser conduct e user).result w).2 := by
  have hset : P (w.modifyEditor fun e => { e with user := user.withDefaults }) :=
    hP.modifyDetails h (fun _ => user.withDefaults) fun e => e.bus
  exact of_setUser hset fun session _ =>
    hP.undisturbed hset (undisturbed_submission.edit (hP.settled hset).quiet session _)

theorem Settling.doEditor (hP : Settling options base P) (h : P w) (heditor : w.editor = some e)
    (c : EditorCommand) : P (w.doEditor conduct e c).2 := by
  have hsettled := hP.settled h
  cases c with
  | «open» url => exact of_reply (hP.secured h (secure_openDocument hsettled heditor w.files url))
  | close => exact of_reply (hP.secured h (secure_closeDocument hsettled heditor))
  | destroy => exact of_reply (hP.secured h (secure_destroyEditor hsettled heditor))
  | setUser user => exact of_reply (hP.setUser h user)
  | setMetadata set removed =>
      exact of_reply (of_setMetadata h
        (hP.undisturbed h (undisturbed_submission.submit hsettled.quiet _)))
  | metadata property =>
      rw [doEditor_metadata_snd]
      exact h
  | setModified modified =>
      exact of_setModified h fun manager _ => hP.undisturbed h
        (told_setModified conduct manager modified hsettled.quiet).heard.undisturbed
  | unsubscribe signal id =>
      exact hP.modifyDetails h (fun e => e.user) fun e => e.bus.unsubscribe signal id
  | status | profile | isModified => exact h

/-! ## Commands to the engine, the session and its input controller -/

theorem Settling.engine (hP : Settling options base P) (h : P w) {engine : Engine EngineListener}
    (hbus : engine.bus = w.engine.bus) : P { w with engine } :=
  hP.undisturbed h (undisturbed_engine (hP.settled h).quiet engine hbus)

theorem Settling.doEngine (hP : Settling options base P) (h : P w) {c : EngineCommand}
    (hc : (Command.engine c).toEditor = true) : P (w.doEngine conduct c).2 := by
  have hquiet := (hP.settled h).quiet
  cases c with
  | refuse | unsubscribe => cases hc
  | load url => exact of_reply (hP.undisturbed h (undisturbed_loadDocument hquiet w.files url))
  | close => exact of_reply (hP.undisturbed h (undisturbed_closeEngine hquiet))
  | flush => exact hP.undisturbed h (undisturbed_submission.flush hquiet)
  | enqueue batch =>
      exact of_reply (hP.undisturbed h (undisturbed_submission.enqueue hquiet batch))
  | register | failNextClose | setImmediate | takeSubmitted => exact hP.engine h rfl
  | ask query => exact h

theorem Settling.doSession (hP : Settling options base P) (h : P w) (id : Nat)
    (c : SessionCommand) : P (w.doSession conduct id c).2 := by
  have hquiet := (hP.settled h).quiet
  cases c with
  | unsubscribe signal subscription =>
      exact hP.undisturbed h (undisturbed_modifySession hquiet id (by intro s; rfl))
  | ask query =>
      rw [doSession_ask_snd]
      exact h
  | edit e =>
      rw [doSession_edit_snd]
      exact hP.undisturbed h (undisturbed_submission.edit hquiet id e)
  | undo | redo => exact h

theorem Settling.doInput (hP : Settling options base P) {session : Nat} (h : P w)
    (heditor : w.editor = some e) (hsession : e.session = some session) (c : InputCommand) :
    P (w.doInput conduct session c).2 := by
  have hquiet := (hP.settled h).quiet
  cases c with
  | insertCursor =>
      exact of_reply (hP.undisturbed h (undisturbed_submitFor hquiet session .addCursor))
  | removeCursor =>
      exact of_reply (hP.undisturbed h (undisturbed_submitFor hquiet session .removeCursor))
  | setUndoManager => exact hP.setUndoManager h heditor hsession
  | startEditing => exact hP.undisturbed h (undisturbed_setEditing hquiet session true)
  | endEditing => exact hP.undisturbed h (undisturbed_setEditing hquiet session false)

/-! ## Subscribers -/

theorem undisturbed_addObserver (h : w.Quiet) (label : String) (times : Nat) :
    Undisturbed w (w.addObserver label [] times) :=
  ⟨quiet_addObserver h label times, rfl, rfl, rfl, Nat.le_succ _, fun _ => rfl, fun _ => rfl⟩

theorem Settling.watchEngine (hP : Settling options base P) (h : P w) (signal : EngineSignal)
    (label : String) (times : Nat) : P (w.watchEngine signal label [] times).2 := by
  have hobserved := hP.observed h signal w.nextId
  unfold Workspace.watchEngine Engine.subscribe SignalBus.subscribe
  cases w.engine.bus.checkDeclared signal with
  | error cause => exact h
  | ok _ =>
      exact hP.undisturbed hobserved
        (undisturbed_addObserver (hP.settled hobserved).quiet label times)

theorem Settling.watchSession (hP : Settling options base P) (h : P w) (signal : SessionSignal)
    (label : String) (times id : Nat) : P (watchSession signal label [] times id w).2 := by
  unfold Workspace.watchSession
  split
  · exact h
  · split
    · rename_i subscription bus _
      have hbus : Undisturbed w (w.modifySession id fun s => { s with bus }) :=
        undisturbed_modifySession (hP.settled h).quiet id fun _ => rfl
      exact hP.undisturbed (hP.undisturbed h hbus) (undisturbed_addObserver hbus.quiet label times)
    · exact h

theorem Settling.watchEditor (hP : Settling options base P) (h : P w) (signal : EditorSignal)
    (label : String) (times : Nat) (e : Editor) : P (watchEditor signal label [] times e w).2 := by
  unfold Workspace.watchEditor
  split
  · rename_i subscription bus _
    have hbus := hP.modifyDetails h (fun e => e.user) fun _ => bus
    exact hP.undisturbed hbus (undisturbed_addObserver (hP.settled hbus).quiet label times)
  · exact h

/-! ## Any command -/

theorem Settling.hold (hP : Settling options base P) {place : Place} {access : Access}
    {job : Workspace → Reply × Workspace} (h : P w)
    (hjob : ∀ holds, P (job { w with holds }).2) : P (w.holding place access job).2 := by
  unfold Workspace.holding
  split
  · exact hP.holding (hjob _) w.holds
  · exact h

theorem Settling.withEditor (hP : Settling options base P) {access : Access}
    {job : Editor → Workspace → Reply × Workspace} (h : P w)
    (hjob : ∀ e w, w.editor = some e → P w → P (job e w).2) : P (w.withEditor access job).2 := by
  unfold Workspace.withEditor
  cases he : w.editor with
  | none => exact h
  | some e => exact hP.hold h fun holds => hjob e _ he (hP.holding h holds)

/-- Commands to a session reach that of an editor that is editing. -/
theorem Settling.withSession (hP : Settling options base P) {access : Access}
    {job : Nat → Workspace → Reply × Workspace} (h : P w)
    (hjob : ∀ e session w, w.editor = some e → e.session = some session → P w →
      P (job session w).2) : P (w.withSession access job).2 := by
  have hnone (place : Place) : P (w.holding place access fun w =>
      (.failed (.editor .noSession), w)).2 := hP.hold h (hP.holding h)
  unfold Workspace.withSession meantSession
  cases hP.settled h with
  | idle e hoptions hstate hdetached hstage =>
      rw [hstage.editor]
      simp only [openSession?, hdetached.session, ite_self]
      exact hnone .editor
  | editing e session relay hoptions hstate hattached hstage =>
      rw [hstage.editor]
      simp only [openSession?, hstate, hattached.session, if_true]
      exact hP.hold h fun holds =>
        hjob e session _ hstage.editor hattached.session (hP.holding h holds)
  | closing e hoptions hstate hdetached hquiet hwelcoming heditor =>
      rw [heditor]
      simp only [openSession?, hdetached.session, ite_self]
      exact hnone .editor

theorem Settling.execute (hP : Settling options base P) (h : P w) {c : Command}
    (hc : c.toEditor = true) : P (w.execute c).2 := by
  rw [execute_eq_step]
  cases c with
  | engine c => exact hP.doEngine h hc
  | session c => exact hP.withSession h fun e session w _ _ hw => hP.doSession hw session c
  | input c =>
      exact hP.withSession h fun e session w heditor hsession hw =>
        hP.doInput hw heditor hsession c
  | editor c => exact hP.withEditor h fun e w heditor hw => hP.doEditor hw heditor c
  | watchEngine signal label actions times =>
      obtain rfl := List.isEmpty_iff.1 hc
      exact hP.watchEngine h signal label times
  | watchSession signal label actions times =>
      obtain rfl := List.isEmpty_iff.1 hc
      exact hP.withSession h fun e session w _ _ hw =>
        hP.watchSession hw signal label times session
  | watchEditor signal label actions times =>
      obtain rfl := List.isEmpty_iff.1 hc
      exact hP.withEditor h fun e w _ hw => hP.watchEditor hw signal label times e
  | undecodable => exact h
  | newSession | destroySession | newEditor => cases hc

theorem Settling.run (hP : Settling options base P) (h : P w) {commands : List Command}
    (hcommands : ∀ c ∈ commands, c.toEditor = true) :
    P (commands.foldl (fun w c => (w.execute c).2) w) := by
  induction commands generalizing w with
  | nil => exact h
  | cons c rest ih =>
      exact ih (hP.execute h (hcommands c List.mem_cons_self))
        fun other hmem => hcommands other (List.mem_cons_of_mem _ hmem)

/-! ## What settled editors have in common -/

theorem settled_createEditor (hquiet : w.Quiet) (hwelcoming : w.Welcoming) (spec : EditorSpec) :
    Settled spec.options w.engine.bus.subscriptions (w.createEditor spec) := by
  have hown : Owned w.engine.bus.subscriptions [] w := fun s hs => .inl hs
  refine .idle _ rfl (.inl rfl) ⟨rfl, rfl, rfl, rfl, rfl⟩ ⟨?_, ⟨?_, ?_⟩, rfl, ?_⟩
  all_goals
    unfold createEditor
    cases w.editor.bind (·.session)
  · exact hquiet
  · exact hquiet
  · exact hwelcoming.refusals
  · exact hwelcoming.refusals
  · exact hwelcoming.declared
  · exact hwelcoming.declared
  · exact hown
  · exact hown

theorem secure_createEditor (hquiet : w.Quiet) (hwelcoming : w.Welcoming) (spec : EditorSpec) :
    Secure spec.options w.engine.bus.subscriptions (w.createEditor spec) :=
  ⟨settled_createEditor hquiet hwelcoming spec, backed_of_detached ⟨rfl, rfl, rfl, rfl, rfl⟩ rfl⟩

/-- In every run an editor is between two commands never loading; it has a session, relays the
metadata, and has its toolbar attached just while it is editing; it has an undo manager and hears
from it just if undo is on, too. The subscriptions that it keeps a record of are there, on the
engine's bus and with the undo manager. Unless a document could not be closed, an editor that is not
editing has no subscription to the engine, nor has any session of its or their input
controllers. -/
theorem editor_settled_in_every_run (hquiet : w.Quiet) (hwelcoming : w.Welcoming)
    (spec : EditorSpec) {commands : List Command}
    (hcommands : ∀ c ∈ commands, c.toEditor = true) :
    let w' := commands.foldl (fun w c => (w.execute c).2) (w.createEditor spec)
    ∃ e, w'.editor = some e ∧ e.options = spec.options ∧ e.state ≠ .loading ∧
      (e.session.isSome = true ↔ e.state = .editing) ∧
      (e.metadataSubscription.isSome = true ↔ e.state = .editing) ∧
      (e.undoManager.isSome = true ↔ e.state = .editing ∧ e.options.features.undoRedo = true) ∧
      (e.modifiedSubscription.isSome = true ↔
        e.state = .editing ∧ e.options.features.undoRedo = true) ∧
      (e.toolbar.attached = true ↔ e.state = .editing) ∧
      (∀ relay, e.metadataSubscription = some relay →
        { id := relay, kind := .metadataChanged, handler := .metadataRelay e.id } ∈
          w'.engine.bus.subscriptions) ∧
      (∀ manager, e.undoManager = some manager → ∃ m subscription,
        w'.undoManagers.get? manager = some m ∧ e.modifiedSubscription = some subscription ∧
          { id := subscription, kind := .modifiedChanged, handler := e.id } ∈ m.bus.subscriptions) ∧
      (e.state.Idle → ∀ s ∈ w'.engine.bus.subscriptions,
        s ∈ w.engine.bus.subscriptions ∨ ∃ id, s.handler = .observer id) := by
  intro w'
  have hsecure : Secure spec.options w.engine.bus.subscriptions w' :=
    settling_secure.run (secure_createEditor hquiet hwelcoming spec) hcommands
  obtain ⟨e, heditor, hoptions, hloading, hequipped⟩ := hsecure.settled.editor_equipped
  have hlinked := hsecure.backed e heditor
  refine ⟨e, heditor, hoptions, hloading, hequipped.session, hequipped.metadata,
    hequipped.undoManager, hequipped.modified, hequipped.toolbar, hlinked.relay,
    fun manager hmanager => (hlinked.manager manager hmanager).2, fun hidle s hs => ?_⟩
  obtain ⟨-, -, hstage⟩ := hsecure.settled.stage_of_idle heditor hidle
  rcases hstage.covered s hs with hbase | hobserver | hrecord
  · exact .inl hbase
  · exact .inr hobserver
  · cases hrecord

end Runs

/-- Somebody watches the engine while a document is opened, closed and opened again; then it cannot
be opened once more. -/
def reopening : List Command :=
  [.engine (.register "doc" {}), .watchEngine .metadataChanged "watcher" [] 0,
    .editor (.open "doc"), .editor .close, .editor (.open "doc"), .editor (.open "doc")]

/-- Only the watcher's subscription was left when the document was closed. The editor that opened
its document again has what it takes to edit it. -/
theorem editor_settled_after_reopening :
    let run (commands : List Command) := commands.foldl (fun w c => (w.execute c).2)
      (createEditor { member := ⟨"m"⟩, options := .withAllFeatures } {})
    let w := run reopening
    (run (reopening.take 4)).engine.bus.subscriptions = [⟨0, .metadataChanged, .observer 1⟩] ∧
      ∃ e relay manager m subscription, w.editor = some e ∧ e.session.isSome = true ∧
        e.metadataSubscription = some relay ∧
        ⟨relay, .metadataChanged, .metadataRelay e.id⟩ ∈ w.engine.bus.subscriptions ∧
        e.undoManager = some manager ∧ w.undoManagers.get? manager = some m ∧
        e.modifiedSubscription = some subscription ∧
        ⟨subscription, .modifiedChanged, e.id⟩ ∈ m.bus.subscriptions ∧
        e.toolbar.attached = true := by
  intro run w
  have hquiet : Quiet {} := fun _ _ h => by cases h
  have hwelcoming : Welcoming {} := ⟨rfl, fun signal => by cases signal <;> rfl⟩
  have hcommands : ∀ c ∈ reopening, c.toEditor = true := by decide
  have hstate : w.editor.map (·.state) = some .editing := by decide +kernel
  have hclosed : (run (reopening.take 4)).engine.bus.subscriptions =
      [⟨0, .metadataChanged, .observer 1⟩] := by rfl
  obtain ⟨e, heditor, hoptions, -, hsession, hmetadata, hundo, -, htoolbar, hrelay, hmanager, -⟩ :=
    editor_settled_in_every_run hquiet hwelcoming
      { member := ⟨"m"⟩, options := .withAllFeatures } hcommands
  have hediting : e.state = .editing := by
    have hmap : w.editor.map (·.state) = some e.state := congrArg (Option.map (·.state)) heditor
    exact Option.some.inj (hmap.symm.trans hstate)
  have hfeature : e.options.features.undoRedo = true := by
    rw [hoptions]
    rfl
  obtain ⟨relay, hrelayed⟩ := Option.isSome_iff_exists.1 (hmetadata.2 hediting)
  obtain ⟨manager, hmanaged⟩ := Option.isSome_iff_exists.1 (hundo.2 ⟨hediting, hfeature⟩)
  obtain ⟨m, subscription, hm, hsubscription, hmem⟩ := hmanager manager hmanaged
  exact ⟨hclosed, e, relay, manager, m, subscription, heditor, hsession.2 hediting, hrelayed,
    hrelay relay hrelayed, hmanaged, hm, hsubscription, hmem, htoolbar.2 hediting⟩

end Workspace

end Coedit
