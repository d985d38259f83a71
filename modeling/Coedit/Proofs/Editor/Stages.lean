import Coedit.Proofs.Editor.Undisturbed

/-!
# Stages of an editor

While a document is opened or closed, the editor goes through stages. At each of them it is known
exactly what the editor is, which session it is about, and who has a record of the
subscriptions that were made since the editor was created.
-/

namespace Coedit

namespace Workspace

/-- Every new subscription to the engine is recorded, here or by the session in hand. -/
def Covered (base : List (Subscription EngineSignal EngineListener))
    (records : List (EngineSignal × Nat)) (held : Option Nat) (w : Workspace) : Prop :=
  match held with
  | none => Owned base records w
  | some id => ∃ s, w.sessions.get? id = some s ∧ Owned base (records ++ s.records) w

structure Stage (base : List (Subscription EngineSignal EngineListener)) (e : Editor)
    (held : Option Nat) (records : List (EngineSignal × Nat)) (w : Workspace) : Prop where
  quiet : w.Quiet
  welcoming : w.Welcoming
  editor : w.editor = some e
  covered : Covered base records held w

section Stage

variable {base : List (Subscription EngineSignal EngineListener)} {e : Editor}
  {held : Option Nat} {records : List (EngineSignal × Nat)} {w w' : Workspace}

theorem Stage.undisturbed (h : Stage base e held records w) (hu : Undisturbed w w') :
    Stage base e held records w' := by
  refine ⟨hu.quiet, hu.welcoming h.welcoming, hu.editor.trans h.editor, ?_⟩
  have hcovered := h.covered
  cases held with
  | none => exact hcovered.congr hu.bus
  | some id =>
      obtain ⟨s, hs, howned⟩ := hcovered
      obtain ⟨s', hs', hrecords⟩ := hu.session hs
      refine ⟨s', hs', ?_⟩
      rw [hrecords]
      exact howned.congr hu.bus

/-- What else there is in the workspace does not matter. -/
theorem Stage.congr (h : Stage base e held records w) {e' : Editor}
    (hobservers : w'.observers = w.observers) (hrefusals : w'.refusals = w.refusals)
    (hbus : w'.engine.bus = w.engine.bus) (hsessions : w'.sessions = w.sessions)
    (heditor : w'.editor = some e') : Stage base e' held records w' := by
  refine ⟨?_, ⟨hrefusals.trans h.welcoming.refusals, ?_⟩, heditor, ?_⟩
  · unfold Quiet
    rw [hobservers]
    exact h.quiet
  · rw [hbus]
    exact h.welcoming.declared
  · have hcovered := h.covered
    cases held with
    | none => exact hcovered.congr hbus
    | some id =>
        obtain ⟨s, hs, howned⟩ := hcovered
        exact ⟨s, by rw [hsessions]; exact hs, howned.congr hbus⟩

theorem Stage.modifyEditor (h : Stage base e held records w) (f : Editor → Editor) :
    Stage base (f e) held records (w.modifyEditor f) :=
  h.congr rfl rfl rfl rfl (by simp [Workspace.modifyEditor, h.editor])

end Stage

end Workspace

/-! ## Settled editors -/

/-- No session is open and nothing is relayed. -/
structure Editor.Detached (e : Editor) : Prop where
  session : e.session = none
  undoManager : e.undoManager = none
  modified : e.modifiedSubscription = none
  metadata : e.metadataSubscription = none
  toolbar : e.toolbar.attached = false

/-- A session is open, and changes of the metadata are relayed, as are those of the undo manager
if there is to be one. -/
structure Editor.Attached (e : Editor) (session relay : Nat) : Prop where
  session : e.session = some session
  undoManager : e.undoManager.isSome = e.options.features.undoRedo
  modified : e.modifiedSubscription.isSome = e.options.features.undoRedo
  metadata : e.metadataSubscription = some relay
  toolbar : e.toolbar.attached = true

/-- What the editor has a record of is there: its relay on the engine's bus, and its subscription
to its undo manager. -/
structure Workspace.Linked (e : Editor) (w : Workspace) : Prop where
  relay : ∀ id, e.metadataSubscription = some id →
    { id, kind := .metadataChanged, handler := .metadataRelay e.id } ∈ w.engine.bus.subscriptions
  manager : ∀ id, e.undoManager = some id → id < w.nextId ∧ ∃ m subscription,
    w.undoManagers.get? id = some m ∧ e.modifiedSubscription = some subscription ∧
      { id := subscription, kind := .modifiedChanged, handler := e.id } ∈ m.bus.subscriptions

section Linked

open Workspace (Linked Undisturbed)

variable {e e' : Editor} {w w' : Workspace}

theorem Editor.Detached.linked (h : e.Detached) (w : Workspace) : Linked e w where
  relay := fun id hid => by
    rw [h.metadata] at hid
    cases hid
  manager := fun id hid => by
    rw [h.undoManager] at hid
    cases hid

/-- Subscriptions to other signals may end, and undo managers may change their flags. -/
theorem Workspace.Linked.kept (h : Linked e w)
    (hbus : ∀ s ∈ w.engine.bus.subscriptions, s.kind = .metadataChanged →
      s ∈ w'.engine.bus.subscriptions) (hnextId : w.nextId ≤ w'.nextId)
    (hmanagers : ∀ id < w.nextId,
      (w'.undoManagers.get? id).map (·.bus) = (w.undoManagers.get? id).map (·.bus)) :
    Linked e w' where
  relay := fun id hid => hbus _ (h.relay id hid) rfl
  manager := by
    intro id hid
    obtain ⟨hlt, m, subscription, hm, hsubscription, hmem⟩ := h.manager id hid
    have hbus := hmanagers id hlt
    rw [hm] at hbus
    obtain ⟨m', hm', hsame⟩ := Option.map_eq_some_iff.1 hbus
    exact ⟨hlt.trans_le hnextId, m', subscription, hm', hsubscription, by rw [hsame]; exact hmem⟩

theorem Workspace.Linked.undisturbed (h : Linked e w) (hu : Undisturbed w w') : Linked e w' :=
  h.kept (fun _ hs _ => by rw [hu.bus]; exact hs) hu.nextId fun id _ => hu.managers id

/-- The editor may change, apart from what it has a record of. -/
theorem Workspace.Linked.editor (h : Linked e w) (hid : e'.id = e.id)
    (hmetadata : e'.metadataSubscription = e.metadataSubscription)
    (hundo : e'.undoManager = e.undoManager)
    (hmodified : e'.modifiedSubscription = e.modifiedSubscription) : Linked e' w where
  relay := by
    rw [hid, hmetadata]
    exact h.relay
  manager := by
    rw [hid, hundo, hmodified]
    exact h.manager

end Linked

/-- No document is open, nor does one have to be closed. -/
def EditorState.Idle (s : EditorState) : Prop :=
  s = .uninitialized ∨ s = .closed ∨ s = .destroyed

theorem EditorState.Idle.ne_loading {s : EditorState} (h : s.Idle) : s ≠ .loading := by
  rintro rfl
  rcases h with h | h | h <;> cases h

theorem EditorState.Idle.ne_editing {s : EditorState} (h : s.Idle) : s ≠ .editing := by
  rintro rfl
  rcases h with h | h | h <;> cases h

theorem EditorState.Idle.ne_closing {s : EditorState} (h : s.Idle) : s ≠ .closing := by
  rintro rfl
  rcases h with h | h | h <;> cases h

theorem state_of_open {s state : EditorState} (h : s.next? .open = some state) :
    state = .loading ∧ s.Idle := by
  cases s <;> simp [EditorState.next?] at h
  · exact ⟨h.symm, .inl rfl⟩
  · exact ⟨h.symm, .inr (.inl rfl)⟩

theorem state_of_close {s state : EditorState} (h : s.next? .close = some state) :
    state = .closing ∧ s = .editing := by
  cases s <;> simp [EditorState.next?] at h
  exact ⟨h.symm, rfl⟩

theorem state_of_destroy {s state : EditorState} (h : s.next? .destroy = some state) :
    state = .destroyed ∧ s.Idle := by
  cases s <;> simp [EditorState.next?] at h
  · exact ⟨h.symm, .inl rfl⟩
  · exact ⟨h.symm, .inr (.inl rfl)⟩

structure Editor.Equipped (e : Editor) : Prop where
  session : e.session.isSome = true ↔ e.state = .editing
  metadata : e.metadataSubscription.isSome = true ↔ e.state = .editing
  undoManager : e.undoManager.isSome = true ↔
    e.state = .editing ∧ e.options.features.undoRedo = true
  modified : e.modifiedSubscription.isSome = true ↔
    e.state = .editing ∧ e.options.features.undoRedo = true
  toolbar : e.toolbar.attached = true ↔ e.state = .editing

theorem Editor.Detached.equipped {e : Editor} (h : e.Detached) (hstate : e.state ≠ .editing) :
    e.Equipped where
  session := by simp [h.session, hstate]
  metadata := by simp [h.metadata, hstate]
  undoManager := by simp [h.undoManager, hstate]
  modified := by simp [h.modified, hstate]
  toolbar := by simp [h.toolbar, hstate]

theorem Editor.Attached.equipped {e : Editor} {session relay : Nat} (h : e.Attached session relay)
    (hstate : e.state = .editing) : e.Equipped where
  session := by simp [h.session, hstate]
  metadata := by simp [h.metadata, hstate]
  undoManager := by simp [h.undoManager, hstate]
  modified := by simp [h.modified, hstate]
  toolbar := by simp [h.toolbar, hstate]

namespace Workspace

/-- The editor between two commands. An editor that failed to close its document may have left
subscriptions behind; it can never be used again. -/
inductive Settled (options : EditorOptions)
    (base : List (Subscription EngineSignal EngineListener)) (w : Workspace) : Prop where
  | idle (e : Editor) (hoptions : e.options = options) (hstate : e.state.Idle)
      (hdetached : e.Detached) (h : Stage base e none [] w)
  | editing (e : Editor) (session relay : Nat) (hoptions : e.options = options)
      (hstate : e.state = .editing) (hattached : e.Attached session relay)
      (h : Stage base e (some session) [(.metadataChanged, relay)] w)
  | closing (e : Editor) (hoptions : e.options = options) (hstate : e.state = .closing)
      (hdetached : e.Detached) (hquiet : w.Quiet) (hwelcoming : w.Welcoming)
      (heditor : w.editor = some e)

section Settled

variable {options : EditorOptions} {base : List (Subscription EngineSignal EngineListener)}
  {e : Editor} {w w' : Workspace}

theorem Settled.quiet (h : Settled options base w) : w.Quiet := by
  cases h with
  | idle e hoptions hstate hdetached h => exact h.quiet
  | editing e session relay hoptions hstate hattached h => exact h.quiet
  | closing e hoptions hstate hdetached hquiet => exact hquiet

theorem Settled.undisturbed (h : Settled options base w) (hu : Undisturbed w w') :
    Settled options base w' := by
  cases h with
  | idle e hoptions hstate hdetached h =>
      exact .idle e hoptions hstate hdetached (h.undisturbed hu)
  | editing e session relay hoptions hstate hattached h =>
      exact .editing e session relay hoptions hstate hattached (h.undisturbed hu)
  | closing e hoptions hstate hdetached hquiet hwelcoming heditor =>
      exact .closing e hoptions hstate hdetached hu.quiet (hu.welcoming hwelcoming)
        (hu.editor.trans heditor)

/-- The local member's details and the editor's subscribers do not matter. -/
theorem Settled.modifyDetails (h : Settled options base w) (user : Editor → MemberProperties)
    (bus : Editor → SignalBus EditorSignal Nat) :
    Settled options base
      (w.modifyEditor fun e => { e with user := user e, bus := bus e }) := by
  cases h with
  | idle e hoptions hstate hdetached h =>
      refine .idle { e with user := user e, bus := bus e } hoptions hstate ?_
        (h.modifyEditor fun e => { e with user := user e, bus := bus e })
      exact ⟨hdetached.session, hdetached.undoManager, hdetached.modified, hdetached.metadata,
        hdetached.toolbar⟩
  | editing e session relay hoptions hstate hattached h =>
      refine .editing { e with user := user e, bus := bus e } session relay hoptions hstate ?_
        (h.modifyEditor fun e => { e with user := user e, bus := bus e })
      exact ⟨hattached.session, hattached.undoManager, hattached.modified, hattached.metadata,
        hattached.toolbar⟩
  | closing e hoptions hstate hdetached hquiet hwelcoming heditor =>
      refine .closing { e with user := user e, bus := bus e } hoptions hstate ?_ hquiet
        ⟨hwelcoming.refusals, hwelcoming.declared⟩ ?_
      · exact ⟨hdetached.session, hdetached.undoManager, hdetached.modified, hdetached.metadata,
          hdetached.toolbar⟩
      · simp only [modifyEditor, heditor, Option.map_some]

/-- What else there is in the workspace does not matter. -/
theorem Settled.holding (h : Settled options base w) (holds : List (Place × Access)) :
    Settled options base { w with holds } := by
  cases h with
  | idle e hoptions hstate hdetached h =>
      exact .idle e hoptions hstate hdetached (h.congr rfl rfl rfl rfl h.editor)
  | editing e session relay hoptions hstate hattached h =>
      exact .editing e session relay hoptions hstate hattached (h.congr rfl rfl rfl rfl h.editor)
  | closing e hoptions hstate hdetached hquiet hwelcoming heditor =>
      exact .closing e hoptions hstate hdetached hquiet
        ⟨hwelcoming.refusals, hwelcoming.declared⟩ heditor

/-! ## The editor of a settled workspace -/

/-- An editor without a document holds nothing that it would have to give back. -/
theorem Settled.stage_of_idle (h : Settled options base w) (heditor : w.editor = some e)
    (hidle : e.state.Idle) : e.options = options ∧ e.Detached ∧ Stage base e none [] w := by
  cases h with
  | idle e' hoptions hstate hdetached hstage =>
      obtain rfl := Option.some.inj (hstage.editor.symm.trans heditor)
      exact ⟨hoptions, hdetached, hstage⟩
  | editing e' session relay hoptions hstate hattached hstage =>
      obtain rfl := Option.some.inj (hstage.editor.symm.trans heditor)
      exact absurd hstate hidle.ne_editing
  | closing e' hoptions hstate hdetached hquiet hwelcoming heditor' =>
      obtain rfl := Option.some.inj (heditor'.symm.trans heditor)
      exact absurd hstate hidle.ne_closing

theorem Settled.stage_of_editing (h : Settled options base w) (heditor : w.editor = some e)
    (hediting : e.state = .editing) : e.options = options ∧ ∃ session relay,
      e.Attached session relay ∧ Stage base e (some session) [(.metadataChanged, relay)] w := by
  cases h with
  | idle e' hoptions hidle hdetached hstage =>
      obtain rfl := Option.some.inj (hstage.editor.symm.trans heditor)
      exact absurd hediting hidle.ne_editing
  | editing e' session relay hoptions hstate hattached hstage =>
      obtain rfl := Option.some.inj (hstage.editor.symm.trans heditor)
      exact ⟨hoptions, session, relay, hattached, hstage⟩
  | closing e' hoptions hstate hdetached hquiet hwelcoming heditor' =>
      obtain rfl := Option.some.inj (heditor'.symm.trans heditor)
      have hstates := hstate.symm.trans hediting
      cases hstates

/-- A settled workspace has an editor, which is never loading. -/
theorem Settled.editor_equipped (h : Settled options base w) :
    ∃ e, w.editor = some e ∧ e.options = options ∧ e.state ≠ .loading ∧ e.Equipped := by
  cases h with
  | idle e hoptions hidle hdetached hstage =>
      exact ⟨e, hstage.editor, hoptions, hidle.ne_loading, hdetached.equipped hidle.ne_editing⟩
  | editing e session relay hoptions hstate hattached hstage =>
      exact ⟨e, hstage.editor, hoptions, by simp [hstate], hattached.equipped hstate⟩
  | closing e hoptions hstate hdetached hquiet hwelcoming heditor =>
      exact ⟨e, heditor, hoptions, by simp [hstate], hdetached.equipped (by simp [hstate])⟩

/-! ## What the editor keeps a record of -/

def Backed (w : Workspace) : Prop := ∀ e, w.editor = some e → Linked e w

theorem Backed.undisturbed (h : w.Backed) (hu : Undisturbed w w') : w'.Backed := by
  intro e he
  rw [hu.editor] at he
  exact (h e he).undisturbed hu

theorem Backed.modifyDetails (h : w.Backed) (user : Editor → MemberProperties)
    (bus : Editor → SignalBus EditorSignal Nat) :
    (w.modifyEditor fun e => { e with user := user e, bus := bus e }).Backed := by
  intro e' he'
  obtain ⟨e, he, rfl⟩ := Option.map_eq_some_iff.1 he'
  exact ⟨(h e he).relay, (h e he).manager⟩

theorem Backed.holding (h : w.Backed) (holds : List (Place × Access)) :
    Backed { w with holds } := fun e he => ⟨(h e he).relay, (h e he).manager⟩

theorem backed_of_detached (h : e.Detached) (heditor : w.editor = some e) : w.Backed := by
  intro e' he'
  obtain rfl := Option.some.inj (heditor.symm.trans he')
  exact h.linked w

/-- The editor is settled, and has what it keeps a record of. -/
structure Secure (options : EditorOptions)
    (base : List (Subscription EngineSignal EngineListener)) (w : Workspace) : Prop where
  settled : Settled options base w
  backed : w.Backed

theorem Secure.undisturbed (h : Secure options base w) (hu : Undisturbed w w') :
    Secure options base w' := ⟨h.settled.undisturbed hu, h.backed.undisturbed hu⟩

theorem Secure.modifyDetails (h : Secure options base w) (user : Editor → MemberProperties)
    (bus : Editor → SignalBus EditorSignal Nat) : Secure options base
      (w.modifyEditor fun e => { e with user := user e, bus := bus e }) :=
  ⟨h.settled.modifyDetails user bus, h.backed.modifyDetails user bus⟩

theorem Secure.idle (hoptions : e.options = options) (hstate : e.state.Idle)
    (hdetached : e.Detached) (h : Stage base e none [] w) : Secure options base w :=
  ⟨.idle e hoptions hstate hdetached h, backed_of_detached hdetached h.editor⟩

end Settled

end Workspace

end Coedit
