import Coedit.Proofs.Signal.Renumbering
import Coedit.Proofs.Workspace.Quiet

/-!
# Twins

Two workspaces are twins if the first differs from the second only in its past: in sessions and
undo managers that are out of use, in the numbers of subscriptions, and in what the engine counts
and remembers of what was loaded and submitted. As long as no observer gives commands, twins
remain twins when the same is done to both. Here this is shown of the delivery of events and of
the engine's queue.
-/

namespace Coedit

/-- A listener that is no older than the number says, as far as it has a number of its own. -/
def EngineListener.Since (first : Nat) : EngineListener → Prop
  | .session id | .undoManager id => first ≤ id
  | _ => True

def Session.renumber (r : Renumbering) (s : Session) : Session :=
  { s with
    subscriptions := s.subscriptions.map fun made => (made.1, r.old made.2)
    input := { s.input with undoSubscription := s.input.undoSubscription.map r.old } }

theorem Session.core_renumber (r : Renumbering) (s : Session) : (s.renumber r).core = s.core := rfl

theorem Session.bus_renumber (r : Renumbering) (s : Session) : (s.renumber r).bus = s.bus := rfl

def Editor.renumber (r : Renumbering) (bus : SignalBus EditorSignal Nat) (e : Editor) : Editor :=
  { e with metadataSubscription := e.metadataSubscription.map r.old, bus }

namespace Workspace

/-- What a workspace is holding and passing on, and what was put aside. -/
structure Frame where
  standalone : Option Nat := none
  replaced : List Editor := []
  reporting : List Nat := []
  informed : List Nat := []
  holds : List (Place × Access) := []

def frame (w : Workspace) : Frame where
  standalone := w.standalone
  replaced := w.replaced
  reporting := w.reporting
  informed := w.informed
  holds := w.holds

structure Past where
  bus : SignalBus EngineSignal EngineListener
  submitted : List Batch
  loadCount : Nat
  sessions : Dict Nat Session
  undoManagers : Dict Nat (UndoManager Nat)
  editor : Option Editor

def withPast (p : Past) (w : Workspace) : Workspace :=
  { w with
    engine := { w.engine with bus := p.bus, submitted := p.submitted, loadCount := p.loadCount }
    sessions := p.sessions
    undoManagers := p.undoManagers
    editor := p.editor }

/-- How twins are compared: by the numbers of subscriptions to the engine and to the editor, and
by the number from which on sessions and undo managers are in use. -/
structure Comparison where
  engine : Renumbering
  editor : Renumbering
  first : Nat

/-! ## Twins and their parts -/

structure BusTwin (σ : Comparison) (bus bus' : SignalBus EngineSignal EngineListener) :
    Prop where
  copied : bus.Copied σ.engine bus'
  recent : ∀ s ∈ bus'.subscriptions, s.handler.Since σ.first

structure SessionsTwin (σ : Comparison) (next : Nat) (sessions sessions' : Dict Nat Session) :
    Prop where
  recent : ∀ id, σ.first ≤ id →
    sessions.get? id = (sessions'.get? id).map (Session.renumber σ.engine)
  old : ∀ id s manager, id < σ.first → sessions.get? id = some s →
    s.input.undoManager = some manager → manager < σ.first
  bounded : ∀ id s, sessions'.get? id = some s → σ.first ≤ id ∧ id < next ∧
    ∀ manager, s.input.undoManager = some manager → σ.first ≤ manager ∧ manager < next

theorem SessionsTwin.modify {σ : Comparison} {next id : Nat} {sessions sessions' : Dict Nat Session}
    (h : SessionsTwin σ next sessions sessions') (hid : σ.first ≤ id)
    {change change' : Session → Session}
    (hchange : ∀ s, change (s.renumber σ.engine) = (change' s).renumber σ.engine)
    (hmanager : ∀ s manager, (change' s).input.undoManager = some manager →
      s.input.undoManager = some manager ∨ σ.first ≤ manager ∧ manager < next) :
    SessionsTwin σ next (sessions.modify id change) (sessions'.modify id change') where
  recent := by
    intro other hother
    rw [Dict.get?_modify, Dict.get?_modify, h.recent other hother]
    split
    · rw [Option.map_map, Option.map_map]
      exact congrArg (Option.map · _) (funext hchange)
    · rfl
  old := by
    intro other s manager hother hs
    rw [Dict.get?_modify, if_neg (by omega)] at hs
    exact h.old other s manager hother hs
  bounded := by
    intro other s hs
    obtain ⟨s', hs', ⟨-, rfl⟩ | ⟨-, rfl⟩⟩ := Dict.modify_cases hs
    · exact h.bounded other s hs'
    · obtain ⟨hfirst, hnext, hbounded⟩ := h.bounded other s' hs'
      refine ⟨hfirst, hnext, fun manager hs => ?_⟩
      rcases hmanager s' manager hs with hkept | hgiven
      · exact hbounded manager hkept
      · exact hgiven

structure ManagersTwin (σ : Comparison) (next : Nat)
    (managers managers' : Dict Nat (UndoManager Nat)) : Prop where
  recent : ∀ id, σ.first ≤ id → managers.get? id = managers'.get? id
  bounded : ∀ id m, managers'.get? id = some m → id < next

/-- The same editor, which refers to nothing that is out of use. -/
structure EditorTwin (σ : Comparison) (e e' : Editor) : Prop where
  same : ∃ bus, e = e'.renumber σ.engine bus
  bus : e.bus.Copied σ.editor e'.bus
  session : ∀ id, e'.session = some id → σ.first ≤ id
  undoManager : ∀ id, e'.undoManager = some id → σ.first ≤ id

structure Twin (σ : Comparison) (frame : Frame) (w w' : Workspace) : Prop where
  same : ∃ p : Past, w = w'.withPast p
  bus : BusTwin σ w.engine.bus w'.engine.bus
  sessions : SessionsTwin σ w'.nextId w.sessions w'.sessions
  undoManagers : ManagersTwin σ w'.nextId w.undoManagers w'.undoManagers
  editor : ∃ e e', w.editor = some e ∧ w'.editor = some e' ∧ EditorTwin σ e e'
  quiet : w'.Quiet
  frame : w'.frame = frame
  first : σ.first ≤ w'.nextId

section Twin

variable {σ : Comparison} {f : Frame} {w w' : Workspace} {act : Conduct}

/-! ## What twins have in common -/

theorem Twin.session (h : Twin σ f w w') {id : Nat} (hid : σ.first ≤ id) :
    w.sessions.get? id = (w'.sessions.get? id).map (Session.renumber σ.engine) :=
  h.sessions.recent id hid

theorem Twin.manager (h : Twin σ f w w') {id : Nat} (hid : σ.first ≤ id) :
    w.undoManagers.get? id = w'.undoManagers.get? id :=
  h.undoManagers.recent id hid

theorem Twin.observers (h : Twin σ f w w') : w.observers = w'.observers := by
  obtain ⟨p, rfl⟩ := h.same
  rfl

theorem Twin.replica (h : Twin σ f w w') : w.engine.replica = w'.engine.replica := by
  obtain ⟨p, rfl⟩ := h.same
  rfl

theorem Twin.potential (h : Twin σ f w w') : w.potential = w'.potential := by
  obtain ⟨p, rfl⟩ := h.same
  rfl

theorem Twin.log (h : Twin σ f w w') : w.log = w'.log := by
  obtain ⟨p, rfl⟩ := h.same
  rfl

/-- An undo manager is in use on both sides, or on neither. -/
theorem Twin.isUndoManagerUsed (h : Twin σ f w w') {id : Nat} (hid : σ.first ≤ id) :
    w.isUndoManagerUsed id = w'.isUndoManagerUsed id := by
  have hinformed : w.informed = w'.informed := by
    obtain ⟨p, rfl⟩ := h.same
    rfl
  have heditor : w.editor.any (·.undoManager == some id) =
      w'.editor.any (·.undoManager == some id) := by
    obtain ⟨e, e', he, he', htwin⟩ := h.editor
    obtain ⟨bus, rfl⟩ := htwin.same
    rw [he, he']
    rfl
  have hsessions :
      (w.sessions.toList.any fun e => e.2.attached && e.2.input.undoManager == some id) =
        w'.sessions.toList.any fun e => e.2.attached && e.2.input.undoManager == some id := by
    rw [Bool.eq_iff_iff, List.any_eq_true, List.any_eq_true]
    constructor
    · rintro ⟨⟨holder, s⟩, hmem, huses⟩
      have hs := (Dict.get?_eq_some_iff_mem _ _ _).2 hmem
      by_cases hholder : σ.first ≤ holder
      · rw [h.session hholder] at hs
        obtain ⟨s', hs', rfl⟩ := Option.map_eq_some_iff.1 hs
        exact ⟨(holder, s'), (Dict.get?_eq_some_iff_mem _ _ _).1 hs', huses⟩
      · rw [Bool.and_eq_true, beq_iff_eq] at huses
        have hold := h.sessions.old holder s id (Nat.lt_of_not_le hholder) hs huses.2
        exact absurd hid (Nat.not_le_of_lt hold)
    · rintro ⟨⟨holder, s'⟩, hmem, huses⟩
      have hs' := (Dict.get?_eq_some_iff_mem _ _ _).2 hmem
      have hs := h.session (h.sessions.bounded holder s' hs').1
      rw [hs'] at hs
      exact ⟨(holder, s'.renumber σ.engine), (Dict.get?_eq_some_iff_mem _ _ _).1 hs, huses⟩
  unfold Workspace.isUndoManagerUsed
  rw [hinformed, heditor, hsessions]

/-- An editor is in reach on both sides, or on neither, and those who listen to it are the
same. -/
theorem Twin.listeners (h : Twin σ f w w') (id : Nat) (signal : EditorSignal) :
    (w.editor? id).map (·.bus.handlers signal) = (w'.editor? id).map (·.bus.handlers signal) := by
  obtain ⟨e, e', he, he', htwin⟩ := h.editor
  have haside : (w.replaced.filter fun e => w.reporting.contains e.id) =
      w'.replaced.filter fun e => w'.reporting.contains e.id := by
    obtain ⟨p, rfl⟩ := h.same
    rfl
  have hid : e.id = e'.id := by
    obtain ⟨bus, rfl⟩ := htwin.same
    rfl
  unfold Workspace.editor?
  rw [he, he', haside]
  simp only [Option.toList_some, List.singleton_append, List.find?_cons, hid]
  split
  · exact congrArg some (htwin.bus.handlers signal)
  · rfl

/-! ## Telling -/

theorem Twin.record (h : Twin σ f w w') (entry : LogEntry) :
    Twin σ f (w.record entry) (w'.record entry) := by
  obtain ⟨p, rfl⟩ := h.same
  exact ⟨⟨p, rfl⟩, h.bus, h.sessions, h.undoManagers, h.editor, h.quiet, h.frame, h.first⟩

theorem Twin.interfaceNote (h : Twin σ f w w') (frontend : Frontend) (note : InterfaceNote) :
    Twin σ f (w.interfaceNote frontend note) (w'.interfaceNote frontend note) := by
  cases frontend with
  | headless => exact h
  | recording failing => exact h.record (.interface note)

theorem Twin.foldl {β : Type} {step step' : Workspace → β → Workspace} {l : List β}
    (hstep : ∀ b ∈ l, ∀ w w', Twin σ f w w' → Twin σ f (step w b) (step' w' b))
    (h : Twin σ f w w') : Twin σ f (l.foldl step w) (l.foldl step' w') := by
  induction l generalizing w w' with
  | nil => exact h
  | cons b rest ih =>
      exact ih (fun b hb => hstep b (List.mem_cons_of_mem _ hb))
        (hstep b List.mem_cons_self w w' h)

theorem Twin.notify (h : Twin σ f w w') (event : AnyEvent) (id : Nat) :
    Twin σ f (w.notify act event id) (w'.notify act event id) := by
  obtain ⟨p, rfl⟩ := h.same
  have hquiet : (w'.withPast p).Quiet := h.quiet
  cases ho : w'.observers.get? id with
  | none =>
      have hnone : (w'.withPast p).observers.get? id = none := ho
      rw [notify_of_unknown act event hnone, notify_of_unknown act event ho]
      exact h
  | some o =>
      have hsome : (w'.withPast p).observers.get? id = some o := ho
      rw [notify_of_quiet act event hquiet hsome, notify_of_quiet act event h.quiet ho]
      exact ⟨⟨p, rfl⟩, h.bus, h.sessions, h.undoManagers, h.editor, h.quiet.noting ho event,
        h.frame, h.first⟩

theorem Twin.notifyAll (h : Twin σ f w w') (event : AnyEvent) (ids : List Nat) :
    Twin σ f (ids.foldl (fun w id => w.notify act event id) w)
      (ids.foldl (fun w id => w.notify act event id) w') :=
  h.foldl fun _ _ _ _ h => h.notify event _

theorem Twin.announce (h : Twin σ f w w') {id : Nat} (hid : σ.first ≤ id) (event : SessionEvent) :
    Twin σ f (w.announce act id event) (w'.announce act id event) := by
  unfold Workspace.announce
  rw [h.session hid]
  cases w'.sessions.get? id with
  | none => exact h
  | some s => exact h.notifyAll (.session event) (s.bus.handlers event.signal)

theorem Twin.withReporting (h : Twin σ f w w') (reporting : List Nat) :
    Twin σ { f with reporting } { w with reporting } { w' with reporting } := by
  obtain ⟨p, rfl⟩ := h.same
  refine ⟨⟨p, rfl⟩, h.bus, h.sessions, h.undoManagers, h.editor, h.quiet, ?_, h.first⟩
  rw [← h.frame]
  rfl

theorem Twin.report (h : Twin σ f w w') (editor : Nat) (event : EditorEvent) :
    Twin σ f (w.report act editor event) (w'.report act editor event) := by
  have hlisteners := h.listeners editor event.signal
  have hreporting : w.reporting = w'.reporting := by
    obtain ⟨p, rfl⟩ := h.same
    rfl
  unfold Workspace.report
  cases he : w.editor? editor with
  | none =>
      rw [he, Option.map_none, eq_comm, Option.map_eq_none_iff] at hlisteners
      rw [hlisteners]
      exact h
  | some e =>
      rw [he, Option.map_some, eq_comm, Option.map_eq_some_iff] at hlisteners
      obtain ⟨e', he', hsame⟩ := hlisteners
      rw [he']
      have htold : Twin σ { f with reporting := editor :: w.reporting }
          ((e.bus.handlers event.signal).foldl (fun w id => w.notify act (.editor event) id)
            { w with reporting := editor :: w.reporting })
          ((e.bus.handlers event.signal).foldl (fun w id => w.notify act (.editor event) id)
            { w' with reporting := editor :: w.reporting }) :=
        (h.withReporting _).notifyAll (.editor event) _
      have hback := htold.withReporting w.reporting
      have hf : { { f with reporting := editor :: w.reporting } with reporting := w.reporting } =
          f := by
        rw [hreporting, ← h.frame]
        rfl
      rw [hf] at hback
      simp only [SignalBus.deliver, hsame, ← hreporting]
      exact hback

/-! ## Sessions and undo managers -/

/-- A session is changed alike on both sides; if it is given an undo manager, then one that is in
use. -/
theorem Twin.changeSession (h : Twin σ f w w') {id : Nat} (hid : σ.first ≤ id)
    {change change' : Session → Session}
    (hchange : ∀ s, change (s.renumber σ.engine) = (change' s).renumber σ.engine)
    (hmanager : ∀ s manager, (change' s).input.undoManager = some manager →
      s.input.undoManager = some manager ∨ σ.first ≤ manager ∧ manager < w'.nextId) :
    Twin σ f (w.modifySession id change) (w'.modifySession id change') := by
  obtain ⟨p, rfl⟩ := h.same
  exact ⟨⟨{ p with sessions := p.sessions.modify id change }, rfl⟩, h.bus,
    h.sessions.modify hid hchange hmanager, h.undoManagers, h.editor, h.quiet, h.frame, h.first⟩

/-- A session is changed alike on both sides, and keeps its undo manager. -/
theorem Twin.modifySession (h : Twin σ f w w') {id : Nat} (hid : σ.first ≤ id)
    {change : Session → Session}
    (hchange : ∀ s, change (s.renumber σ.engine) = (change s).renumber σ.engine)
    (hmanager : ∀ s, (change s).input.undoManager = s.input.undoManager) :
    Twin σ f (w.modifySession id change) (w'.modifySession id change) :=
  h.changeSession hid hchange fun s _ hs => .inl ((hmanager s).symm.trans hs)

theorem Twin.reactOnce (h : Twin σ f w w') {id : Nat} (hid : σ.first ≤ id)
    (reaction : Reaction) :
    Twin σ f (w.reactOnce act id reaction) (w'.reactOnce act id reaction) := by
  unfold Workspace.reactOnce
  rw [h.session hid, h.replica]
  cases w'.sessions.get? id with
  | none => exact h
  | some s =>
      have hcore : Twin σ f
          (w.modifySession id fun old =>
            { old with core := (s.core.react w'.engine.replica reaction).1 })
          (w'.modifySession id fun old =>
            { old with core := (s.core.react w'.engine.replica reaction).1 }) :=
        h.modifySession hid (fun _ => rfl) fun _ => rfl
      simp only [Option.map_some, Session.core_renumber]
      cases (s.core.react w'.engine.replica reaction).2 with
      | none => exact hcore
      | some event => exact hcore.announce hid event

theorem Twin.sessionHears (h : Twin σ f w w') {id : Nat} (hid : σ.first ≤ id)
    (event : EngineEvent) :
    Twin σ f (w.sessionHears act event id) (w'.sessionHears act event id) := by
  unfold Workspace.sessionHears
  rw [h.session hid, h.replica]
  cases w'.sessions.get? id with
  | none => exact h
  | some s =>
      simp only [Option.map_some]
      show Twin σ f (if (s.attached || decide (0 < s.reacting)) = true then _ else w) _
      split
      · have hbegin : Twin σ f
            (w.modifySession id fun s => { s with reacting := s.reacting + 1 })
            (w'.modifySession id fun s => { s with reacting := s.reacting + 1 }) :=
          h.modifySession hid (fun _ => rfl) fun _ => rfl
        refine Twin.modifySession ?_ hid (fun _ => rfl) fun _ => rfl
        exact hbegin.foldl fun reaction _ _ _ h => h.reactOnce hid reaction
      · exact h

/-- An undo manager is changed alike on both sides. -/
theorem Twin.insertManager (h : Twin σ f w w') {id : Nat} (hid : id < w'.nextId)
    (m : UndoManager Nat) :
    Twin σ f { w with undoManagers := w.undoManagers.insert id m }
      { w' with undoManagers := w'.undoManagers.insert id m } := by
  obtain ⟨p, rfl⟩ := h.same
  refine ⟨⟨{ p with undoManagers := p.undoManagers.insert id m }, rfl⟩, h.bus, h.sessions,
    ⟨fun other hother => ?_, Dict.forall_insert hid h.undoManagers.bounded⟩, h.editor, h.quiet,
    h.frame, h.first⟩
  show (p.undoManagers.insert id m).get? other = (w'.undoManagers.insert id m).get? other
  rw [Dict.get?_insert, Dict.get?_insert]
  split
  · rfl
  · exact h.undoManagers.recent other hother

theorem Twin.setModified (h : Twin σ f w w') {id : Nat} (hid : σ.first ≤ id) (modified : Bool) :
    Twin σ f (w.setModified act id modified) (w'.setModified act id modified) := by
  unfold Workspace.setModified
  rw [h.manager hid]
  cases hm : w'.undoManagers.get? id with
  | none => exact h
  | some m =>
      have hset := h.insertManager (h.undoManagers.bounded id m hm) (m.setModified modified).1
      show Twin σ f (if (m.setModified modified).2 = true then _ else _)
        (if (m.setModified modified).2 = true then _ else _)
      split
      · exact hset.foldl fun editor _ _ _ h => h.report editor (.documentModifiedChanged modified)
      · exact hset

theorem Twin.withInformed (h : Twin σ f w w') (informed : List Nat) :
    Twin σ { f with informed } { w with informed } { w' with informed } := by
  obtain ⟨p, rfl⟩ := h.same
  refine ⟨⟨p, rfl⟩, h.bus, h.sessions, h.undoManagers, h.editor, h.quiet, ?_, h.first⟩
  rw [← h.frame]
  rfl

theorem Twin.inform (h : Twin σ f w w') {id : Nat} (hid : σ.first ≤ id) :
    Twin σ f (w.inform act id) (w'.inform act id) := by
  have hinformed : w.informed = w'.informed := by
    obtain ⟨p, rfl⟩ := h.same
    rfl
  unfold Workspace.inform
  rw [h.isUndoManagerUsed hid]
  split
  · have hset : Twin σ { f with informed := id :: w.informed }
        (Workspace.setModified act id true { w with informed := id :: w.informed })
        (Workspace.setModified act id true { w' with informed := id :: w.informed }) :=
      (h.withInformed _).setModified hid true
    have hback := hset.withInformed w.informed
    have hf : { { f with informed := id :: w.informed } with informed := w.informed } = f := by
      rw [hinformed, ← h.frame]
      rfl
    rw [hf] at hback
    simp only [← hinformed]
    exact hback
  · exact h

/-! ## Engine events -/

theorem Twin.hear (h : Twin σ f w w') (event : EngineEvent) {listener : EngineListener}
    (hlistener : listener.Since σ.first) :
    Twin σ f (w.hear act event listener) (w'.hear act event listener) := by
  cases listener with
  | session id => exact h.sessionHears hlistener event
  | undoManager id => exact h.inform hlistener
  | metadataRelay editor =>
      cases event with
      | metadataChanged set removed => exact h.report editor (.metadataChanged set removed)
      | _ => exact h
  | observer id => exact h.notify (.engine event) id

theorem Twin.publish (h : Twin σ f w w') (event : EngineEvent) :
    Twin σ f (w.publish act event) (w'.publish act event) := by
  unfold Workspace.publish SignalBus.deliver
  rw [h.bus.copied.handlers]
  refine h.foldl fun listener hlistener _ _ hw => hw.hear event ?_
  obtain ⟨s, hs, rfl⟩ := List.mem_map.1 hlistener
  exact h.bus.recent s (List.mem_filter.1 hs).1

/-! ## The queue -/

theorem Twin.applyNext? (h : Twin σ f w w') :
    w.engine.applyNext? = none ∧ w'.engine.applyNext? = none ∨
      ∃ events e e', w.engine.applyNext? = some (events, e) ∧
        w'.engine.applyNext? = some (events, e') ∧
        Twin σ f { w with engine := e } { w' with engine := e' } := by
  have hpending : w.engine.pending = w'.engine.pending := by
    obtain ⟨p, rfl⟩ := h.same
    rfl
  unfold Engine.applyNext?
  rw [hpending, h.replica]
  cases w'.engine.pending with
  | nil => exact .inl ⟨rfl, rfl⟩
  | cons batch rest =>
      refine .inr ⟨_, _, _, rfl, rfl, ?_⟩
      obtain ⟨p, rfl⟩ := h.same
      exact ⟨⟨p, rfl⟩, h.bus, h.sessions, h.undoManagers, h.editor, h.quiet, h.frame, h.first⟩

theorem Twin.applyQueued (h : Twin σ f w w') (count : Nat) :
    Twin σ f (w.applyQueued act count) (w'.applyQueued act count) := by
  induction count generalizing w w' with
  | zero => exact h
  | succ count ih =>
      unfold Workspace.applyQueued
      obtain ⟨hnone, hnone'⟩ | ⟨events, e, e', hsome, hsome', hnext⟩ := h.applyNext?
      · rw [hnone, hnone']
        exact h
      · rw [hsome, hsome']
        exact ih (hnext.foldl fun event _ _ _ hw => hw.publish event)

theorem Twin.flush (h : Twin σ f w w') : Twin σ f (w.flush act) (w'.flush act) := by
  unfold Workspace.flush
  rw [h.potential]
  exact h.applyQueued _

theorem Twin.followUp (h : Twin σ f w w') : Twin σ f (w.followUp act) (w'.followUp act) := by
  have himmediate : w.engine.immediate = w'.engine.immediate := by
    obtain ⟨p, rfl⟩ := h.same
    rfl
  unfold Workspace.followUp
  rw [himmediate]
  split
  · exact h.flush
  · exact h

/-- A batch is taken on both sides, or refused on both for the same reason. -/
theorem Twin.take (h : Twin σ f w w') (batch : Batch) :
    (∃ cause, w.take batch = .error cause ∧ w'.take batch = .error cause) ∨
      ∃ v v', w.take batch = .ok v ∧ w'.take batch = .ok v' ∧ Twin σ f v v' := by
  have hphase : w.engine.phase = w'.engine.phase := by
    obtain ⟨p, rfl⟩ := h.same
    rfl
  unfold Workspace.take Engine.accept
  rw [hphase]
  cases w'.engine.phase with
  | idle | closed => exact .inl ⟨_, rfl, rfl⟩
  | opened =>
      refine .inr ⟨_, _, rfl, rfl, ?_⟩
      obtain ⟨p, rfl⟩ := h.same
      exact ⟨⟨{ p with submitted := p.submitted ++ [batch] }, rfl⟩, h.bus, h.sessions,
        h.undoManagers, h.editor, h.quiet, h.frame, h.first⟩

theorem Twin.takeFrom (h : Twin σ f w w') (batch : Batch) :
    (∃ cause, w.takeFrom batch = .error cause ∧ w'.takeFrom batch = .error cause) ∨
      ∃ v v', w.takeFrom batch = .ok v ∧ w'.takeFrom batch = .ok v' ∧ Twin σ f v v' := by
  have hrefused : w.refused? batch = w'.refused? batch := by
    obtain ⟨p, rfl⟩ := h.same
    rfl
  unfold Workspace.takeFrom
  rw [hrefused]
  cases w'.refused? batch with
  | some op => exact .inl ⟨_, rfl, rfl⟩
  | none => exact h.take batch

end Twin

/-! ## Answers -/

/-- The same answer on both sides, up to `P`, from workspaces that are twins afterwards. -/
inductive Answers {ε α : Type} (P : α → α → Prop) (σ : Comparison) (f : Frame) :
    Except ε α × Workspace → Except ε α × Workspace → Prop where
  | ok {a a' w w'} (h : P a a') (hw : Twin σ f w w') : Answers P σ f (.ok a, w) (.ok a', w')
  | error {cause w w'} (hw : Twin σ f w w') : Answers P σ f (.error cause, w) (.error cause, w')

section Answers

variable {σ : Comparison} {f : Frame} {w w' : Workspace} {act : Conduct}

theorem Twin.enqueue (h : Twin σ f w w') (batch : Batch) :
    Answers Eq σ f (w.enqueue act batch) (w'.enqueue act batch) := by
  unfold Workspace.enqueue
  obtain ⟨cause, hw, hw'⟩ | ⟨v, v', hw, hw', hv⟩ := h.take batch
  · rw [hw, hw']
    exact .error h
  · rw [hw, hw']
    exact .ok rfl hv.followUp

theorem Twin.submit (h : Twin σ f w w') (batch : Batch) :
    Answers Eq σ f (w.submit act batch) (w'.submit act batch) := by
  unfold Workspace.submit
  obtain ⟨cause, hw, hw'⟩ | ⟨v, v', hw, hw', hv⟩ := h.takeFrom batch
  · rw [hw, hw']
    exact .error h
  · rw [hw, hw']
    exact .ok rfl hv.followUp

theorem Twin.find (h : Twin σ f w w') (files : FileTree) (url : String) :
    w.engine.find files url = w'.engine.find files url := by
  obtain ⟨p, rfl⟩ := h.same
  rfl

theorem Twin.loadDocument (h : Twin σ f w w') (files : FileTree) (url : String) :
    Answers Eq σ f (w.loadDocument files url) (w'.loadDocument files url) := by
  unfold Workspace.loadDocument Engine.load
  rw [h.find]
  cases w'.engine.find files url with
  | error cause => exact .error h
  | ok document =>
      obtain ⟨p, rfl⟩ := h.same
      exact .ok rfl ⟨⟨{ p with loadCount := p.loadCount + 1 }, rfl⟩, h.bus, h.sessions,
        h.undoManagers, h.editor, h.quiet, h.frame, h.first⟩

theorem Twin.finishClose (h : Twin σ f w w') :
    Answers Eq σ f (w.engine.finishClose.1, { w with engine := w.engine.finishClose.2 })
      (w'.engine.finishClose.1, { w' with engine := w'.engine.finishClose.2 }) := by
  have hfailure : w.engine.closeFailure = w'.engine.closeFailure := by
    obtain ⟨p, rfl⟩ := h.same
    rfl
  unfold Engine.finishClose
  rw [hfailure]
  cases w'.engine.closeFailure with
  | some reason =>
      obtain ⟨p, rfl⟩ := h.same
      exact .error ⟨⟨p, rfl⟩, h.bus, h.sessions, h.undoManagers, h.editor, h.quiet, h.frame,
        h.first⟩
  | none =>
      obtain ⟨p, rfl⟩ := h.same
      exact .ok rfl ⟨⟨p, rfl⟩, h.bus, h.sessions, h.undoManagers, h.editor, h.quiet, h.frame,
        h.first⟩

theorem Twin.closeEngine (h : Twin σ f w w') :
    Answers Eq σ f (w.closeEngine act) (w'.closeEngine act) := by
  have hopen : w.engine.isOpen = w'.engine.isOpen := by
    obtain ⟨p, rfl⟩ := h.same
    rfl
  unfold Workspace.closeEngine
  rw [hopen]
  split
  · exact h.flush.finishClose
  · exact .error h

/-! ## Subscriptions to the engine -/

def SameNumber (σ : Comparison) (id id' : Nat) : Prop := id = σ.engine.old id'

theorem Twin.subscribeEngine (h : Twin σ f w w') (signal : EngineSignal)
    (listener : EngineListener) (hlistener : listener.Since σ.first) :
    (∃ cause, w.engine.subscribe signal listener = .error cause ∧
        w'.engine.subscribe signal listener = .error cause) ∨
      ∃ id' engine engine', w.engine.subscribe signal listener = .ok (σ.engine.old id', engine) ∧
        w'.engine.subscribe signal listener = .ok (id', engine') ∧
        Twin σ f { w with engine } { w' with engine := engine' } := by
  unfold Engine.subscribe
  obtain ⟨cause, hw, hw'⟩ | ⟨c, c', hw, hw', hcopied, hsubscriptions⟩ :=
    h.bus.copied.subscribe signal listener
  · rw [hw, hw']
    exact .inl ⟨_, rfl, rfl⟩
  · rw [hw, hw']
    refine .inr ⟨_, _, _, rfl, rfl, ?_⟩
    obtain ⟨p, rfl⟩ := h.same
    refine ⟨⟨{ p with bus := c }, rfl⟩, ⟨hcopied, fun s hs => ?_⟩, h.sessions, h.undoManagers,
      h.editor, h.quiet, h.frame, h.first⟩
    rw [hsubscriptions] at hs
    rcases List.mem_append.1 hs with hold | hnew
    · exact h.bus.recent s hold
    · rw [List.mem_singleton.1 hnew]
      exact hlistener

theorem Twin.subscribe (h : Twin σ f w w') (signal : EngineSignal) (listener : EngineListener)
    (hlistener : listener.Since σ.first) :
    Answers (SameNumber σ) σ f (w.subscribe signal listener) (w'.subscribe signal listener) := by
  have hrefused : w.refusals.signals.contains signal.name =
      w'.refusals.signals.contains signal.name := by
    obtain ⟨p, rfl⟩ := h.same
    rfl
  unfold Workspace.subscribe
  rw [hrefused]
  split
  · exact .error h
  · obtain ⟨cause, hw, hw'⟩ | ⟨id', engine, engine', hw, hw', hmade⟩ :=
      h.subscribeEngine signal listener hlistener
    · rw [hw, hw']
      exact .error h
    · rw [hw, hw']
      exact .ok rfl hmade

theorem Twin.unsubscribe (h : Twin σ f w w') (signal : EngineSignal) (id : Nat) :
    Twin σ f (w.unsubscribe signal (σ.engine.old id)) (w'.unsubscribe signal id) := by
  obtain ⟨p, rfl⟩ := h.same
  exact ⟨⟨{ p with bus := p.bus.unsubscribe signal (σ.engine.old id) }, rfl⟩,
    ⟨h.bus.copied.unsubscribe signal id, fun s hs => h.bus.recent s (List.mem_filter.1 hs).1⟩,
    h.sessions, h.undoManagers, h.editor, h.quiet, h.frame, h.first⟩

theorem Twin.unsubscribe_stale (h : Twin σ f w w') (signal : EngineSignal) {id : Nat}
    (hid : σ.engine.new? id = none) : w.unsubscribe signal id = w := by
  unfold Workspace.unsubscribe Engine.unsubscribe
  rw [h.bus.copied.unsubscribe_stale signal hid]

end Answers

end Workspace

end Coedit
