import Coedit.Proofs.Editor.Closing
import Coedit.Proofs.Workspace.Lasting
import Coedit.Proofs.Workspace.Upshot

/-!
# Holding the editor

While a command holds the editor for itself, nobody else changes it: all other commands to the
editor or to its session are answered with `busy`, whoever gives them and however deep they
nest. The editor may rely on that while it opens or closes a document.
-/

namespace Coedit

/-- No session is open and nothing is relayed, whatever the toolbar was told. -/
structure Editor.Bare (e : Editor) : Prop where
  session : e.session = none
  undoManager : e.undoManager = none
  modified : e.modifiedSubscription = none
  metadata : e.metadataSubscription = none

def Editor.Ready (e : Editor) : Prop := e.state.canOpen = true → e.Bare

def SignalBus.Numbered {κ η : Type} (bus : SignalBus κ η) : Prop :=
  ∀ s ∈ bus.subscriptions, s.id < bus.nextId

namespace Workspace

open Attempt (Triple)

def joined (bus : SignalBus EngineSignal EngineListener) (signal : EngineSignal)
    (listener : EngineListener) : SignalBus EngineSignal EngineListener :=
  { bus with
    subscriptions := bus.subscriptions ++
      [{ id := bus.nextId, kind := signal, handler := listener }]
    nextId := bus.nextId + 1 }

theorem numbered_joined {bus : SignalBus EngineSignal EngineListener} (h : bus.Numbered)
    (signal : EngineSignal) (listener : EngineListener) :
    (joined bus signal listener).Numbered := by
  intro s hs
  rcases List.mem_append.1 hs with hold | hnew
  · exact Nat.lt_succ_of_lt (h s hold)
  · rw [List.mem_singleton.1 hnew]
    exact Nat.lt_succ_self _

structure Orderly (w : Workspace) : Prop where
  ready : ∀ e, w.editor = some e → e.Ready
  numbered : w.engine.bus.Numbered

theorem Orderly.congr {w w' : Workspace} (h : Orderly w) (heditor : w'.editor = w.editor)
    (hbus : w'.engine.bus = w.engine.bus) : Orderly w' where
  ready := by
    rw [heditor]
    exact h.ready
  numbered := by
    rw [hbus]
    exact h.numbered

/-! ## Winding up a session -/

/-- A relation that holds across all that the end of a session consists of: notes, subscriptions
that end, and sessions to which nobody subscribes, and which remain their members'. -/
structure Unwinding (R : Workspace → Workspace → Prop) : Prop where
  refl : ∀ w, R w w
  trans : ∀ {w w' w''}, R w w' → R w' w'' → R w w''
  note : ∀ w frontend note, R w (w.interfaceNote frontend note)
  unsubscribe : ∀ w signal id, R w (w.unsubscribe signal id)
  session : ∀ {w id} {f : Session → Session},
    (∀ s, (f s).bus.subscriptions ⊆ s.bus.subscriptions) →
      (∀ s, (f s).core.member = s.core.member) → R w (w.modifySession id f)

namespace Unwinding

variable {R : Workspace → Workspace → Prop}

theorem unsubscribeAll (hR : Unwinding R) (made : List (EngineSignal × Nat)) (w : Workspace) :
    R w (made.foldl (fun w s => w.unsubscribe s.1 s.2) w) :=
  List.foldlRecOn (motive := R w) _ _ (hR.refl w) fun w' h s _ =>
    hR.trans h (hR.unsubscribe w' s.1 s.2)

/-- A session whose subscribers stay. -/
theorem holding (hR : Unwinding R) {id : Nat} {f : Session → Session}
    (hbus : ∀ s, (f s).bus = s.bus) (hmember : ∀ s, (f s).core.member = s.core.member)
    {w : Workspace} : R w (w.modifySession id f) :=
  hR.session (fun s => by rw [hbus s]; exact List.Subset.refl _) hmember

theorem dropSession (hR : Unwinding R) (id : Nat) (w : Workspace) : R w (w.dropSession id) :=
  hR.holding (fun _ => by rfl) fun _ => by rfl

theorem dropUndoSubscription (hR : Unwinding R) (id : Nat) (w : Workspace) :
    R w (w.dropUndoSubscription id) := by
  unfold Workspace.dropUndoSubscription
  split
  · exact hR.refl w
  · exact hR.trans (hR.unsubscribe w _ _) (hR.holding (fun _ => by rfl) fun _ => by rfl)

theorem tearDownPart (hR : Unwinding R) {release : Workspace → Workspace}
    (hrelease : ∀ w, R w (release w)) (frontend : Frontend) (part : String) (w : Workspace) :
    R w (tearDownPart frontend part release w).2 := by
  have hnoted := hR.note w frontend (.tornDown part)
  unfold Workspace.tearDownPart
  cases frontend with
  | headless => exact hR.trans hnoted (hrelease _)
  | recording failing =>
      simp only
      split
      · exact hnoted
      · exact hR.trans hnoted (hrelease _)

theorem releaseSignals (hR : Unwinding R) (id : Nat) (w : Workspace) :
    R w (w.releaseSignals id) := by
  unfold Workspace.releaseSignals
  split
  · exact hR.refl w
  · exact hR.trans (hR.unsubscribeAll _ w)
      (hR.session (fun _ => List.nil_subset _) fun _ => rfl)

theorem sessionTeardown (hR : Unwinding R) {id : Nat} {frontend : Frontend}
    {action : TeardownAction Workspace} (h : action ∈ sessionTeardown id frontend) (w : Workspace) :
    R w (action w).2 := by
  rcases List.mem_append.1 h with hpart | hlast
  · obtain ⟨part, -, rfl⟩ := List.mem_map.1 hpart
    refine hR.tearDownPart (fun w => ?_) frontend part w
    split
    · exact hR.trans (hR.dropUndoSubscription id w)
        (hR.holding (fun _ => by rfl) fun _ => by rfl)
    · exact hR.refl w
  · rw [List.mem_singleton.1 hlast]
    exact hR.releaseSignals id w

theorem destroySession (hR : Unwinding R) (id : Nat) (w : Workspace) :
    R w (w.destroySession id).2 := by
  unfold Workspace.destroySession
  cases w.sessions.get? id with
  | none => exact hR.refl w
  | some s =>
      have htorn : R w (tearDownAll (Workspace.sessionTeardown id s.frontend) w).2 :=
        tearDownAll_keeps (P := R w)
          (fun action hmem w' hw' => hR.trans hw' (hR.sessionTeardown hmem w')) (hR.refl w)
      exact hR.trans htorn (hR.dropSession id _)

end Unwinding

/-! ## Working with sessions -/

/-- A relation that holds across all that is done with sessions: they subscribe to the engine, get
undo managers, and take their place. -/
structure Handling (R : Workspace → Workspace → Prop) : Prop extends Unwinding R where
  subscribed : ∀ w signal listener, R w { w with engine := subscribed w.engine signal listener }
  installed : ∀ w standalone, R w { w with standalone }

namespace Handling

variable {R : Workspace → Workspace → Prop}

theorem subscribe (hR : Handling R) (signal : EngineSignal) (listener : EngineListener)
    (w : Workspace) : R w (w.subscribe signal listener).2 := by
  obtain ⟨cause, hcause⟩ | hok := subscribe_cases signal listener w
  · rw [hcause]
    exact hR.refl w
  · rw [hok]
    exact hR.subscribed w signal listener

theorem subscribeSession (hR : Handling R) (id : Nat) (made : List (EngineSignal × Nat))
    (signals : List EngineSignal) (w : Workspace) :
    R w (subscribeSession id made signals w).2 := by
  induction signals generalizing made w with
  | nil => exact hR.refl w
  | cons signal rest ih =>
      unfold Workspace.subscribeSession
      obtain ⟨cause, hcause⟩ | hok := subscribe_cases signal (.session id) w
      · rw [hcause]
        exact hR.unsubscribeAll made w
      · rw [hok]
        exact hR.trans (hR.subscribed w signal (.session id)) (ih _ _)

/-- Where it makes no difference who is there and what numbers were given out. -/
theorem createSession (hR : Handling R)
    (hnext : ∀ w, R w { w with nextId := w.nextId + 1 })
    (hadded : ∀ w sessions, R w { w with sessions }) (spec : SessionSpec) (features : FeatureSet)
    (w : Workspace) : R w (w.createSession spec features).2 := by
  have hstart := hR.trans (hR.note w spec.frontend (.components spec.member features)) (hnext _)
  unfold Workspace.createSession
  generalize w.interfaceNote spec.frontend (.components spec.member features) = noted at hstart ⊢
  have hmade := hR.trans hstart (hR.subscribeSession noted.nextId [] relayedSignals _)
  simp only
  cases hs : Workspace.subscribeSession noted.nextId [] relayedSignals
      { noted with nextId := noted.nextId + 1 } with
  | mk result w' =>
      rw [hs] at hmade
      cases result with
      | error cause => exact hmade
      | ok made => exact hR.trans hmade (hadded w' _)

theorem setUndoManager (hR : Handling R) (id manager : Nat) (w : Workspace) :
    R w (w.setUndoManager id manager).2 := by
  have hdropped := hR.dropUndoSubscription id w
  have hsubscribed :=
    hR.subscribed (w.dropUndoSubscription id) .undoStackChanged (.undoManager manager)
  exact of_setUndoManager hdropped
    (hR.trans (hR.trans hdropped hsubscribed) (hR.holding (fun _ => by rfl) fun _ => by rfl))

theorem setEditing (hR : Handling R) (id : Nat) (editing : Bool) (w : Workspace) :
    R w (w.setEditing id editing) := by
  unfold Workspace.setEditing
  cases w.sessions.get? id with
  | none => exact hR.refl w
  | some s =>
      exact hR.trans (hR.note w s.frontend (if editing then .startEditing else .endEditing))
        (hR.holding (fun _ => by rfl) fun _ => by rfl)

theorem newSession (hR : Handling R) {spec : SessionSpec} {w : Workspace}
    (hcreated : R w (w.createSession spec .all).2) : R w (w.newSession spec).2 := by
  unfold Workspace.newSession
  cases hs : w.createSession spec .all with
  | mk result w' =>
      rw [hs] at hcreated
      cases result with
      | error cause => exact hcreated
      | ok id =>
          simp only
          split
          · refine hR.trans hcreated ?_
            unfold installSession
            cases w'.standalone with
            | none => exact hR.installed w' (some id)
            | some older => exact hR.trans (hR.dropSession older w') (hR.installed _ (some id))
          · exact hR.trans hcreated (hR.dropSession id w')

end Handling

/-! ## What leaves the editor alone -/

structure Apart (w w' : Workspace) : Prop where
  editor : w'.editor = w.editor
  holds : w'.holds = w.holds
  numbered : w.engine.bus.Numbered → w'.engine.bus.Numbered
  actions : ∀ id, (w'.observers.get? id).map (·.actions) = (w.observers.get? id).map (·.actions)

section Apart

variable {w w' w'' : Workspace}

theorem Apart.refl (w : Workspace) : Apart w w := ⟨rfl, rfl, id, fun _ => rfl⟩

theorem Apart.trans (h : Apart w w') (h' : Apart w' w'') : Apart w w'' :=
  ⟨h'.editor.trans h.editor, h'.holds.trans h.holds, h'.numbered ∘ h.numbered,
    fun id => (h'.actions id).trans (h.actions id)⟩

theorem Apart.gives {allowed : Command → Prop} (h : Apart w w')
    (hgives : Agenda.ObserversGive allowed w) : Agenda.ObserversGive allowed w' :=
  gives_of_actions h.actions hgives

theorem Passing.apart (h : Passing w w') : Apart w w' := by
  refine ⟨h.editor, h.holds, fun hnumbered => ?_, h.actions⟩
  rw [h.bus]
  exact hnumbered

/-- What is known, noted and counted does not matter. -/
theorem apart_of_same (heditor : w'.editor = w.editor) (hholds : w'.holds = w.holds)
    (hengine : w'.engine = w.engine) (hobservers : w'.observers = w.observers) : Apart w w' :=
  ⟨heditor, hholds, fun h => by rw [hengine]; exact h, fun id => by rw [hobservers]⟩

theorem apart_subscribed (signal : EngineSignal) (listener : EngineListener) (w : Workspace) :
    Apart w { w with engine := subscribed w.engine signal listener } :=
  ⟨rfl, rfl, fun h => numbered_joined h signal listener, fun _ => rfl⟩

theorem apart_unwinding : Unwinding Apart where
  refl := .refl
  trans := .trans
  note := fun w frontend note => (passing_interfaceNote frontend note w).apart
  unsubscribe := fun _ _ _ => ⟨rfl, rfl, fun h s hs => h s (List.mem_filter.1 hs).1, fun _ => rfl⟩
  session := fun _ _ => apart_of_same rfl rfl rfl rfl

theorem apart_handling : Handling Apart where
  toUnwinding := apart_unwinding
  subscribed := fun w signal listener => apart_subscribed signal listener w
  installed := fun _ _ => apart_of_same rfl rfl rfl rfl

theorem apart_createSession (spec : SessionSpec) (features : FeatureSet) (w : Workspace) :
    Apart w (w.createSession spec features).2 :=
  apart_handling.createSession (fun _ => apart_of_same rfl rfl rfl rfl)
    (fun _ _ => apart_of_same rfl rfl rfl rfl) spec features w

theorem apart_newSession (spec : SessionSpec) (w : Workspace) : Apart w (w.newSession spec).2 :=
  apart_handling.newSession (apart_createSession spec .all w)

end Apart

/-! ## What endures -/

/-- `P` lasts, whatever subscriptions come and go, and whoever else observes. -/
structure Enduring (act : Conduct) (allowed : Command → Prop) (P : Workspace → Prop) : Prop
    extends Lasting act allowed P where
  apart : ∀ {w w'}, P w → Apart w w' → P w'
  observed : ∀ {w label actions times}, P w → (∀ c ∈ actions, allowed c) →
    P (w.addObserver label actions times)

namespace Enduring

variable {act : Conduct} {allowed : Command → Prop} {P : Workspace → Prop} {w : Workspace}

theorem doEngine (h : Enduring act allowed P) (hw : P w) (c : EngineCommand) :
    P (w.doEngine act c).2 := by
  cases c with
  | load url =>
      rw [Workspace.doEngine, reply_snd]
      exact h.passing hw (passing_loadDocument w.files url w)
  | close =>
      rw [Workspace.doEngine, reply_snd]
      exact h.closeEngine hw
  | flush => exact h.flush hw
  | enqueue batch =>
      rw [Workspace.doEngine, reply_snd]
      exact h.enqueue batch hw
  | unsubscribe signal id => exact h.apart hw (apart_unwinding.unsubscribe w signal id)
  | ask query => exact hw
  | register | failNextClose | setImmediate | takeSubmitted | refuse =>
      exact h.passing hw ⟨rfl, rfl, rfl, fun _ => rfl, rfl, fun _ => rfl⟩

theorem doSession (h : Enduring act allowed P) (hw : P w) (id : Nat) (c : SessionCommand) :
    P (w.doSession act id c).2 := by
  cases c with
  | unsubscribe signal subscription => exact h.apart hw (apart_of_same rfl rfl rfl rfl)
  | ask query =>
      rw [doSession_ask_snd]
      exact hw
  | edit e =>
      rw [doSession_edit_snd]
      exact h.edit id e hw
  | undo | redo => exact hw

theorem doInput (h : Enduring act allowed P) (hw : P w) (id : Nat) (c : InputCommand) :
    P (w.doInput act id c).2 := by
  cases c with
  | insertCursor =>
      rw [Workspace.doInput, reply_snd]
      exact h.submitFor id .addCursor hw
  | removeCursor =>
      rw [Workspace.doInput, reply_snd]
      exact h.submitFor id .removeCursor hw
  | setUndoManager =>
      rw [Workspace.doInput, reply_snd]
      have hcreated : Apart w w.createUndoManager.2 := apart_of_same rfl rfl rfl rfl
      exact h.apart hw (hcreated.trans (apart_handling.setUndoManager id w.createUndoManager.1 _))
  | startEditing => exact h.passing hw (passing_setEditing id true w)
  | endEditing => exact h.passing hw (passing_setEditing id false w)

theorem watchEngine (h : Enduring act allowed P) (hw : P w) (signal : EngineSignal)
    (label : String) {actions : List Command} (hactions : ∀ c ∈ actions, allowed c) (times : Nat) :
    P (w.watchEngine signal label actions times).2 := by
  unfold Workspace.watchEngine Engine.subscribe SignalBus.subscribe
  cases w.engine.bus.checkDeclared signal with
  | error cause => exact hw
  | ok _ =>
      exact h.observed (h.apart hw (apart_subscribed signal (.observer w.nextId) w)) hactions

theorem watchSession (h : Enduring act allowed P) (hw : P w) (signal : SessionSignal)
    (label : String) {actions : List Command} (hactions : ∀ c ∈ actions, allowed c)
    (times id : Nat) : P (w.watchSession signal label actions times id).2 := by
  unfold Workspace.watchSession
  cases w.sessions.get? id with
  | none => exact hw
  | some s =>
      simp only
      cases s.bus.subscribe signal w.nextId with
      | error cause => exact hw
      | ok made => exact h.observed (h.apart hw (apart_of_same rfl rfl rfl rfl)) hactions

end Enduring

/-! ## Holding the editor -/

structure Tended (holds : List (Place × Access)) (held : Option Editor) (w : Workspace) : Prop
    extends Orderly w where
  under : w.holds = holds
  editor : (.editor, .exclusive) ∈ holds → w.editor = held

section Tended

variable {holds : List (Place × Access)} {held : Option Editor} {w w' : Workspace} {act : Conduct}

theorem Tended.apart (h : Tended holds held w) (ha : Apart w w') : Tended holds held w' where
  ready := by
    rw [ha.editor]
    exact h.ready
  numbered := ha.numbered h.numbered
  under := ha.holds.trans h.under
  editor := fun hheld => ha.editor.trans (h.editor hheld)

def Tends (act : Conduct) : Prop :=
  ∀ holds held c w, Tended holds held w → Tended holds held (act c w).2

theorem Tends.enduring (h : Tends act) (holds : List (Place × Access)) (held : Option Editor) :
    Enduring act (fun _ => True) (Tended holds held) where
  passing := fun hw hpassing => hw.apart hpassing.apart
  gives := fun _ _ _ _ _ _ => trivial
  acts := fun hw _ => h holds held _ _ hw
  apart := fun hw ha => hw.apart ha
  observed := fun hw _ => ⟨⟨hw.ready, hw.numbered⟩, hw.under, hw.editor⟩

theorem not_held_of_isFree {access : Access} (h : w.isFree .editor access = true) :
    (.editor, .exclusive) ∉ w.holds := by
  intro hmem
  have hfree := List.all_eq_true.1 h _ hmem
  simp at hfree

theorem tended_holding {place : Place} {access : Access} {job : Workspace → Reply × Workspace}
    (h : Tended holds held w)
    (hjob : ∀ w', Tended ((place, access) :: holds) w.editor w' → w'.editor = w.editor →
      w.isFree place access = true →
      Orderly (job w').2 ∧ ((.editor, .exclusive) ∈ holds → (job w').2.editor = w.editor)) :
    Tended holds held (w.holding place access job).2 := by
  unfold holding
  split
  · rename_i hfree
    have hstart : Tended ((place, access) :: holds) w.editor
        { w with holds := (place, access) :: w.holds } :=
      ⟨h.toOrderly.congr rfl rfl, by rw [h.under], fun _ => rfl⟩
    obtain ⟨horderly, hkept⟩ := hjob _ hstart rfl hfree
    exact ⟨horderly.congr rfl rfl, h.under, fun hheld => (hkept hheld).trans (h.editor hheld)⟩
  · exact h

/-- A job that leaves alone whoever holds the editor. -/
theorem tended_holding_of_tending {place : Place} {access : Access}
    {job : Workspace → Reply × Workspace} (h : Tended holds held w)
    (hjob : ∀ holds held w, Tended holds held w → Tended holds held (job w).2) :
    Tended holds held (w.holding place access job).2 :=
  tended_holding h fun w' hw' _ _ =>
    have hkept := hjob _ _ w' hw'
    ⟨hkept.toOrderly, fun hheld => hkept.editor (List.mem_cons_of_mem _ hheld)⟩

theorem tended_withSession {access : Access} {job : Nat → Workspace → Reply × Workspace}
    (h : Tended holds held w)
    (hjob : ∀ id holds held w, Tended holds held w → Tended holds held (job id w).2) :
    Tended holds held (w.withSession access job).2 := by
  unfold withSession
  split
  · exact tended_holding_of_tending h (hjob _)
  · exact tended_holding_of_tending h fun _ _ _ hw => hw
  · exact h

/-- A command that gets hold of the editor need not tend anybody. -/
theorem tended_withEditor {access : Access} {job : Editor → Workspace → Reply × Workspace}
    (h : Tended holds held w)
    (hjob : ∀ e w', w'.editor = some e → Tended ((.editor, access) :: holds) (some e) w' →
      Orderly (job e w').2) :
    Tended holds held (w.withEditor access job).2 := by
  unfold withEditor
  cases he : w.editor with
  | none => exact h
  | some e =>
      refine tended_holding h fun w' hw' heditor hfree => ⟨hjob e w' (heditor.trans he) ?_, ?_⟩
      · rw [he] at hw'
        exact hw'
      · intro hheld
        rw [← h.under] at hheld
        exact absurd hheld (not_held_of_isFree hfree)

end Tended

/-! ## While the editor is held -/

structure Underway (holds : List (Place × Access)) (good : Editor → Prop) (w : Workspace) :
    Prop where
  numbered : w.engine.bus.Numbered
  under : w.holds = holds
  editor : ∃ e, w.editor = some e ∧ good e

section Underway

variable {holds : List (Place × Access)} {good good' : Editor → Prop} {w w' : Workspace}
  {act : Conduct} {α : Type}

theorem Underway.apart (h : Underway holds good w) (ha : Apart w w') : Underway holds good w' where
  numbered := ha.numbered h.numbered
  under := ha.holds.trans h.under
  editor := by
    rw [ha.editor]
    exact h.editor

theorem Underway.mono (h : Underway holds good w) (hgood : ∀ e, good e → good' e) :
    Underway holds good' w :=
  ⟨h.numbered, h.under, h.editor.imp fun e he => ⟨he.1, hgood e he.2⟩⟩

theorem Underway.modifyEditor {f : Editor → Editor} (h : Underway holds good w)
    (hf : ∀ e, good e → good' (f e)) : Underway holds good' (w.modifyEditor f) := by
  obtain ⟨e, he, hgood⟩ := h.editor
  exact ⟨h.numbered, h.under, f e, by simp [Workspace.modifyEditor, he], hf e hgood⟩

theorem Underway.orderly (h : Underway holds good w) (hgood : ∀ e, good e → e.Ready) :
    Orderly w := by
  obtain ⟨e, he, hgood'⟩ := h.editor
  refine ⟨fun e' he' => ?_, h.numbered⟩
  obtain rfl := Option.some.inj (he.symm.trans he')
  exact hgood e hgood'

theorem Tends.lasting_underway (h : Tends act) (hheld : (.editor, .exclusive) ∈ holds)
    (hgood : ∀ e, good e → e.Ready) : Lasting act (fun _ => True) (Underway holds good) where
  passing := fun hw hpassing => hw.apart hpassing.apart
  gives := fun _ _ _ _ _ _ => trivial
  acts := by
    intro w c hw _
    obtain ⟨e, he, hgood'⟩ := hw.editor
    have hkept := h holds (some e) c w ⟨hw.orderly hgood, hw.under, fun _ => he⟩
    exact ⟨hkept.numbered, hkept.under, e, hkept.editor hheld, hgood'⟩

/-! ## Steps of the editor -/

theorem Underway.attachToolbar (h : Underway holds good w) (e : Editor) {attached : Bool}
    (hgood : ∀ e, good e → good' { e with toolbar := { e.toolbar with attached } }) :
    Underway holds good' (w.attachToolbar e attached) :=
  (h.apart (passing_interfaceNote e.frontend (.attached attached) w).apart).modifyEditor hgood

/-- A step of the lifecycle that is allowed in the state that the editor has. -/
theorem triple_advance_of_state {E : EditorError → Workspace → Prop} {action : EditorAction}
    {s state : EditorState} (hnext : s.next? action = some state)
    (hstate : ∀ e, good e → e.state = s) (hgood : ∀ e, good e → good' { e with state }) :
    Triple (Underway holds good) (advance action) (fun _ => Underway holds good') E := by
  intro w hw
  obtain ⟨e, he, hthis⟩ := hw.editor
  rw [result_advance_of_legal he (by rw [hstate e hthis]; exact hnext)]
  exact hw.modifyEditor hgood

theorem underway_detachRelays (h : Underway holds good w)
    (hgood : ∀ e, good e → good' e.silent) : Underway holds good' w.detachRelays := by
  obtain ⟨e, he, hthis⟩ := h.editor
  obtain ⟨undoManagers, heq⟩ := detachRelays_eq he
  have hrelay : Apart w (w.withoutRelay e) := by
    unfold withoutRelay
    split
    · exact apart_unwinding.unsubscribe w _ _
    · exact .refl w
  have hmanaged : Apart (w.withoutRelay e) { w.withoutRelay e with undoManagers } :=
    apart_of_same rfl rfl rfl rfl
  rw [heq]
  exact (h.apart (hrelay.trans hmanaged)).modifyEditor hgood

/-- What the editor loses when its session is taken away. -/
theorem underway_abandonSession (h : Underway holds good w) (hnone : ∀ e, good e →
    good' { e with session := none }) : Underway holds good' w.abandonSession := by
  obtain ⟨e, he, hthis⟩ := h.editor
  unfold abandonSession
  rw [he, Option.bind_some]
  cases hsession : e.session with
  | none =>
      have hsame : { e with session := none } = e := by rw [← hsession]
      exact ⟨h.numbered, h.under, e, he, hsame ▸ hnone e hthis⟩
  | some id =>
      have hdropped : Apart w (w.dropSession id) := apart_of_same rfl rfl rfl rfl
      exact (h.apart hdropped).modifyEditor hnone

end Underway

end Workspace

end Coedit
