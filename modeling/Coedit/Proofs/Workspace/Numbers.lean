import Coedit.Proofs.Editor.Holding

/-!
# Numbers are given out once

Sessions, editors and observers are numbered as they come, and subscriptions name those who listen
by their numbers. Whatever commands are given, by whom and however deep they nest, all who are there
and all whom subscriptions name have numbers that were given out before. So the next number is
nobody's, and whoever gets it inherits no subscription.
-/

namespace Coedit

def EngineListener.number : EngineListener → Nat
  | session id | undoManager id | metadataRelay id | observer id => id

def Attempt.Preserves {ε α : Type} (P : Workspace → Prop) (a : Attempt ε α) : Prop :=
  Triple P a (fun _ => P) (fun _ => P)

namespace Workspace

open Attempt (Preserves)

/-- All who are there, and all whom subscriptions name, have numbers that were given out. -/
structure Issued (w : Workspace) : Prop where
  engine : ∀ sub ∈ w.engine.bus.subscriptions, sub.handler.number < w.nextId
  sessions : ∀ id s, w.sessions.get? id = some s →
    id < w.nextId ∧ ∀ sub ∈ s.bus.subscriptions, sub.handler < w.nextId
  editor : ∀ e, w.editor = some e →
    e.id < w.nextId ∧ ∀ sub ∈ e.bus.subscriptions, sub.handler < w.nextId
  observers : ∀ id o, w.observers.get? id = some o → id < w.nextId

/-- The numbers below `first` are among those that were given out, and stay so. -/
structure IssuedFrom (first : Nat) (w : Workspace) : Prop extends Issued w where
  first : first ≤ w.nextId

variable {first : Nat} {w w' w'' : Workspace}

/-! ## What brings nobody -/

structure Fewer (w w' : Workspace) : Prop where
  nextId : w'.nextId = w.nextId
  engine : w'.engine.bus.subscriptions ⊆ w.engine.bus.subscriptions
  sessions : ∀ id s', w'.sessions.get? id = some s' →
    ∃ s, w.sessions.get? id = some s ∧ s'.bus.subscriptions ⊆ s.bus.subscriptions
  editor : ∀ e', w'.editor = some e' →
    ∃ e, w.editor = some e ∧ e'.id = e.id ∧ e'.bus.subscriptions ⊆ e.bus.subscriptions
  observers : ∀ id o', w'.observers.get? id = some o' → ∃ o, w.observers.get? id = some o

theorem IssuedFrom.fewer (h : IssuedFrom first w) (hf : Fewer w w') : IssuedFrom first w' where
  engine := by
    rw [hf.nextId]
    exact fun sub hsub => h.engine sub (hf.engine hsub)
  sessions := by
    rw [hf.nextId]
    intro id s' hs'
    obtain ⟨s, hs, hsubs⟩ := hf.sessions id s' hs'
    exact ⟨(h.sessions id s hs).1, fun sub hsub => (h.sessions id s hs).2 sub (hsubs hsub)⟩
  editor := by
    rw [hf.nextId]
    intro e' he'
    obtain ⟨e, he, hid, hsubs⟩ := hf.editor e' he'
    rw [hid]
    exact ⟨(h.editor e he).1, fun sub hsub => (h.editor e he).2 sub (hsubs hsub)⟩
  observers := by
    rw [hf.nextId]
    intro id o' ho'
    obtain ⟨o, ho⟩ := hf.observers id o' ho'
    exact h.observers id o ho
  first := by
    rw [hf.nextId]
    exact h.first

theorem Fewer.refl (w : Workspace) : Fewer w w where
  nextId := rfl
  engine := List.Subset.refl _
  sessions := fun _ s hs => ⟨s, hs, List.Subset.refl _⟩
  editor := fun e he => ⟨e, he, rfl, List.Subset.refl _⟩
  observers := fun _ o ho => ⟨o, ho⟩

theorem Fewer.trans (h : Fewer w w') (h' : Fewer w' w'') : Fewer w w'' where
  nextId := h'.nextId.trans h.nextId
  engine := List.Subset.trans h'.engine h.engine
  sessions := by
    intro id s'' hs''
    obtain ⟨s', hs', hsubs'⟩ := h'.sessions id s'' hs''
    obtain ⟨s, hs, hsubs⟩ := h.sessions id s' hs'
    exact ⟨s, hs, List.Subset.trans hsubs' hsubs⟩
  editor := by
    intro e'' he''
    obtain ⟨e', he', hid', hsubs'⟩ := h'.editor e'' he''
    obtain ⟨e, he, hid, hsubs⟩ := h.editor e' he'
    exact ⟨e, he, hid'.trans hid, List.Subset.trans hsubs' hsubs⟩
  observers := by
    intro id o'' ho''
    obtain ⟨o', ho'⟩ := h'.observers id o'' ho''
    exact h.observers id o' ho'

theorem Passing.fewer (h : Passing w w') : Fewer w w' where
  nextId := h.nextId
  engine := by
    rw [h.bus]
    exact List.Subset.refl _
  sessions := by
    intro id s' hs'
    have hbus := h.buses id
    rw [hs'] at hbus
    obtain ⟨s, hs, hsame⟩ := Option.map_eq_some_iff.1 hbus.symm
    exact ⟨s, hs, by rw [hsame]; exact List.Subset.refl _⟩
  editor := by
    rw [h.editor]
    exact fun e he => ⟨e, he, rfl, List.Subset.refl _⟩
  observers := by
    intro id o' ho'
    have hactions := h.actions id
    rw [ho'] at hactions
    obtain ⟨o, ho, -⟩ := Option.map_eq_some_iff.1 hactions.symm
    exact ⟨o, ho⟩

theorem fewer_modifySession {id : Nat} {f : Session → Session}
    (hf : ∀ s, (f s).bus.subscriptions ⊆ s.bus.subscriptions) :
    Fewer w (w.modifySession id f) := by
  refine { Fewer.refl w with sessions := fun other s' hs' => ?_ }
  obtain ⟨s, hs, ⟨-, rfl⟩ | ⟨-, rfl⟩⟩ := Dict.modify_cases hs'
  · exact ⟨s', hs, List.Subset.refl _⟩
  · exact ⟨s, hs, hf s⟩

theorem fewer_modifyEditor {f : Editor → Editor} (hid : ∀ e, (f e).id = e.id)
    (hf : ∀ e, (f e).bus.subscriptions ⊆ e.bus.subscriptions) : Fewer w (w.modifyEditor f) := by
  refine { Fewer.refl w with editor := fun e' he' => ?_ }
  obtain ⟨e, he, rfl⟩ := Option.map_eq_some_iff.1 he'
  exact ⟨e, he, hid e, hf e⟩

theorem fewer_unwinding : Unwinding Fewer where
  refl := .refl
  trans := .trans
  note := fun w frontend note => (passing_interfaceNote frontend note w).fewer
  unsubscribe := fun w _ _ => { Fewer.refl w with engine := List.filter_sublist.subset }
  session := fun hbus _ => fewer_modifySession hbus

/-- An editor that changes without being replaced. -/
theorem fewer_editing {f : Editor → Editor} (hid : ∀ e, (f e).id = e.id)
    (hbus : ∀ e, (f e).bus = e.bus) : Fewer w (w.modifyEditor f) :=
  fewer_modifyEditor hid fun e => by rw [hbus e]; exact List.Subset.refl _

/-! ## What brings somebody -/

theorem IssuedFrom.mono {first' : Nat} (h : IssuedFrom first w) (hfirst : first' ≤ first) :
    IssuedFrom first' w := ⟨h.toIssued, hfirst.trans h.first⟩

/-- Giving out numbers does no harm. -/
theorem IssuedFrom.later (h : IssuedFrom first w) {next : Nat} (hnext : w.nextId ≤ next) :
    IssuedFrom first { w with nextId := next } where
  engine := fun sub hsub => (h.engine sub hsub).trans_le hnext
  sessions := fun id s hs => ⟨(h.sessions id s hs).1.trans_le hnext,
    fun sub hsub => ((h.sessions id s hs).2 sub hsub).trans_le hnext⟩
  editor := fun e he => ⟨(h.editor e he).1.trans_le hnext,
    fun sub hsub => ((h.editor e he).2 sub hsub).trans_le hnext⟩
  observers := fun id o ho => (h.observers id o ho).trans_le hnext
  first := h.first.trans hnext

theorem IssuedFrom.subscribed (h : IssuedFrom first w) (signal : EngineSignal)
    (listener : EngineListener) (hlistener : listener.number < w.nextId) :
    IssuedFrom first { w with engine := Workspace.subscribed w.engine signal listener } := by
  refine { h with engine := fun sub hsub => ?_ }
  rcases List.mem_append.1 hsub with hold | hnew
  · exact h.engine sub hold
  · rw [List.mem_singleton.1 hnew]
    exact hlistener

theorem IssuedFrom.subscribe (h : IssuedFrom first w) (signal : EngineSignal)
    (listener : EngineListener) (hlistener : listener.number < w.nextId) :
    IssuedFrom first (w.subscribe signal listener).2 := by
  obtain ⟨cause, hcause⟩ | hok := subscribe_cases signal listener w
  · rw [hcause]
    exact h
  · rw [hok]
    exact h.subscribed signal listener hlistener

theorem IssuedFrom.addObserver (h : IssuedFrom first w) (label : String) (actions : List Command)
    (times : Nat) : IssuedFrom first (w.addObserver label actions times) := by
  exact { h.later (Nat.le_succ w.nextId) with
    observers := Dict.forall_insert (Nat.lt_succ_self _) fun id o ho =>
      Nat.lt_succ_of_lt (h.observers id o ho) }

theorem IssuedFrom.modifySession (h : IssuedFrom first w) {id : Nat} {f : Session → Session}
    (hf : ∀ s, w.sessions.get? id = some s →
      ∀ sub ∈ (f s).bus.subscriptions, sub.handler < w.nextId) :
    IssuedFrom first (w.modifySession id f) := by
  refine { h with sessions := fun other s' hs' => ?_ }
  obtain ⟨s, hs, ⟨-, rfl⟩ | ⟨rfl, rfl⟩⟩ := Dict.modify_cases hs'
  · exact h.sessions other s' hs
  · exact ⟨(h.sessions id s hs).1, hf s hs⟩

theorem issued_subscribeSession {id : Nat} (made : List (EngineSignal × Nat))
    (signals : List EngineSignal) (h : IssuedFrom first w) (hid : id < w.nextId) :
    IssuedFrom first (subscribeSession id made signals w).2 := by
  induction signals generalizing made w with
  | nil => exact h
  | cons signal rest ih =>
      unfold subscribeSession
      obtain ⟨cause, hcause⟩ | hok := subscribe_cases signal (.session id) w
      · rw [hcause]
        exact h.fewer (fewer_unwinding.unsubscribeAll made w)
      · rw [hok]
        exact ih _ (h.subscribed signal (.session id) hid) hid

theorem issued_createSession (h : IssuedFrom first w) (spec : SessionSpec) (features : FeatureSet) :
    IssuedFrom first (w.createSession spec features).2 := by
  obtain ⟨log, hlog⟩ := interfaceNote_eq spec.frontend (.components spec.member features) w
  have hstart : IssuedFrom (w.nextId + 1) { w with log, nextId := w.nextId + 1 } :=
    { h.later (Nat.le_succ w.nextId) with first := Nat.le_refl _ }
  have hmade := issued_subscribeSession [] relayedSignals hstart (Nat.lt_succ_self w.nextId)
  have hpast : first ≤ w.nextId + 1 := Nat.le_succ_of_le h.first
  unfold createSession
  simp only [hlog]
  cases hs : subscribeSession w.nextId [] relayedSignals { w with log, nextId := w.nextId + 1 } with
  | mk result w' =>
      rw [hs] at hmade
      cases result with
      | error cause => exact hmade.mono hpast
      | ok made =>
          exact { hmade.mono hpast with
            sessions := Dict.forall_insert
              ⟨hmade.first, fun sub hsub => (List.not_mem_nil hsub).elim⟩ hmade.sessions }

theorem issued_setUndoManager (h : IssuedFrom first w) (id : Nat) {manager : Nat}
    (hmanager : manager < w.nextId) : IssuedFrom first (w.setUndoManager id manager).2 := by
  have hdropped := fewer_unwinding.dropUndoSubscription id w
  have hsubscribed := (h.fewer hdropped).subscribe .undoStackChanged
    (.undoManager manager) (by rw [hdropped.nextId]; exact hmanager)
  unfold setUndoManager
  cases hs : (w.dropUndoSubscription id).subscribe .undoStackChanged (.undoManager manager) with
  | mk result w' =>
      rw [hs] at hsubscribed
      cases result with
      | error cause => exact hsubscribed
      | ok subscription =>
          exact hsubscribed.fewer (fewer_unwinding.holding (fun _ => by rfl) fun _ => by rfl)

theorem issued_createUndoManager (h : IssuedFrom first w) :
    IssuedFrom first w.createUndoManager.2 :=
  { h.later (Nat.le_succ w.nextId) with }

theorem issued_createEditor (h : IssuedFrom first w) (spec : EditorSpec) :
    IssuedFrom first (w.createEditor spec) := by
  have hnew {dropped : Workspace} (hdropped : Fewer w dropped) (e : Editor) (hid : e.id = w.nextId)
      (hbus : e.bus.subscriptions = []) (replaced : List Editor) : IssuedFrom first
        { dropped with nextId := w.nextId + 1, replaced, editor := some e } := by
    have hkept := (h.fewer hdropped).later (hdropped.nextId.trans_le (Nat.le_succ w.nextId))
    refine { hkept with editor := fun e' he' => ?_ }
    obtain rfl := Option.some.inj he'
    rw [hid, hbus]
    exact ⟨Nat.lt_succ_self w.nextId, fun sub hsub => (List.not_mem_nil hsub).elim⟩
  unfold createEditor
  cases w.editor.bind (·.session) with
  | none => exact hnew (.refl w) _ rfl rfl _
  | some id => exact hnew (fewer_unwinding.dropSession id w) _ rfl rfl _

theorem issued_newSession (h : IssuedFrom first w) (spec : SessionSpec) :
    IssuedFrom first (w.newSession spec).2 := by
  have hcreated := issued_createSession h spec .all
  unfold newSession
  cases hs : w.createSession spec .all with
  | mk result w' =>
      rw [hs] at hcreated
      cases result with
      | error cause => exact hcreated
      | ok id =>
          simp only
          split
          · unfold installSession
            cases w'.standalone with
            | none => exact { hcreated with }
            | some older => exact { hcreated.fewer (fewer_unwinding.dropSession older w') with }
          · exact hcreated.fewer (fewer_unwinding.dropSession id w')

/-! ## Commands to engines and sessions -/

def Issues (act : Conduct) : Prop :=
  ∀ first c w, IssuedFrom first w → IssuedFrom first (act c w).2

variable {act : Conduct}

theorem Issues.lasting (h : Issues act) (first : Nat) :
    Lasting act (fun _ => True) (IssuedFrom first) where
  passing := fun hw hpassing => hw.fewer hpassing.fewer
  gives := fun _ _ _ _ _ _ => trivial
  acts := fun hw _ => h first _ _ hw

theorem issued_doEngine (h : Issues act) (hw : IssuedFrom first w) (c : EngineCommand) :
    IssuedFrom first (w.doEngine act c).2 := by
  have hlasting := h.lasting first
  cases c with
  | load url =>
      rw [doEngine, reply_snd]
      exact hw.fewer (passing_loadDocument w.files url w).fewer
  | close =>
      rw [doEngine, reply_snd]
      exact hlasting.closeEngine hw
  | flush => exact hlasting.flush hw
  | enqueue batch =>
      rw [doEngine, reply_snd]
      exact hlasting.enqueue batch hw
  | unsubscribe signal id => exact hw.fewer (fewer_unwinding.unsubscribe w signal id)
  | register | failNextClose | setImmediate | takeSubmitted | refuse | ask => exact { hw with }

theorem issued_doSession (h : Issues act) (hw : IssuedFrom first w) (id : Nat)
    (c : SessionCommand) : IssuedFrom first (w.doSession act id c).2 := by
  cases c with
  | unsubscribe signal subscription =>
      exact hw.fewer (fewer_modifySession fun _ => List.filter_sublist.subset)
  | ask query =>
      rw [doSession_ask_snd]
      exact hw
  | edit e =>
      rw [doSession_edit_snd]
      exact (h.lasting first).edit id e hw
  | undo | redo => exact hw

theorem issued_doInput (h : Issues act) (hw : IssuedFrom first w) (id : Nat) (c : InputCommand) :
    IssuedFrom first (w.doInput act id c).2 := by
  cases c with
  | insertCursor =>
      rw [doInput, reply_snd]
      exact (h.lasting first).submitFor id .addCursor hw
  | removeCursor =>
      rw [doInput, reply_snd]
      exact (h.lasting first).submitFor id .removeCursor hw
  | setUndoManager =>
      rw [doInput, reply_snd]
      exact issued_setUndoManager (issued_createUndoManager hw) id (Nat.lt_succ_self w.nextId)
  | startEditing => exact hw.fewer (passing_setEditing id true w).fewer
  | endEditing => exact hw.fewer (passing_setEditing id false w).fewer

theorem issued_watchEngine (hw : IssuedFrom first w) (signal : EngineSignal) (label : String)
    (actions : List Command) (times : Nat) :
    IssuedFrom first (w.watchEngine signal label actions times).2 := by
  unfold watchEngine Engine.subscribe SignalBus.subscribe
  cases w.engine.bus.checkDeclared signal with
  | error cause => exact hw
  | ok _ =>
      exact (hw.addObserver label actions times).subscribed signal
        (.observer w.nextId) (Nat.lt_succ_self w.nextId)

theorem issued_watchSession (hw : IssuedFrom first w) (signal : SessionSignal) (label : String)
    (actions : List Command) (times id : Nat) :
    IssuedFrom first (w.watchSession signal label actions times id).2 := by
  unfold watchSession SignalBus.subscribe
  cases hs : w.sessions.get? id with
  | none => exact hw
  | some s =>
      cases hdeclared : s.bus.checkDeclared signal with
      | error cause =>
          simp only [hdeclared]
          exact hw
      | ok _ =>
          simp only [hdeclared]
          have hmore : IssuedFrom first
              ((w.addObserver label actions times).modifySession id fun old =>
                { old with bus := { s.bus with
                    subscriptions := s.bus.subscriptions ++
                      [{ id := s.bus.nextId, kind := signal, handler := w.nextId }]
                    nextId := s.bus.nextId + 1 } }) := by
            refine (hw.addObserver label actions times).modifySession fun _ _ sub hsub => ?_
            rcases List.mem_append.1 hsub with hold | hnew
            · exact Nat.lt_succ_of_lt ((hw.sessions id s hs).2 sub hold)
            · rw [List.mem_singleton.1 hnew]
              exact Nat.lt_succ_self w.nextId
          exact hmore

theorem issued_holding {place : Place} {access : Access} {job : Workspace → Reply × Workspace}
    (hw : IssuedFrom first w) (hjob : ∀ w', IssuedFrom first w' → w'.editor = w.editor →
      IssuedFrom first (job w').2) : IssuedFrom first (w.holding place access job).2 := by
  unfold holding
  split
  · exact { hjob { w with holds := (place, access) :: w.holds } { hw with } rfl with }
  · exact hw

theorem issued_withSession {access : Access} {job : Nat → Workspace → Reply × Workspace}
    (hw : IssuedFrom first w)
    (hjob : ∀ id w, IssuedFrom first w → IssuedFrom first (job id w).2) :
    IssuedFrom first (w.withSession access job).2 := by
  unfold withSession
  split
  · exact issued_holding hw fun w' hw' _ => hjob _ w' hw'
  · exact issued_holding hw fun w' hw' _ => hw'
  · exact hw

/-! ## Commands to editors -/

theorem preserves_advance (action : EditorAction) :
    Preserves (IssuedFrom first) (advance action) :=
  advance_rule (fun _ _ _ hw _ _ => hw.fewer (fewer_editing (fun _ => rfl) fun _ => rfl))
    fun _ _ hw => hw

theorem preserves_byEngine {α : Type} {f : Workspace → Except EngineError α × Workspace}
    (h : ∀ w, IssuedFrom first w → IssuedFrom first (f w).2) :
    Preserves (IssuedFrom first) (byEngine f) :=
  triple_byEngine_of_lasting h

theorem fewer_attachToolbar (e : Editor) (attached : Bool) (w : Workspace) :
    Fewer w (attachToolbar e attached w) :=
  (passing_interfaceNote e.frontend (.attached attached) w).fewer.trans
    (fewer_editing (fun _ => rfl) fun _ => rfl)

theorem fewer_detachRelays (w : Workspace) : Fewer w w.detachRelays := by
  cases he : w.editor with
  | none =>
      unfold detachRelays
      rw [he]
      exact .refl w
  | some e =>
      obtain ⟨undoManagers, heq⟩ := detachRelays_eq he
      have hrelay : Fewer w (w.withoutRelay e) := by
        unfold withoutRelay
        split
        · exact fewer_unwinding.unsubscribe w _ _
        · exact .refl w
      have hmanaged : Fewer w { w.withoutRelay e with undoManagers } := { hrelay with }
      rw [heq]
      exact hmanaged.trans (fewer_editing (fun _ => rfl) fun _ => rfl)

theorem fewer_abandonSession (w : Workspace) : Fewer w w.abandonSession := by
  unfold abandonSession
  split
  · exact .refl w
  · exact (fewer_unwinding.dropSession _ w).trans (fewer_editing (fun _ => rfl) fun _ => rfl)

theorem issued_relayModified (hw : IssuedFrom first w) (e : Editor) (manager : Nat) :
    IssuedFrom first (w.relayModified e manager) := by
  obtain hsame | ⟨m, subscription, hrelayed⟩ := relayModified_cases e manager w
  · rw [hsame]
    exact hw
  · rw [hrelayed]
    have hmanaged : IssuedFrom first
        { w with undoManagers := w.undoManagers.insert manager m } := { hw with }
    exact hmanaged.fewer (fewer_editing (fun _ => rfl) fun _ => rfl)

theorem preserves_startUndo (e : Editor) (session : Nat) :
    Preserves (IssuedFrom first) (startUndo e session) := by
  exact startUndo_rule (A := IssuedFrom first)
    (B := fun manager w => IssuedFrom first w ∧ manager < w.nextId)
    (fun w hw => hw.fewer (passing_interfaceNote e.frontend .undoManager w).fewer)
    (fun w hw => ⟨issued_createUndoManager hw, Nat.lt_succ_self w.nextId⟩)
    (fun _ => triple_byEngine_upshot fun w hw => issued_setUndoManager hw.1 session hw.2)
    fun manager w hw => issued_relayModified hw e manager

theorem preserves_enterDocument (h : Issues act) {e : Editor} (he : e.id < first) (session : Nat) :
    Preserves (IssuedFrom first) (enterDocument act e session) := by
  have hlasting := h.lasting first
  exact enterDocument_rule
    (preserves_byEngine fun w hw => hw.subscribe .metadataChanged (.metadataRelay e.id)
      (he.trans_le hw.first))
    (fun _ w hw => hw.fewer (fewer_editing (fun _ => rfl) fun _ => rfl))
    (fun _ => preserves_byEngine fun w hw => hlasting.submit _ hw)
    (fun _ w hw => hw.fewer (fewer_attachToolbar e true w))
    (fun _ => preserves_byEngine fun w hw => hlasting.submitFor session .addCursor hw)
    fun _ w hw => hw.fewer (passing_setEditing session true w).fewer

theorem preserves_startSession (h : Issues act) {e : Editor} (he : e.id < first) :
    Preserves (IssuedFrom first) (startSession act e) :=
  startSession_rule (triple_bySession_of_lasting fun _ hw => issued_createSession hw _ _)
    (fun session => equipSession_rule (fun _ => preserves_startUndo e session) (fun _ _ hw => hw)
      (preserves_enterDocument h he session))
    (fun session _ w hw => hw.fewer (fewer_unwinding.dropSession session w))
    fun _ _ hw => hw.fewer (fewer_editing (fun _ => rfl) fun _ => rfl)

theorem preserves_openDocument (h : Issues act) {e : Editor} (he : e.id < first) (files : FileTree)
    (url : String) : Preserves (IssuedFrom first) (openDocument act files e url) := by
  have habandoned : ∀ w, IssuedFrom first w → IssuedFrom first (w.abandonOpening act) :=
    fun w hw => (h.lasting first).closeEngine
      ((hw.fewer (fewer_detachRelays w)).fewer (fewer_abandonSession _))
  exact openDocument_rule (preserves_advance .open)
    (preserves_byEngine fun w hw => hw.fewer (passing_loadDocument files url w).fewer)
    (preserves_startSession h he) habandoned (fun _ => preserves_advance .loadFailed)
    (preserves_advance .ready)

theorem preserves_leaveDocument (h : Issues act) (e : Editor) (session : Nat) :
    Preserves (IssuedFrom first) (leaveDocument act e session) := by
  have hlasting := h.lasting first
  refine leaveDocument_rule (D := IssuedFrom first)
    (preserves_byEngine fun w hw => hlasting.submitFor session .removeCursor hw)
    (preserves_byEngine fun w hw => hlasting.submit _ hw)
    (preserves_byEngine fun w hw => hlasting.closeEngine hw)
    (fun w hw => hw.fewer (fewer_detachRelays w)) fun w hw => ?_
  have hdestroyed := hw.fewer (fewer_unwinding.destroySession session w)
  cases hr : w.destroySession session with
  | mk answer w' =>
      rw [hr] at hdestroyed
      cases answer <;> exact hdestroyed

theorem preserves_closeDocument (h : Issues act) (e : Editor) :
    Preserves (IssuedFrom first) (closeDocument act e) := by
  cases hsession : e.session with
  | none => exact closeDocument_rule_of_none hsession (preserves_advance .close) fun _ hw => hw
  | some id =>
      refine closeDocument_rule (B := IssuedFrom first) (C := IssuedFrom first) hsession
        (preserves_advance .close)
        (fun w hw => hw.fewer (fewer_editing (fun _ => rfl) fun _ => rfl))
        (fun w hw => hw.fewer (passing_setEditing id false w).fewer)
        (fun w hw => hw.fewer (fewer_attachToolbar e false w)) (preserves_leaveDocument h e id)
        (fun cause w hw => ?_) (preserves_advance .closed)
      have hreported := (h.lasting first).report e.id (.unknownError cause.message)
        (hw.fewer (fewer_detachRelays w))
      exact hreported.fewer (fewer_unwinding.dropSession id _)

theorem preserves_destroyEditor (e : Editor) : Preserves (IssuedFrom first) (destroyEditor e) :=
  destroyEditor_rule (preserves_advance .destroy)
    (fun part w hw => hw.fewer (passing_interfaceNote e.frontend (.tornDown part) w).fewer)
    (fun _ hw => hw.fewer (fewer_modifyEditor (fun _ => rfl) fun _ => List.nil_subset _))
    fun _ _ hw => hw

theorem issued_setUser (h : Issues act) (hw : IssuedFrom first w) (e : Editor)
    (user : MemberProperties) : IssuedFrom first ((setUser act e user).result w).2 := by
  have hset : IssuedFrom first (w.modifyEditor fun e => { e with user := user.withDefaults }) :=
    hw.fewer (fewer_editing (fun _ => rfl) fun _ => rfl)
  exact of_setUser hset fun session _ => (h.lasting first).edit session _ hset

theorem issued_doEditor (h : Issues act) {e : Editor} (he : e.id < first)
    (hw : IssuedFrom first w) (c : EditorCommand) : IssuedFrom first (w.doEditor act e c).2 := by
  cases c with
  | «open» url =>
      rw [doEditor, reply_snd]
      exact (preserves_openDocument h he w.files url).result hw
  | close =>
      rw [doEditor, reply_snd]
      exact (preserves_closeDocument h e).result hw
  | destroy =>
      rw [doEditor, reply_snd]
      exact (preserves_destroyEditor e).result hw
  | setUser user =>
      rw [doEditor, reply_snd]
      exact issued_setUser h hw e user
  | status | profile | isModified => exact hw
  | setMetadata set removed =>
      rw [doEditor, reply_snd]
      exact of_setMetadata hw ((h.lasting first).submit _ hw)
  | metadata property =>
      rw [doEditor_metadata_snd]
      exact hw
  | setModified modified =>
      exact of_setModified hw fun id _ => (h.lasting first).setModified id modified hw
  | unsubscribe signal id =>
      exact hw.fewer (fewer_modifyEditor (fun _ => rfl) fun _ => List.filter_sublist.subset)

theorem issued_watchEditor {e : Editor} (he : w.editor = some e) (hw : IssuedFrom first w)
    (signal : EditorSignal) (label : String) (actions : List Command) (times : Nat) :
    IssuedFrom first (w.watchEditor signal label actions times e).2 := by
  unfold watchEditor SignalBus.subscribe
  cases hdeclared : e.bus.checkDeclared signal with
  | error cause => exact hw
  | ok _ =>
      refine { hw.addObserver label actions times with editor := fun e' he' => ?_ }
      obtain ⟨e₀, he₀, rfl⟩ := Option.map_eq_some_iff.1 he'
      obtain rfl : e₀ = e := Option.some.inj (he₀.symm.trans he)
      have hknown := hw.editor e₀ he
      refine ⟨Nat.lt_succ_of_lt hknown.1, fun sub hsub => ?_⟩
      rcases List.mem_append.1 hsub with hold | hnew
      · exact Nat.lt_succ_of_lt (hknown.2 sub hold)
      · rw [List.mem_singleton.1 hnew]
        exact Nat.lt_succ_self w.nextId

/-- A command to the editor is given to one that has a number. -/
theorem issued_withEditor {access : Access} {job : Editor → Workspace → Reply × Workspace}
    (hw : IssuedFrom first w)
    (hjob : ∀ e w first, w.editor = some e → e.id < first → IssuedFrom first w →
      IssuedFrom first (job e w).2) : IssuedFrom first (w.withEditor access job).2 := by
  unfold withEditor
  cases he : w.editor with
  | none => exact hw
  | some e =>
      have hnow : IssuedFrom w.nextId w := ⟨hw.toIssued, Nat.le_refl _⟩
      have hdone : IssuedFrom w.nextId (w.holding .editor access (job e)).2 :=
        issued_holding hnow fun w' hw' heditor =>
          hjob e w' _ (heditor.trans he) (hw.editor e he).1 hw'
      exact hdone.mono hw.first

/-! ## Every command -/

theorem issues_step (h : Issues act) : Issues (step act) := by
  intro first c w hw
  cases c with
  | engine c => exact issued_doEngine h hw c
  | session c => exact issued_withSession hw fun id _ hw => issued_doSession h hw id c
  | input c => exact issued_withSession hw fun id _ hw => issued_doInput h hw id c
  | editor c => exact issued_withEditor hw fun _ _ _ _ he hw => issued_doEditor h he hw c
  | newSession spec => exact issued_newSession hw spec
  | destroySession =>
      unfold step destroyStandalone
      cases w.standalone with
      | none => exact hw
      | some id =>
          refine issued_holding hw fun w hw _ => ?_
          rw [reply_snd]
          have hlet : IssuedFrom first { w with standalone := none } := { hw with }
          exact hlet.fewer (fewer_unwinding.destroySession id _)
  | newEditor spec => exact issued_holding hw fun _ hw _ => issued_createEditor hw spec
  | watchEngine signal label actions times =>
      exact issued_watchEngine hw signal label actions times
  | watchSession signal label actions times =>
      exact issued_withSession hw fun id _ hw =>
        issued_watchSession hw signal label actions times id
  | watchEditor signal label actions times =>
      exact issued_withEditor hw fun _ _ _ he _ hw =>
        issued_watchEditor he hw signal label actions times
  | undecodable => exact hw

theorem issues_perform (depth : Nat) : Issues (perform depth) := by
  induction depth with
  | zero => exact fun _ _ _ hw => hw
  | succ depth ih => exact issues_step ih

theorem issues_conduct : Issues conduct := by
  intro first c w hw
  exact issues_perform (w.potential + c.weight) first c w hw

/-- Whatever a command brings about, all who are there have numbers that were given out. -/
theorem Issued.execute (h : w.Issued) (c : Command) : (w.execute c).2.Issued :=
  (issues_conduct 0 c w ⟨h, Nat.zero_le w.nextId⟩).toIssued

/-- Nobody is there yet. -/
theorem issued_of_empty (hengine : w.engine.bus.subscriptions = []) (hsessions : w.sessions = ∅)
    (heditor : w.editor = none) (hobservers : w.observers = ∅) : w.Issued where
  engine := by
    intro sub hsub
    rw [hengine] at hsub
    cases hsub
  sessions := by
    intro id s hs
    rw [hsessions] at hs
    cases hs
  editor := by
    intro e he
    rw [heditor] at he
    cases he
  observers := by
    intro id o ho
    rw [hobservers] at ho
    cases ho

/-- However a workspace is used, the next number is nobody's. -/
theorem issued_run (files : FileTree) (commands : List Command) :
    (commands.foldl (fun (w : Workspace) c => (w.execute c).2) { files := files }).Issued :=
  List.foldlRecOn (motive := Issued) _ _ (issued_of_empty rfl rfl rfl rfl) fun _ h c _ =>
    h.execute c

end Workspace

end Coedit
