import Coedit.Proofs.Editor.Mirror
import Coedit.Proofs.Workspace.Upshot

/-!
# Upkeep of the news

Whatever is asked of an editor, its session or its engine, unless a document is opened or closed or
the editor destroyed, the editor stays as it is, and its listener hears of its flag what happens to
it.
-/

namespace Coedit

/-- Commands that leave the first subscriber to the editor and its label alone, and subscriptions
that do not call back. -/
def Command.sparesListener (label : String) : Command → Bool
  | .watchEngine _ _ actions _ | .watchSession _ _ actions _ => actions.isEmpty
  | .watchEditor _ other actions _ => actions.isEmpty && other != label
  | .editor (.unsubscribe signal id) => !(signal == .documentModifiedChanged && id == 0)
  | .newEditor _ => false
  | _ => true

namespace Workspace

open Selection (modifications)

section Upkeep

variable {label : String} {w : Workspace} {e : Editor}

/-! ## Sessions and the engine -/

theorem aside_handling (label : String) : Handling (Aside label) where
  toUnwinding := aside_unwinding label
  subscribed := fun _ _ _ => aside_of_same rfl rfl rfl rfl rfl rfl rfl
  installed := fun _ _ => aside_of_same rfl rfl rfl rfl rfl rfl rfl

theorem aside_createSession (spec : SessionSpec) (features : FeatureSet) (w : Workspace) :
    Aside label w (w.createSession spec features).2 :=
  (aside_handling label).createSession
    (fun w => { Aside.refl w with nextId := Nat.le_succ _ })
    (fun _ _ => aside_of_same rfl rfl rfl rfl rfl rfl rfl) spec features w

/-- A new undo manager is not the editor's, and has nobody to tell. -/
theorem mirrors_createUndoManager (h : w.Quiet) : Mirrors label w w.createUndoManager.2 where
  quiet := h
  holds := rfl
  editor := by
    intro e he
    have hold {manager : Nat} (hmanager : e.undoManager = some manager) :
        w.createUndoManager.2.undoManagers.get? manager = w.undoManagers.get? manager := by
      have hne : w.nextId ≠ manager := ((he.managed manager hmanager).1.ne).symm
      simp [createUndoManager, Dict.get?_insert, hne]
    refine ⟨e, { he with
      numbered := fun sub hsub => Nat.lt_succ_of_lt (he.numbered sub hsub)
      told := fun manager m hm htold => ?_
      managed := fun manager hmanager => ?_ }, .refl e, [], (List.append_nil _).symm,
      isModified_of_alike (.refl e) fun manager hmanager => hold hmanager, fun _ => rfl⟩
    · obtain ⟨-, rfl⟩ | ⟨-, hm⟩ := Dict.insert_cases hm
      · exact (List.not_mem_nil htold).elim
      · exact he.told manager m hm htold
    · obtain ⟨hlt, hstate, hrecord, hsubscriptions⟩ := he.managed manager hmanager
      exact ⟨Nat.lt_succ_of_lt hlt, hstate, hrecord, by rw [hold hmanager]; exact hsubscriptions⟩

theorem mirrors_loadDocument (h : w.Quiet) (files : FileTree) (url : String) :
    Mirrors label w (w.loadDocument files url).2 := by
  unfold loadDocument
  split
  · exact mirrors_engine h _
  · exact .refl h

theorem mirrors_doEngine (h : w.Quiet) (c : EngineCommand) :
    Mirrors label w (w.doEngine conduct c).2 := by
  cases c with
  | load url => exact of_reply (mirrors_loadDocument h w.files url)
  | close => exact of_reply (mirrors_closeEngine h)
  | flush => exact mirrors_flush h
  | enqueue batch => exact of_reply ((mirrors_submission label).enqueue h batch)
  | ask query => exact .refl h
  | register | failNextClose | setImmediate | takeSubmitted | unsubscribe =>
      exact mirrors_engine h _
  | refuse signals operations =>
      have haside : Aside label w { w with refusals := { signals, operations } } :=
        aside_of_same rfl rfl rfl rfl rfl rfl rfl
      exact haside.mirrors h

theorem mirrors_modifySession (h : w.Quiet) (id : Nat) (f : Session → Session) :
    Mirrors label w (w.modifySession id f) :=
  (aside_of_same rfl rfl rfl rfl rfl rfl rfl : Aside label w (w.modifySession id f)).mirrors h

theorem mirrors_doSession (h : w.Quiet) (id : Nat) (c : SessionCommand) :
    Mirrors label w (w.doSession conduct id c).2 := by
  cases c with
  | unsubscribe signal subscription => exact mirrors_modifySession h id _
  | ask query =>
      rw [doSession_ask_snd]
      exact .refl h
  | edit e =>
      rw [doSession_edit_snd]
      exact (mirrors_submission label).edit h id e
  | undo | redo => exact .refl h

theorem mirrors_doInput (h : w.Quiet) (id : Nat) (c : InputCommand) :
    Mirrors label w (w.doInput conduct id c).2 := by
  cases c with
  | insertCursor => exact of_reply (mirrors_submitFor h id .addCursor)
  | removeCursor => exact of_reply (mirrors_submitFor h id .removeCursor)
  | setUndoManager =>
      have hcreated : Mirrors label w w.createUndoManager.2 := mirrors_createUndoManager h
      have hset := (aside_handling label).setUndoManager id w.createUndoManager.1
        w.createUndoManager.2
      exact of_reply (hcreated.trans (hset.mirrors hcreated.quiet))
  | startEditing => exact ((aside_handling label).setEditing id true w).mirrors h
  | endEditing => exact ((aside_handling label).setEditing id false w).mirrors h

/-! ## Subscribers -/

theorem aside_addObserver (other : String) (times : Nat) (w : Workspace) :
    Aside label w (w.addObserver other [] times) where
  quiet := fun h => quiet_addObserver h other times
  holds := rfl
  editor := rfl
  reporting := rfl
  nextId := Nat.le_succ _
  labels := by
    intro id hid
    have hne : w.nextId ≠ id := hid.ne'
    simp [label?, addObserver, Dict.get?_insert, hne]
  managers := fun _ => rfl
  noted := rfl

theorem mirrors_watchEngine (h : w.Quiet) (signal : EngineSignal) (other : String) (times : Nat) :
    Mirrors label w (w.watchEngine signal other [] times).2 := by
  unfold watchEngine
  split
  · exact (mirrors_engine h _).trans ((aside_addObserver other times _).mirrors h)
  · exact .refl h

theorem mirrors_watchSession (h : w.Quiet) (signal : SessionSignal) (other : String)
    (times id : Nat) : Mirrors label w (watchSession signal other [] times id w).2 := by
  unfold watchSession
  split
  · exact .refl h
  · split
    · exact (mirrors_modifySession h id _).trans ((aside_addObserver other times _).mirrors h)
    · exact .refl h

/-- An editor that changes, without losing a listener or an undo manager. -/
theorem Attuned.modifyEditor (h : Attuned label e w) {f : Editor → Editor}
    (hid : (f e).id = e.id) (hmanager : (f e).undoManager = e.undoManager)
    (hrecord : (f e).modifiedSubscription = e.modifiedSubscription)
    (hseated : (f e).state = .editing → (f e).session.isSome = true)
    (hbus : (f e).bus.subscriptions ⊆ e.bus.subscriptions)
    (hlistens : (f e).state ≠ .destroyed → e.state ≠ .destroyed ∧
      (f e).bus.subscriptions.filter (watches label w) =
        e.bus.subscriptions.filter (watches label w))
    (hlive : (f e).state = .destroyed → e.undoManager = none) :
    Attuned label (f e) (w.modifyEditor f) where
  editor := by simp [Workspace.modifyEditor, h.editor]
  seated := hseated
  unreported := h.unreported
  numbered := fun sub hsub => h.numbered sub (hbus hsub)
  listens := by
    intro hstate
    obtain ⟨hlive', hsame⟩ := hlistens hstate
    obtain ⟨observer, hobserver⟩ := h.listens hlive'
    exact ⟨observer, hsame.trans hobserver⟩
  told := by
    rw [hid, hmanager]
    exact h.told
  managed := by
    intro manager hown
    rw [hmanager] at hown
    obtain ⟨hlt, -, hold, hsubscriptions⟩ := h.managed manager hown
    refine ⟨hlt, fun hdestroyed => ?_, hrecord.trans hold, by rw [hid]; exact hsubscriptions⟩
    rw [hlive hdestroyed] at hown
    cases hown

/-- Details of the editor, and subscriptions through which the listener does not hear. -/
theorem mirrors_modifyEditor (h : w.Quiet) {f : Editor → Editor}
    (halike : ∀ e : Editor, e.Alike (f e))
    (hrecord : ∀ e, (f e).modifiedSubscription = e.modifiedSubscription)
    (hbus : ∀ e, Attuned label e w → (f e).bus.subscriptions ⊆ e.bus.subscriptions ∧
      (e.state ≠ .destroyed → (f e).bus.subscriptions.filter (watches label w) =
        e.bus.subscriptions.filter (watches label w))) :
    Mirrors label w (w.modifyEditor f) where
  quiet := h
  holds := rfl
  editor := by
    intro e he
    have hstate := (halike e).state
    have hattuned : Attuned label (f e) (w.modifyEditor f) :=
      he.modifyEditor (halike e).id (halike e).undoManager (hrecord e)
        (fun hediting => (halike e).seated.trans (he.seated (hstate.symm.trans hediting)))
        (hbus e he).1
        (fun hlive => have hlive' : e.state ≠ .destroyed := hstate ▸ hlive
          ⟨hlive', (hbus e he).2 hlive'⟩)
        fun hdestroyed => by
          cases hmanager : e.undoManager with
          | none => rfl
          | some manager =>
              exact absurd (hstate.symm.trans hdestroyed) (he.managed manager hmanager).2.1
    exact ⟨f e, hattuned, halike e, [], (List.append_nil _).symm,
      isModified_of_alike (halike e) fun _ _ => rfl, fun _ => rfl⟩

theorem mirrors_detail (h : w.Quiet) {f : Editor → Editor}
    (halike : ∀ e : Editor, e.Alike (f e))
    (hrecord : ∀ e, (f e).modifiedSubscription = e.modifiedSubscription)
    (hbus : ∀ e, (f e).bus = e.bus) : Mirrors label w (w.modifyEditor f) :=
  mirrors_modifyEditor h halike hrecord fun e _ => by
    rw [hbus e]
    exact ⟨List.Subset.refl _, fun _ => rfl⟩

/-- Somebody else may end a subscription. -/
theorem mirrors_unsubscribe (h : w.Quiet) {signal : EditorSignal} {id : Nat}
    (hother : (signal == .documentModifiedChanged && id == 0) = false) :
    Mirrors label w
      (w.modifyEditor fun e => { e with bus := e.bus.unsubscribe signal id }) := by
  refine mirrors_modifyEditor h (fun _ => ⟨rfl, rfl, rfl⟩) (fun _ => rfl) fun e he =>
    ⟨List.filter_sublist.subset, fun hstate => ?_⟩
  obtain ⟨observer, hlistens⟩ := he.listens hstate
  have hcomm : (e.bus.unsubscribe signal id).subscriptions.filter (watches label w) =
      (e.bus.subscriptions.filter (watches label w)).filter
        fun s => !(s.kind == signal && s.id == id) := List.filter_comm _ _ _
  have hkept : (!(EditorSignal.documentModifiedChanged == signal && 0 == id)) = true := by
    rw [Bool.and_eq_false_iff] at hother
    rw [Bool.not_eq_true', Bool.and_eq_false_iff]
    simp only [beq_eq_false_iff_ne] at hother ⊢
    exact hother.imp Ne.symm Ne.symm
  rw [hcomm, hlistens]
  simp only [List.filter_cons, hkept, if_true, List.filter_nil]

/-- Somebody else subscribes to the editor. -/
theorem mirrors_watchEditor (h : w.Quiet) (signal : EditorSignal) {other : String}
    (hother : other ≠ label) (times : Nat) (heditor : w.editor = some e) :
    Mirrors label w (watchEditor signal other [] times e w).2 := by
  unfold watchEditor
  cases hs : e.bus.subscribe signal w.nextId with
  | error cause => exact .refl h
  | ok made =>
      have hsubscriptions : made.2.subscriptions =
          e.bus.subscriptions ++ [⟨e.bus.nextId, signal, w.nextId⟩] := by
        unfold SignalBus.subscribe at hs
        split at hs
        · cases hs
        · obtain rfl := Except.ok.inj hs
          rfl
      have haside (v : Workspace) : Aside label v (v.addObserver other [] times) :=
        aside_addObserver other times v
      refine ⟨quiet_addObserver h other times, rfl, fun e' he => ?_⟩
      obtain rfl := Option.some.inj (heditor.symm.trans he.editor)
      have hstranger : watches label
          ((w.modifyEditor fun e => { e with bus := made.2 }).addObserver other [] times)
          ⟨e.bus.nextId, signal, w.nextId⟩ = false := by
        simp [watches, label?, addObserver, Workspace.modifyEditor, hother]
      have hlabels : ∀ id < w.nextId, label?
          ((w.modifyEditor fun e => { e with bus := made.2 }).addObserver other [] times) id =
            w.label? id := fun id hid => (haside (w.modifyEditor _)).labels id hid
      refine ⟨{ e with bus := made.2 }, ⟨?_, he.seated, he.unreported, fun sub hsub => ?_,
        fun hstate => ?_, he.told, fun manager hmanager => ?_⟩, ⟨rfl, rfl, rfl⟩, [],
        (List.append_nil _).symm, rfl, fun _ => rfl⟩
      · simp [addObserver, Workspace.modifyEditor, heditor]
      · rw [hsubscriptions] at hsub
        rcases List.mem_append.1 hsub with hold | hnew
        · exact Nat.lt_succ_of_lt (he.numbered sub hold)
        · rw [List.mem_singleton.1 hnew]
          exact Nat.lt_succ_self _
      · obtain ⟨observer, hlistens⟩ := he.listens hstate
        refine ⟨observer, ?_⟩
        rw [hsubscriptions, List.filter_append, filter_watches_of_labels he.numbered hlabels,
          hlistens, List.filter_cons_of_neg (by rw [hstranger]; decide)]
        rfl
      · obtain ⟨hlt, hrest⟩ := he.managed manager hmanager
        exact ⟨Nat.lt_succ_of_lt hlt, hrest⟩

/-! ## Commands to the editor -/

theorem mirrors_setUser (h : w.Quiet) (user : MemberProperties) :
    Mirrors label w ((setUser conduct e user).result w).2 := by
  have hset : Mirrors label w
      (w.modifyEditor fun e => { e with user := user.withDefaults }) :=
    mirrors_detail h (fun _ => ⟨rfl, rfl, rfl⟩) (fun _ => rfl) fun _ => rfl
  exact of_setUser hset fun session _ =>
    hset.trans ((mirrors_submission label).edit hset.quiet session _)

def Forbids (e : Editor) (c : EditorCommand) : Prop :=
  ∀ course, c.course? = some course → e.state.next? course.action = none

theorem mirrors_doEditor (h : w.Quiet) (he : w.editor = some e) {c : EditorCommand}
    (hforbids : Forbids e c) (hc : (Command.editor c).sparesListener label = true) :
    Mirrors label w (w.doEditor conduct e c).2 := by
  have hrefused : ∀ course, c.course? = some course → Mirrors label w (w.doEditor conduct e c).2 := by
    intro course hcourse
    rw [doEditor_of_illegal he hcourse (hforbids course hcourse)]
    exact .refl h
  cases c with
  | «open» | close | destroy => exact hrefused _ rfl
  | setUser user => exact of_reply (mirrors_setUser h user)
  | status | profile | isModified => exact .refl h
  | setMetadata set removed =>
      exact of_reply (of_setMetadata (.refl h) ((mirrors_submission label).submit h _))
  | metadata property =>
      rw [doEditor_metadata_snd]
      exact .refl h
  | setModified modified =>
      exact of_setModified (.refl h) fun id _ => mirrors_setModified conduct id modified h
  | unsubscribe signal id =>
      rw [Command.sparesListener, Bool.not_eq_true'] at hc
      exact mirrors_unsubscribe h hc

/-! ## Any command -/

theorem Attuned.holding (h : Attuned label e w) (holds : List (Place × Access)) :
    Attuned label e { w with holds } :=
  h.carried rfl rfl (Nat.le_refl _) (fun _ _ => rfl) fun _ => rfl

theorem mirrors_holding {place : Place} {access : Access} {job : Workspace → Reply × Workspace}
    (h : w.Quiet)
    (hjob : ∀ w', w'.Quiet → w'.editor = w.editor → Mirrors label w' (job w').2) :
    Mirrors label w (w.holding place access job).2 := by
  unfold holding
  split
  · have hdone := hjob { w with holds := (place, access) :: w.holds } h rfl
    refine ⟨hdone.quiet, rfl, fun e he => ?_⟩
    obtain ⟨e', he', halike, news, hnews⟩ := hdone.editor e (he.holding _)
    exact ⟨e', he'.holding w.holds, halike, news, hnews.noted, hnews.swings, hnews.unmanaged⟩
  · exact .refl h

theorem mirrors_withSession {access : Access} {job : Nat → Workspace → Reply × Workspace}
    (h : w.Quiet) (hjob : ∀ id w', Quiet w' → Mirrors label w' (job id w').2) :
    Mirrors label w (w.withSession access job).2 := by
  unfold withSession
  split
  · exact mirrors_holding h fun w' hw' _ => hjob _ w' hw'
  · exact mirrors_holding h fun w' hw' _ => .refl hw'
  · exact .refl h

theorem mirrors_withEditor {access : Access} {job : Editor → Workspace → Reply × Workspace}
    (h : w.Quiet) (hjob : ∀ e w', w.editor = some e → w'.editor = some e → w'.Quiet →
      Mirrors label w' (job e w').2) : Mirrors label w (w.withEditor access job).2 := by
  unfold withEditor
  cases he : w.editor with
  | none => exact .refl h
  | some e => exact mirrors_holding h fun w' hw' heditor => hjob e w' he (heditor.trans he) hw'

theorem mirrors_destroyStandalone (h : w.Quiet) : Mirrors label w w.destroyStandalone.2 := by
  unfold destroyStandalone
  split
  · exact .refl h
  · rename_i id _
    refine mirrors_holding h fun w' hw' _ => of_reply ?_
    have hleft : Aside label w' { w' with standalone := none } :=
      (aside_handling label).installed w' none
    exact (hleft.trans ((aside_unwinding label).destroySession id _)).mirrors hw'

/-- Every command that does not take the editor to another state. -/
theorem mirrors_execute (h : w.Quiet) {c : Command} (hc : c.sparesListener label = true)
    (hforbids : ∀ e c', w.editor = some e → c = .editor c' → Forbids e c') :
    Mirrors label w (w.execute c).2 := by
  rw [execute_eq_step]
  cases c with
  | engine c => exact mirrors_doEngine h c
  | session c => exact mirrors_withSession h fun id w' hw' => mirrors_doSession hw' id c
  | input c => exact mirrors_withSession h fun id w' hw' => mirrors_doInput hw' id c
  | editor c =>
      exact mirrors_withEditor h fun e w' hsame he' hw' =>
        mirrors_doEditor hw' he' (hforbids e c hsame rfl) hc
  | newSession spec =>
      exact ((aside_handling label).newSession (aside_createSession spec .all w)).mirrors h
  | destroySession => exact mirrors_destroyStandalone h
  | newEditor => cases hc
  | watchEngine signal other actions times =>
      obtain rfl := List.isEmpty_iff.1 hc
      exact mirrors_watchEngine h signal other times
  | watchSession signal other actions times =>
      obtain rfl := List.isEmpty_iff.1 hc
      exact mirrors_withSession h fun id w' hw' => mirrors_watchSession hw' signal other times id
  | watchEditor signal other actions times =>
      obtain ⟨hactions, hother⟩ := Bool.and_eq_true_iff.1 hc
      obtain rfl := List.isEmpty_iff.1 hactions
      exact mirrors_withEditor h fun e w' _ he' hw' =>
        mirrors_watchEditor hw' signal (by simpa using hother) times he'
  | undecodable => exact .refl h

end Upkeep

end Workspace

end Coedit
