import Coedit.Proofs.Editor.Introduction

/-!
# The editor and the engine agree about the local member

The editor keeps the details of its member, and so does the engine, in the member's record. While a
document is open the two agree, but for what is still queued: opening a document introduces the
member, and so does a change of the details, and until the document is closed nobody else touches
the record. This is so at every moment of a run, while observers give commands as well.
-/

namespace Coedit

namespace Editor

/-- The editor has introduced its member: it is editing, or already relays the metadata of the
document that it is loading. -/
def Introduced (e : Editor) : Prop :=
  e.state = .editing ∨ e.state = .loading ∧ e.metadataSubscription.isSome = true

structure Arriving (e cur : Editor) : Prop where
  state : cur.state = .loading
  user : cur.user = e.user
  metadata : cur.metadataSubscription = none

structure Arrived (e : Editor) : Prop where
  state : e.state = .loading
  metadata : e.metadataSubscription.isSome = true

theorem Arriving.not_introduced {e cur : Editor} (h : Arriving e cur) : ¬ cur.Introduced := by
  rintro (hediting | ⟨-, hmetadata⟩)
  · rw [h.state] at hediting
    cases hediting
  · rw [h.metadata] at hmetadata
    cases hmetadata

theorem not_introduced_of_state {s : EditorState} {e : Editor} (h : e.state = s)
    (hediting : s ≠ .editing) (hloading : s ≠ .loading) : ¬ e.Introduced := by
  rintro (hs | ⟨hs, -⟩)
  · exact hediting (h.symm.trans hs)
  · exact hloading (h.symm.trans hs)

end Editor

namespace Workspace

open Attempt (Triple)
open Editor (In Arriving Arrived Introduced)

/-- The editor is for the member, has a session of the member's while it is editing, and when it has
introduced the member, what it said is in the engine or on its way. It is loading only while a
command holds it. -/
structure Presents (m : MemberId) (w : Workspace) (e : Editor) : Prop where
  member : e.member = m
  filled : e.user.Filled
  held : e.state = .loading → (.editor, .exclusive) ∈ w.holds
  session : ∀ id, e.session = some id →
    ∃ s, w.sessions.get? id = some s ∧ s.core.member = m
  equipped : e.state = .editing → e.session.isSome = true
  record : e.Introduced → Enrolled m e.user w.engine

/-- The sessions `known` are the member's, whoever has them. -/
structure Agreed (m : MemberId) (known : List Nat) (w : Workspace) : Prop where
  operations : w.refusals.operations = []
  numbered : SessionsNumbered w
  known : ∀ id ∈ known, ∃ s, w.sessions.get? id = some s ∧ s.core.member = m
  gives : Agenda.ObserversGive (fun c => c.sparesRecord m = true) w
  editor : ∀ e, w.editor = some e → Presents m w e

def Agrees (m : MemberId) (act : Conduct) : Prop :=
  ∀ known c w, c.sparesRecord m = true → Orderly w → Agreed m known w →
    Agreed m known (act c w).2

section Agreed

variable {m : MemberId} {known : List Nat} {w w' : Workspace} {e e' : Editor}
  {holds : List (Place × Access)}
  {held : Option Editor} {good good' : Editor → Prop} {act : Conduct} {α : Type}

/-! ## Agreement -/

theorem Presents.congr (h : Presents m w e) (hholds : w'.holds = w.holds)
    (hsessions : w'.sessions = w.sessions) (hengine : w'.engine = w.engine) : Presents m w' e where
  member := h.member
  filled := h.filled
  held := by
    rw [hholds]
    exact h.held
  session := by
    rw [hsessions]
    exact h.session
  equipped := h.equipped
  record := by
    rw [hengine]
    exact h.record

theorem Agreed.harmless (h : Agreed m known w) (hw : Harmless m w w') : Agreed m known w' where
  operations := hw.operations h.operations
  numbered := hw.sessionsNumbered h.numbered
  known := fun id hid => by
    obtain ⟨s, hs, hmember⟩ := h.known id hid
    obtain ⟨s', hs', hsame⟩ := hw.sessions id s (h.numbered id s hs) hs
    exact ⟨s', hs', hsame.trans hmember⟩
  gives := hw.toApart.gives h.gives
  editor := by
    rw [hw.editor]
    intro e he
    have hpresents := h.editor e he
    refine { hpresents with held := ?_, session := fun id hid => ?_, record := fun hin => ?_ }
    · rw [hw.holds]
      exact hpresents.held
    · obtain ⟨s, hs, hmember⟩ := hpresents.session id hid
      obtain ⟨s', hs', hsame⟩ := hw.sessions id s (h.numbered id s hs) hs
      exact ⟨s', hs', hsame.trans hmember⟩
    · exact hw.record e.user (hpresents.record hin)

/-- As long as the member is not introduced, the engine does not matter. -/
theorem Agreed.engine (h : Agreed m known w) (haway : ∀ e, w.editor = some e → ¬ e.Introduced)
    (engine : Engine EngineListener) : Agreed m known { w with engine } where
  operations := h.operations
  numbered := h.numbered
  known := h.known
  gives := h.gives
  editor := fun e he => { h.editor e he with record := fun hin => absurd hin (haway e he) }

theorem Agreed.modifyEditor (h : Agreed m known w) {f : Editor → Editor}
    (hf : ∀ e, w.editor = some e → Presents m w e → Presents m w (f e)) :
    Agreed m known (w.modifyEditor f) where
  operations := h.operations
  numbered := h.numbered
  known := h.known
  gives := h.gives
  editor := by
    intro e' he'
    obtain ⟨e, he, rfl⟩ := Option.map_eq_some_iff.1 he'
    exact (hf e he (h.editor e he)).congr rfl rfl rfl

theorem Agreed.holding (h : Agreed m known w)
    (hheld : ∀ e, w.editor = some e → e.state = .loading → (.editor, .exclusive) ∈ holds) :
    Agreed m known { w with holds } where
  operations := h.operations
  numbered := h.numbered
  known := h.known
  gives := h.gives
  editor := fun e he => { h.editor e he with held := hheld e he }

theorem Agreed.addObserver (h : Agreed m known w) {actions : List Command}
    (hactions : ∀ c ∈ actions, c.sparesRecord m = true) (label : String) (times : Nat) :
    Agreed m known (w.addObserver label actions times) where
  operations := h.operations
  numbered := fun id s hs => Nat.lt_succ_of_lt (h.numbered id s hs)
  known := h.known
  gives := Dict.forall_insert hactions h.gives
  editor := fun e he => (h.editor e he).congr rfl rfl rfl

/-! ## What spares the record -/

/-- `P` abides, and holds on through all that is harmless. -/
structure Sparing (m : MemberId) (act : Conduct) (P : Workspace → Prop) : Prop
    extends Abiding act (fun c => c.sparesRecord m = true) P where
  harmless : ∀ {w w'}, P w → Harmless m w w' → P w'

namespace Sparing

variable {P : Workspace → Prop}

theorem enqueue (h : Sparing m act P) {batch : Batch} (hbatch : batch.all (·.sparesRecord m) = true)
    (hw : P w) : P (w.enqueue act batch).2 := by
  unfold Workspace.enqueue
  cases ht : w.take batch with
  | error cause => exact hw
  | ok w' =>
      obtain ⟨-, rfl⟩ := Agenda.engine_take ht
      exact h.followUp (h.harmless hw (harmless_queued hbatch w))

theorem submit (h : Sparing m act P) {batch : Batch} (hbatch : batch.all (·.sparesRecord m) = true)
    (hw : P w) : P (w.submit act batch).2 := by
  unfold Workspace.submit
  cases ht : w.takeFrom batch with
  | error cause => exact hw
  | ok w' =>
      obtain rfl := takeFrom_eq ht
      exact h.followUp (h.harmless hw (harmless_queued hbatch w))

theorem submitFor (h : Sparing m act P) (id : Nat) {operation : MemberId → Operation}
    (hoperation : ∀ member, (operation member).sparesRecord m = true) (hw : P w) :
    P (w.submitFor act id operation).2 := by
  unfold Workspace.submitFor
  cases w.sessions.get? id with
  | none => exact hw
  | some s => exact h.submit (by simp [hoperation]) hw

theorem edit (h : Sparing m act P) {e : Edit} (he : ∀ properties, e ≠ .updateMember properties)
    (id : Nat) (hw : P w) : P (w.edit act id e).2 :=
  of_edit (h.harmless hw (harmless_queueEdit he id w)) fun _ => h.followUp

end Sparing

structure Tending (m : MemberId) (known : List Nat) (holds : List (Place × Access))
    (held : Option Editor) (w : Workspace) : Prop extends Tended holds held w where
  agreed : Agreed m known w

theorem sparing_tending (h : Tends act) (ha : Agrees m act) (known : List Nat)
    (holds : List (Place × Access)) (held : Option Editor) :
    Sparing m act (Tending m known holds held) where
  stirs := fun hw hstir =>
    ⟨hw.toTended.apart hstir.passing.apart, hw.agreed.harmless hstir.harmless⟩
  gives := fun hw => hw.agreed.gives
  acts := fun hw hc => ⟨h holds held _ _ hw.toTended, ha _ _ _ hc hw.toOrderly hw.agreed⟩
  harmless := fun hw hharmless =>
    ⟨hw.toTended.apart hharmless.toApart, hw.agreed.harmless hharmless⟩

theorem Tending.addObserver (h : Tending m known holds held w) {actions : List Command}
    (hactions : ∀ c ∈ actions, c.sparesRecord m = true) (label : String) (times : Nat) :
    Tending m known holds held (w.addObserver label actions times) :=
  ⟨⟨⟨h.ready, h.numbered⟩, h.under, h.editor⟩, h.agreed.addObserver hactions label times⟩

structure Onward (m : MemberId) (known : List Nat) (holds : List (Place × Access))
    (good : Editor → Prop) (w : Workspace) : Prop extends Underway holds good w where
  agreed : Agreed m known w

theorem sparing_onward (h : Tends act) (ha : Agrees m act) (hheld : (.editor, .exclusive) ∈ holds)
    (hgood : ∀ e, good e → e.Ready) : Sparing m act (Onward m known holds good) where
  stirs := fun hw hstir =>
    ⟨hw.toUnderway.apart hstir.passing.apart, hw.agreed.harmless hstir.harmless⟩
  gives := fun hw => hw.agreed.gives
  acts := fun hw hc => ⟨(h.lasting_underway hheld hgood).acts hw.toUnderway trivial,
    ha _ _ _ hc (hw.toUnderway.orderly hgood) hw.agreed⟩
  harmless := fun hw hharmless =>
    ⟨hw.toUnderway.apart hharmless.toApart, hw.agreed.harmless hharmless⟩

/-! ## Steps of the editor -/

theorem Onward.harmless (h : Onward m known holds good w) (hw : Harmless m w w') :
    Onward m known holds good w' := ⟨h.toUnderway.apart hw.toApart, h.agreed.harmless hw⟩

theorem Onward.mono (h : Onward m known holds good w) (hgood : ∀ e, good e → good' e) :
    Onward m known holds good' w := ⟨h.toUnderway.mono hgood, h.agreed⟩

/-- One more session is known to be the member's. -/
theorem Onward.learn (h : Onward m known holds good w) {id : Nat} {s : Session}
    (hs : w.sessions.get? id = some s) (hmember : s.core.member = m) :
    Onward m (id :: known) holds good w :=
  ⟨h.toUnderway, { h.agreed with
    known := List.forall_mem_cons.2 ⟨⟨s, hs, hmember⟩, h.agreed.known⟩ }⟩

theorem Onward.forget {id : Nat} (h : Onward m (id :: known) holds good w) :
    Onward m known holds good w :=
  ⟨h.toUnderway, { h.agreed with known := (List.forall_mem_cons.1 h.agreed.known).2 }⟩

theorem Onward.good_of_editor (h : Onward m known holds good w) (he : w.editor = some e) :
    good e := by
  obtain ⟨e', he', hgood⟩ := h.editor
  obtain rfl := Option.some.inj (he.symm.trans he')
  exact hgood

theorem Onward.engine (h : Onward m known holds good w) (haway : ∀ e, good e → ¬ e.Introduced)
    {engine : Engine EngineListener} (hbus : engine.bus = w.engine.bus) :
    Onward m known holds good { w with engine } :=
  ⟨h.toUnderway.apart (Passing.apart (passing_engine hbus)),
    h.agreed.engine (fun _ he => haway _ (h.good_of_editor he)) engine⟩

/-- The editor changes, in a way in which it presents its member if it did so before. -/
theorem Onward.modifyEditor (h : Onward m known holds good w) {f : Editor → Editor}
    (hf : ∀ e, good e → good' (f e))
    (hpresents : ∀ w e, good e → Presents m w e → Presents m w (f e)) :
    Onward m known holds good' (w.modifyEditor f) :=
  ⟨h.toUnderway.modifyEditor hf,
    h.agreed.modifyEditor fun e he => hpresents w e (h.good_of_editor he)⟩

theorem Onward.attachToolbar (h : Onward m known holds good w) (e : Editor) (attached : Bool)
    (hgood : ∀ e, good e → good { e with toolbar := { e.toolbar with attached } }) :
    Onward m known holds good (w.attachToolbar e attached) :=
  (h.harmless (harmless_interfaceNote e.frontend (.attached attached) w)).modifyEditor hgood
    fun _ _ _ hp => { hp with }

/-- A step of the lifecycle to a state in which there is nothing to be presented. -/
theorem triple_advance_away {E : EditorError → Workspace → Prop} {action : EditorAction}
    {s state : EditorState} (hnext : s.next? action = some state)
    (hediting : state ≠ .editing) (hloading : state ≠ .loading)
    (hstate : ∀ e, good e → e.state = s) :
    Triple (Onward m known holds good) (advance action)
      (fun _ => Onward m known holds (In state)) E := by
  intro w hw
  obtain ⟨e, he, hthis⟩ := hw.editor
  rw [result_advance_of_legal he (by rw [hstate e hthis]; exact hnext)]
  exact hw.modifyEditor (fun _ _ => rfl) fun _ _ _ hp => { hp with
    held := fun h => absurd h hloading
    equipped := fun h => absurd h hediting
    record := fun h => absurd h (Editor.not_introduced_of_state rfl hediting hloading) }

/-- Closing the engine is none of the member's business when it was not introduced. -/
theorem Onward.closeEngine (hsparing : Sparing m act (Onward m known holds good))
    (haway : ∀ e, good e → ¬ e.Introduced) (hw : Onward m known holds good w) :
    Onward m known holds good (w.closeEngine act).2 := by
  unfold Workspace.closeEngine
  split
  · exact (hsparing.flush hw).engine haway (passing_finishClose _).bus
  · exact hw

theorem Onward.detachRelays (h : Onward m known holds good w)
    (hgood : ∀ e, good e → good' e.silent) : Onward m known holds good' w.detachRelays := by
  refine ⟨underway_detachRelays h.toUnderway hgood, ?_⟩
  obtain ⟨e, he, -⟩ := h.editor
  obtain ⟨undoManagers, heq⟩ := detachRelays_eq he
  have hrelay : Harmless m w (w.withoutRelay e) := by
    unfold withoutRelay
    split
    · exact harmless_unwinding.unsubscribe w _ _
    · exact .refl w
  have hmanaged : Harmless m (w.withoutRelay e) { w.withoutRelay e with undoManagers } :=
    harmless_of_same (apart_of_same rfl rfl rfl rfl) rfl rfl rfl rfl rfl rfl
  rw [heq]
  refine (h.agreed.harmless (hrelay.trans hmanaged)).modifyEditor fun _ _ hp => { hp with
    record := ?_ }
  rintro (hediting | ⟨-, hmetadata⟩)
  · exact hp.record (.inl hediting)
  · cases hmetadata

/-! ## Opening a document -/

theorem takeFrom_of_opened (hoperations : w.refusals.operations = [])
    (hopened : w.engine.phase = .opened) (batch : Batch) :
    w.takeFrom batch = .ok { w with engine := Agenda.queued w.engine batch } := by
  have hnone : w.refused? batch = none := by
    unfold refused?
    rw [hoperations]
    exact List.find?_eq_none.2 fun _ _ => by simp
  unfold takeFrom
  rw [hnone]
  simp only [take, Engine.accept, hopened, Agenda.queued]

/-- The member is being introduced: the editor relays the metadata already, and will submit what it
says about the member next. -/
def AboutToIntroduce (m : MemberId) (known : List Nat) (holds : List (Place × Access)) (e : Editor)
    (relay : Nat) (w : Workspace) : Prop :=
  ∃ w₀, w = w₀.modifyEditor (fun e => { e with metadataSubscription := some relay }) ∧
    Onward m known holds (Arriving e) w₀ ∧ w₀.engine.phase = .opened

theorem triple_introduce (h : Tends act) (ha : Agrees m act)
    (hheld : (.editor, .exclusive) ∈ holds) (hmember : e.member = m) (relay : Nat) :
    Triple (AboutToIntroduce m known holds e relay)
      (byEngine (submit act [.addMember e.member e.user]))
      (fun _ => Onward m known holds Arrived) (fun _ => Onward m known holds (In .loading)) := by
  rintro w ⟨w₀, rfl, hw, hopened⟩
  have hsparing : Sparing m act (Onward m known holds Arrived) :=
    sparing_onward h ha hheld fun _ harrived => In.ready harrived.state rfl
  let f : Editor → Editor := fun e => { e with metadataSubscription := some relay }
  let engine := Agenda.queued w₀.engine [.addMember e.member e.user]
  have htake : (w₀.modifyEditor f).takeFrom [.addMember e.member e.user] =
      .ok { w₀.modifyEditor f with engine } :=
    takeFrom_of_opened (w := w₀.modifyEditor f) hw.agreed.operations hopened _
  have hunderway : Underway holds Arrived { w₀.modifyEditor f with engine } :=
    (hw.toUnderway.modifyEditor (f := f) fun cur hcur => ⟨hcur.state, rfl⟩).apart
      (Passing.apart (passing_engine rfl))
  have hagreed : Agreed m known { w₀.modifyEditor f with engine } := by
    refine ⟨hw.agreed.operations, hw.agreed.numbered, hw.agreed.known, hw.agreed.gives,
      fun e' he' => ?_⟩
    obtain ⟨cur, hcur, rfl⟩ := Option.map_eq_some_iff.1 he'
    have hgood := hw.good_of_editor hcur
    refine { hw.agreed.editor cur hcur with record := fun _ => ?_ }
    show Enrolled m cur.user (Agenda.queued w₀.engine [.addMember e.member e.user])
    rw [hmember, ← hgood.user]
    exact enrolled_queued hopened
  have hdone := hsparing.followUp (w := { w₀.modifyEditor f with engine }) ⟨hunderway, hagreed⟩
  unfold byEngine submit
  rw [Attempt.result_of]
  simp only
  rw [htake]
  exact hdone

theorem triple_enterDocument_agreed (h : Tends act) (ha : Agrees m act)
    (hheld : (.editor, .exclusive) ∈ holds) (hmember : e.member = m) (session : Nat) :
    Triple (fun w => Onward m known holds (Arriving e) w ∧ w.engine.phase = .opened)
      (enterDocument act e session)
      (fun _ => Onward m known holds Arrived) (fun _ => Onward m known holds (In .loading)) := by
  have hsparing : Sparing m act (Onward m known holds Arrived) :=
    sparing_onward h ha hheld fun _ harrived => In.ready harrived.state rfl
  have hloading : ∀ w, Onward m known holds Arrived w → Onward m known holds (In .loading) w :=
    fun _ hw => hw.mono fun _ harrived => harrived.state
  have hsubscribed := triple_byEngine_of_lasting
    (f := subscribe .metadataChanged (.metadataRelay e.id)) fun w
    (hw : Onward m known holds (Arriving e) w ∧ w.engine.phase = .opened) =>
    have hharmless := (harmless_handling (m := m)).subscribe .metadataChanged (.metadataRelay e.id) w
    ⟨hw.1.harmless hharmless, hharmless.opened hw.2⟩
  have hcursor : Triple (Onward m known holds Arrived) (byEngine (insertCursor act session))
      (fun _ => Onward m known holds Arrived) (fun _ => Onward m known holds Arrived) :=
    triple_byEngine_of_lasting fun w hw => hsparing.submitFor session (fun _ => rfl) hw
  exact enterDocument_rule (B := AboutToIntroduce m known holds e)
    (hsubscribed.mono (fun _ hw => hw) (fun _ _ hw => hw)
      fun _ _ hw => hw.1.mono fun _ hcur => hcur.state)
    (fun _ w hw => ⟨w, rfl, hw⟩) (triple_introduce h ha hheld hmember)
    (fun _ w hw => hw.attachToolbar e true fun _ harrived =>
      ⟨harrived.state, harrived.metadata⟩)
    (fun _ => hcursor.mono (fun _ hw => hw) (fun _ _ hw => hw) fun _ => hloading)
    fun _ w hw => hw.harmless (harmless_handling.setEditing session true w)

theorem triple_startUndo_agreed (e cur : Editor) (session : Nat) :
    Triple (fun w => Onward m known holds (Arriving e) w ∧ w.engine.phase = .opened)
      (startUndo cur session)
      (fun _ w => Onward m known holds (Arriving e) w ∧ w.engine.phase = .opened)
      (fun _ => Onward m known holds (In .loading)) := by
  let ready : Workspace → Prop := fun w =>
    Onward m known holds (Arriving e) w ∧ w.engine.phase = .opened
  have hkeeps {w w' : Workspace} (hw : ready w) (hharmless : Harmless m w w') : ready w' :=
    ⟨hw.1.harmless hharmless, hharmless.opened hw.2⟩
  refine startUndo_rule (A := ready) (B := fun _ => ready) (C := fun _ => ready)
    (fun w hw => hkeeps hw (harmless_interfaceNote cur.frontend .undoManager w))
    (fun w hw => hkeeps hw (harmless_createUndoManager w)) (fun manager => ?_) fun manager w hw => ?_
  · have hset := triple_byEngine_of_lasting (f := setUndoManager session manager)
      fun w (hw : ready w) => hkeeps hw (harmless_handling.setUndoManager session manager w)
    exact hset.mono (fun _ hw => hw) (fun _ _ hw => hw)
      fun _ _ hw => hw.1.mono fun _ hcur => hcur.state
  · obtain hsame | ⟨manager', subscription, hrelayed⟩ := relayModified_cases cur manager w
    · rw [hsame]
      exact hw
    · rw [hrelayed]
      have hmanaged : Harmless m w
          { w with undoManagers := w.undoManagers.insert manager manager' } :=
        harmless_of_same (apart_of_same rfl rfl rfl rfl) rfl rfl rfl rfl rfl rfl
      have hready := hkeeps hw hmanaged
      exact ⟨hready.1.modifyEditor (fun _ hcur => ⟨hcur.state, hcur.user, hcur.metadata⟩)
        fun _ _ _ hp => { hp with }, hready.2⟩

theorem triple_startSession_agreed (h : Tends act) (ha : Agrees m act)
    (hheld : (.editor, .exclusive) ∈ holds) (hmember : e.member = m) :
    Triple (fun w => Onward m known holds (Arriving e) w ∧ w.engine.phase = .opened)
      (startSession act e)
      (fun _ => Onward m known holds fun cur => Arrived cur ∧ cur.session.isSome = true)
      (fun _ => Onward m known holds (In .loading)) := by
  refine startSession_rule
    (A := fun id w => Onward m (id :: known) holds (Arriving e) w ∧ w.engine.phase = .opened)
    (B := fun id => Onward m (id :: known) holds Arrived)
    (F := fun id _ => Onward m (id :: known) holds (In .loading)) (fun w hw => ?_)
    (fun id => equipSession_rule (fun _ => triple_startUndo_agreed e e id) (fun _ _ hw => hw)
      (triple_enterDocument_agreed h ha hheld hmember id))
    (fun id _ w hw => hw.forget.harmless (harmless_unwinding.dropSession id w)) fun id w hw => ?_
  · obtain ⟨hharmless, hmade⟩ := harmless_createSession (m := m)
      { member := e.member, fontsCss := e.fontsCss, frontend := e.frontend } e.options.features w
    have hkept := hw.1.harmless hharmless
    rw [result_bySession]
    cases hr : createSession { member := e.member, fontsCss := e.fontsCss, frontend := e.frontend }
        e.options.features w with
    | mk answer w' =>
        rw [hr] at hharmless hkept
        cases answer with
        | error cause => exact hkept.mono fun _ hcur => hcur.state
        | ok id =>
            obtain ⟨s, hs, hsame⟩ := hmade id w' hr
            exact ⟨hkept.learn hs (hsame.trans hmember), hharmless.opened hw.2⟩
  · have hjoined : Onward m (id :: known) holds (fun cur => Arrived cur ∧ cur.session.isSome = true)
        (w.modifyEditor fun e => { e with session := some id }) :=
      ⟨hw.toUnderway.modifyEditor fun cur hcur => ⟨⟨hcur.state, hcur.metadata⟩, rfl⟩,
        hw.agreed.modifyEditor fun _ _ hp => { hp with
          session := fun id' hid' => ?_
          equipped := fun _ => rfl }⟩
    · exact hjoined.forget
    · obtain rfl := Option.some.inj hid'
      exact hw.agreed.known id List.mem_cons_self

/-- An opening that is given up leaves nothing to be presented. -/
theorem Onward.abandonOpening (h : Tends act) (ha : Agrees m act)
    (hheld : (.editor, .exclusive) ∈ holds) (hw : Onward m known holds (In .loading) w) :
    Onward m known holds (In .loading) (w.abandonOpening act) := by
  let away : Editor → Prop := fun e => e.state = .loading ∧ e.metadataSubscription = none
  have hsilent : Onward m known holds away w.detachRelays := hw.detachRelays fun _ hcur => ⟨hcur, rfl⟩
  have habandoned : Onward m known holds away w.detachRelays.abandonSession := by
    unfold abandonSession
    split
    · exact hsilent
    · refine (hsilent.harmless (harmless_unwinding.dropSession _ _)).modifyEditor
        (fun _ hcur => hcur) fun _ e hcur hp => { hp with
          session := fun _ hid => by cases hid
          equipped := fun hediting => ?_ }
      rw [hcur.1] at hediting
      cases hediting
  have haway : ∀ e, away e → ¬ e.Introduced := by
    rintro e ⟨hstate, hnone⟩ (hediting | ⟨-, hmetadata⟩)
    · rw [hstate] at hediting
      cases hediting
    · rw [hnone] at hmetadata
      cases hmetadata
  have hsparing : Sparing m act (Onward m known holds away) :=
    sparing_onward h ha hheld fun _ hcur => In.ready hcur.1 rfl
  exact (Onward.closeEngine hsparing haway habandoned).mono fun _ hcur => hcur.1

/-- The editor is editing or closed, and agrees with the engine. -/
theorem triple_openDocument_agreed (known : List Nat) (h : Tends act) (ha : Agrees m act)
    (hheld : (.editor, .exclusive) ∈ holds) (hmember : e.member = m) (hbare : e.Bare)
    (hnext : e.state.next? .open = some .loading) (files : FileTree) (url : String) :
    Triple (Onward m known holds fun cur => cur = e) (openDocument act files e url)
      (fun _ => Onward m known holds (In .editing))
      (fun _ => Onward m known holds (In .closed)) := by
  have hfailed : Triple (Onward m known holds (In .loading)) (advance .loadFailed)
      (fun _ => Onward m known holds (In .closed)) (fun _ => Onward m known holds (In .closed)) :=
    triple_advance_away rfl (by decide) (by decide) fun _ hcur => hcur
  have hbegin : Triple (Onward m known holds fun cur => cur = e) (advance .open)
      (fun _ => Onward m known holds (Arriving e))
      (fun _ => Onward m known holds (In .closed)) := by
    intro w hw
    obtain ⟨cur, hcur, rfl⟩ := hw.editor
    rw [result_advance_of_legal hcur hnext]
    refine ⟨hw.toUnderway.modifyEditor fun _ hsame => ?_, hw.agreed.modifyEditor
      fun e' he' hp => { hp with held := fun _ => ?_, equipped := nofun, record := ?_ }⟩
    · subst hsame
      exact ⟨rfl, rfl, hbare.metadata⟩
    · rw [hw.under]
      exact hheld
    · obtain rfl := Option.some.inj (hcur.symm.trans he')
      have harriving : Arriving cur { cur with state := .loading } := ⟨rfl, rfl, hbare.metadata⟩
      exact fun hin => absurd hin harriving.not_introduced
  have hload : Triple (Onward m known holds (Arriving e)) (byEngine (loadDocument files url))
      (fun _ w => Onward m known holds (Arriving e) w ∧ w.engine.phase = .opened)
      (fun _ => Onward m known holds (In .loading)) := by
    intro w hw
    rw [result_byEngine]
    unfold loadDocument Engine.load
    cases w.engine.find files url with
    | error cause => exact hw.mono fun _ hcur => hcur.state
    | ok document => exact ⟨hw.engine (fun _ hcur => hcur.not_introduced) rfl, rfl⟩
  have hready : Triple
      (Onward m known holds fun cur => Arrived cur ∧ cur.session.isSome = true) (advance .ready)
      (fun _ => Onward m known holds (In .editing))
      (fun _ => Onward m known holds (In .closed)) := by
    intro w hw
    obtain ⟨cur, hcur, harrived, -⟩ := hw.editor
    rw [result_advance_of_legal hcur (by rw [harrived.state]; rfl)]
    exact hw.modifyEditor (fun _ _ => rfl) fun _ _ harrived hp => { hp with
      held := nofun
      equipped := fun _ => harrived.2
      record := fun _ => hp.record (.inr ⟨harrived.1.state, harrived.1.metadata⟩) }
  exact openDocument_rule hbegin hload (triple_startSession_agreed h ha hheld hmember)
    (fun w hw => hw.abandonOpening h ha hheld) (fun _ => hfailed) hready

end Agreed

end Workspace

end Coedit
