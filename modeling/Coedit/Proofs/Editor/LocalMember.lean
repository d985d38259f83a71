import Coedit.Proofs.Editor.Agreement

/-!
# The local member's record in every run

Every command keeps the editor and the engine in agreement about the local member, if those do that
it leads to (`agrees_step`). So in every run, whenever the editor is editing and the queue is empty,
the member's record is what the editor knows of its member.
-/

namespace Coedit.Workspace

open Attempt (Triple)
open Editor (In Introduced)

section Commands

variable {m : MemberId} {known : List Nat} {w w' : Workspace} {e : Editor}
  {holds : List (Place × Access)} {held : Option Editor} {act : Conduct}

/-! ## Closing a document -/

theorem not_introduced_of_closing (e : Editor) (h : e.In .closing) : ¬ e.Introduced :=
  Editor.not_introduced_of_state h (by decide) (by decide)

theorem triple_leaveDocument_agreed (h : Tends act) (ha : Agrees m act)
    (hheld : (.editor, .exclusive) ∈ holds) (e : Editor) (session : Nat) :
    Triple (Onward m known holds (In .closing)) (leaveDocument act e session)
      (fun _ => Onward m known holds (In .closing))
      (fun _ => Onward m known holds (In .closing)) := by
  have hsparing : Sparing m act (Onward m known holds (In .closing)) :=
    sparing_onward h ha hheld fun _ hclosing => hclosing.ready rfl
  have hsubmit : ∀ batch w, Onward m known holds (In .closing) w →
      Onward m known holds (In .closing) (w.submit act batch).2 := by
    intro batch w hw
    unfold submit
    cases ht : w.takeFrom batch with
    | error cause => exact hw
    | ok w' =>
        obtain rfl := takeFrom_eq ht
        exact hsparing.followUp (hw.engine not_introduced_of_closing rfl)
  refine leaveDocument_rule (D := Onward m known holds (In .closing))
    (triple_byEngine_of_lasting fun w hw => hsparing.submitFor session (fun _ => rfl) hw)
    (triple_byEngine_of_lasting fun w hw => hsubmit _ w hw)
    (triple_byEngine_of_lasting fun w hw =>
      Onward.closeEngine hsparing not_introduced_of_closing hw)
    (fun w hw => hw.detachRelays fun _ hclosing => hclosing) fun w hw => ?_
  have hdestroyed := hw.harmless (harmless_unwinding.destroySession session w)
  cases hr : w.destroySession session with
  | mk answer w' =>
      rw [hr] at hdestroyed
      cases answer <;> exact hdestroyed

/-- The editor is closed, or stays closing. -/
theorem triple_closeDocument_agreed (known : List Nat) (h : Tends act) (ha : Agrees m act)
    (hheld : (.editor, .exclusive) ∈ holds) (hnext : e.state.next? .close = some .closing) :
    Triple (Onward m known holds fun cur => cur = e) (closeDocument act e)
      (fun _ => Onward m known holds (In .closed))
      (fun _ => Onward m known holds (In .closing)) := by
  have hsparing : Sparing m act (Onward m known holds (In .closing)) :=
    sparing_onward h ha hheld fun _ hclosing => hclosing.ready rfl
  have hclosed : Triple (Onward m known holds (In .closing)) (advance .closed)
      (fun _ => Onward m known holds (In .closed)) (fun _ => Onward m known holds (In .closing)) :=
    triple_advance_away rfl (by decide) (by decide) fun _ hclosing => hclosing
  have hadvance : Triple (Onward m known holds fun cur => cur = e) (advance .close)
      (fun _ => Onward m known holds (In .closing)) (fun _ => Onward m known holds (In .closing)) :=
    triple_advance_away hnext (by decide) (by decide) fun _ hsame => by rw [hsame]
  have hforget (w : Workspace) (hw : Onward m known holds (In .closing) w) :
      Onward m known holds (In .closing) (w.modifyEditor fun e => { e with session := none }) :=
    hw.modifyEditor (fun _ hclosing => hclosing) fun _ cur hclosing hp => { hp with
      session := fun _ hid => by cases hid
      equipped := fun hediting => by cases hclosing.symm.trans hediting }
  cases hsession : e.session with
  | none => exact closeDocument_rule_of_none hsession hadvance fun _ hw => hw
  | some id =>
      refine closeDocument_rule hsession hadvance hforget
        (fun w hw => hw.harmless (harmless_handling.setEditing id false w))
        (fun w hw => hw.attachToolbar e false fun _ hclosing => hclosing)
        (triple_leaveDocument_agreed h ha hheld e id) (fun cause w hw => ?_) hclosed
      have hsilent : Onward m known holds (In .closing) w.detachRelays :=
        hw.detachRelays fun _ hclosing => hclosing
      have hreported := hsparing.report e.id (.unknownError cause.message) hsilent
      exact hreported.harmless (harmless_unwinding.dropSession id _)

/-! ## Destroying the editor, and changing its member's details -/

theorem triple_destroyEditor_agreed (hnext : e.state.next? .destroy = some .destroyed) :
    Triple (Onward m known holds fun cur => cur = e) (destroyEditor e)
      (fun _ => Onward m known holds (In .destroyed))
      (fun _ => Onward m known holds (In .destroyed)) :=
  destroyEditor_rule
    (triple_advance_away hnext (by decide) (by decide) fun _ hsame => by rw [hsame])
    (fun part w hw => hw.harmless (harmless_interfaceNote e.frontend (.tornDown part) w))
    (fun _ hw => hw.modifyEditor (fun _ hgood => hgood) fun _ _ _ hp => { hp with })
    fun _ _ hw => hw

/-- Introducing the editor's member again is an edit that nobody refuses. -/
theorem queueEdit_updateMember (hoperations : w.refusals.operations = [])
    (hopened : w.engine.phase = .opened) {id : Nat} {s : Session}
    (hs : w.sessions.get? id = some s) (properties : MemberProperties) :
    w.queueEdit id (.updateMember properties) = (.ok (.done, true), { w with
      engine := Agenda.queued w.engine [.addMember s.core.member properties] }) := by
  have htake := takeFrom_of_opened hoperations hopened [.addMember s.core.member properties]
  unfold queueEdit
  simp only [hs, SessionCore.propose, List.isEmpty_cons, Bool.false_eq_true, if_false,
    changeReservation]
  rw [htake]

theorem triple_setUser_agreed (known : List Nat) (h : Tends act) (ha : Agrees m act)
    (hheld : (.editor, .exclusive) ∈ holds) (hloading : e.state ≠ .loading) (hready : e.Ready)
    (user : MemberProperties) :
    Triple (Onward m known holds fun cur => cur = e) (setUser act e user)
      (fun _ => Onward m known holds (In e.state))
      (fun _ => Onward m known holds (In e.state)) := by
  let changed : Editor := { e with user := user.withDefaults }
  let now : Editor → Prop := fun cur => cur = changed
  have hnow : ∀ w, Onward m known holds now w → Onward m known holds (In e.state) w :=
    fun w hw => hw.mono fun cur hcur => by rw [hcur]; rfl
  intro w hw
  obtain ⟨cur, hcur, hsame⟩ := hw.editor
  have he : w.editor = some e := hsame ▸ hcur
  have hp := hw.agreed.editor e he
  have hunderway : Underway holds now
      (w.modifyEditor fun e => { e with user := user.withDefaults }) :=
    hw.toUnderway.modifyEditor fun cur hcur => by rw [hcur]
  unfold setUser
  rw [Attempt.result_bind_of_ok (Attempt.result_modify _ w)]
  by_cases hediting : e.state = .editing
  · obtain ⟨id, hid⟩ := Option.isSome_iff_exists.1 (hp.equipped hediting)
    obtain ⟨s, hs, hmember⟩ := hp.session id hid
    have henrolled := hp.record (.inl hediting)
    have hopen : openSession? e = some id := by
      unfold openSession?
      rw [if_pos hediting, hid]
    let engine := Agenda.queued w.engine [.addMember m user.withDefaults]
    have hqueued : Onward m known holds now
        { w.modifyEditor fun e => { e with user := user.withDefaults } with engine } := by
      refine ⟨hunderway.apart (Passing.apart (passing_engine rfl)), hw.agreed.operations,
        hw.agreed.numbered, hw.agreed.known, hw.agreed.gives, fun e' he' => ?_⟩
      obtain ⟨cur, hcur, rfl⟩ := Option.map_eq_some_iff.1 he'
      obtain rfl := Option.some.inj (he.symm.trans hcur)
      exact { hp with
        filled := user.filled_withDefaults
        record := fun _ => enrolled_queued henrolled.opened }
    have hqueue := queueEdit_updateMember
      (w := w.modifyEditor fun e => { e with user := user.withDefaults }) hw.agreed.operations
      henrolled.opened hs user.withDefaults
    have hsparing : Sparing m act (Onward m known holds now) :=
      sparing_onward h ha hheld fun cur hcur => by
        rw [hcur]
        exact hready.congr rfl rfl rfl rfl rfl
    have hdone := hnow _ (hsparing.followUp hqueued)
    rw [hopen]
    simp only [Attempt.result_of, Workspace.edit]
    rw [hqueue, hmember]
    exact hdone
  · have hnone : openSession? e = none := by
      unfold openSession?
      rw [if_neg hediting]
    rw [hnone]
    refine hnow _ ⟨hunderway, hw.agreed.modifyEditor fun cur hcur hp => { hp with
      filled := user.filled_withDefaults
      record := fun hin => ?_ }⟩
    obtain rfl := Option.some.inj (he.symm.trans hcur)
    exact absurd hin (Editor.not_introduced_of_state rfl hediting hloading)

/-! ## Commands that hold the editor for themselves -/

def Returned (m : MemberId) (known : List Nat) (w : Workspace) : Prop :=
  Agreed m known w ∧ ∀ e, w.editor = some e → e.state ≠ .loading

theorem Onward.returned {good : Editor → Prop} (h : Onward m known holds good w)
    (hgood : ∀ e, good e → e.state ≠ .loading) : Returned m known w :=
  ⟨h.agreed, fun e he => hgood e (h.good_of_editor he)⟩

theorem returned_of_state {s : EditorState} (hs : s ≠ .loading)
    (h : Onward m known holds (In s) w) : Returned m known w :=
  h.returned fun _ hstate => by rw [show _ = s from hstate]; exact hs

theorem returned_exclusive (h : Tends act) (ha : Agrees m act) {c : EditorCommand}
    (hc : editorAccess c = .exclusive) (hheld : (.editor, .exclusive) ∈ holds)
    (hw : Tending m known holds (some e) w) (hloading : e.state ≠ .loading) :
    Returned m known (w.doEditor act e c).2 := by
  have he : w.editor = some e := hw.toTended.editor hheld
  have hp := hw.agreed.editor e he
  have hstart : Onward m known holds (fun cur => cur = e) w :=
    ⟨⟨hw.numbered, hw.under, e, he, rfl⟩, hw.agreed⟩
  have hrefused : Returned m known w := hstart.returned fun _ hcur => by rw [hcur]; exact hloading
  cases c with
  | «open» url =>
      rw [doEditor, reply_snd]
      cases hnext : e.state.next? .open with
      | none =>
          rw [result_openDocument_of_illegal he hnext]
          exact hrefused
      | some state =>
          obtain ⟨rfl, -⟩ := state_of_open hnext
          have hopen := triple_openDocument_agreed known h ha hheld hp.member
            (hw.ready e he (canOpen_of_next hnext)) hnext w.files url
          exact (hopen.mono (fun _ hw => hw) (fun _ _ hw => returned_of_state (by decide) hw)
            fun _ _ hw => returned_of_state (by decide) hw).result hstart
  | close =>
      rw [doEditor, reply_snd]
      cases hnext : e.state.next? .close with
      | none =>
          rw [result_closeDocument_of_illegal he hnext]
          exact hrefused
      | some state =>
          obtain ⟨rfl, -⟩ := state_of_close hnext
          have hclose := triple_closeDocument_agreed known h ha hheld hnext
          exact (hclose.mono (fun _ hw => hw) (fun _ _ hw => returned_of_state (by decide) hw)
            fun _ _ hw => returned_of_state (by decide) hw).result hstart
  | destroy =>
      rw [doEditor, reply_snd]
      cases hnext : e.state.next? .destroy with
      | none =>
          rw [result_destroyEditor_of_illegal he hnext]
          exact hrefused
      | some state =>
          obtain ⟨rfl, -⟩ := state_of_destroy hnext
          exact returned_of_state (by decide) ((triple_destroyEditor_agreed hnext).result hstart)
  | setUser user =>
      rw [doEditor, reply_snd]
      have hset := triple_setUser_agreed known h ha hheld hloading (hw.ready e he) user
      exact returned_of_state hloading (hset.result hstart)
  | _ => cases hc

/-! ## Other commands -/

theorem tending_setMetadata (h : Tends act) (ha : Agrees m act) (hw : Tending m known holds held w)
    (e : Editor) (set : Dict String String) (removed : List String) :
    Tending m known holds held ((setMetadata act e set removed).result w).2 := by
  exact of_setMetadata hw ((sparing_tending h ha known holds held).submit rfl hw)

/-- A command that shares the editor changes at most who listens to it. -/
theorem tending_shared (h : Tends act) (ha : Agrees m act) {c : EditorCommand}
    (hc : editorAccess c = .shared) (hheld : (.editor, .exclusive) ∉ holds)
    (hw : Tending m known holds held w) (e : Editor) :
    Tending m known holds held (w.doEditor act e c).2 := by
  cases c with
  | «open» | close | destroy | setUser => cases hc
  | status | profile | isModified => exact hw
  | setMetadata set removed =>
      rw [doEditor, reply_snd]
      exact tending_setMetadata h ha hw e set removed
  | metadata property =>
      rw [doEditor_metadata_snd]
      exact hw
  | setModified modified =>
      exact of_setModified hw fun id _ =>
        (sparing_tending h ha known holds held).setModified id modified hw
  | unsubscribe signal id =>
      refine ⟨⟨⟨fun e' he' => ?_, hw.numbered⟩, hw.under, fun hin => absurd hin hheld⟩,
        hw.agreed.modifyEditor (f := fun e => { e with bus := e.bus.unsubscribe signal id })
          fun _ _ hp => { hp with }⟩
      obtain ⟨e, he, rfl⟩ := Option.map_eq_some_iff.1 he'
      exact (hw.ready e he).congr rfl rfl rfl rfl rfl

theorem tending_watchEditor (hheld : (.editor, .exclusive) ∉ holds)
    (hw : Tending m known holds held w) {actions : List Command} (hactions : ∀ c ∈ actions, c.sparesRecord m = true)
    (signal : EditorSignal) (label : String) (times : Nat) (e : Editor) :
    Tending m known holds held (w.watchEditor signal label actions times e).2 := by
  unfold watchEditor
  cases e.bus.subscribe signal w.nextId with
  | error cause => exact hw
  | ok made =>
      refine Tending.addObserver (w := w.modifyEditor fun e => { e with bus := made.2 })
        ⟨⟨⟨fun e' he' => ?_, hw.numbered⟩, hw.under, fun hin => absurd hin hheld⟩,
          hw.agreed.modifyEditor fun _ _ hp => { hp with }⟩ hactions label times
      obtain ⟨e₀, he₀, rfl⟩ := Option.map_eq_some_iff.1 he'
      exact (hw.ready e₀ he₀).congr rfl rfl rfl rfl rfl

theorem tending_doEngine (h : Tends act) (ha : Agrees m act) (hw : Tending m known holds held w)
    {c : EngineCommand} (hc : (Command.engine c).sparesRecord m = true) :
    Tending m known holds held (w.doEngine act c).2 := by
  have hsparing := sparing_tending h ha known holds held
  have hsame {w' : Workspace} (happart : Apart w w') (hrefusals : w'.refusals = w.refusals)
      (hnextId : w'.nextId = w.nextId) (hsessions : w'.sessions = w.sessions)
      (hphase : w'.engine.phase = w.engine.phase) (hreplica : w'.engine.replica = w.engine.replica)
      (hpending : w'.engine.pending = w.engine.pending) : Tending m known holds held w' :=
    hsparing.harmless hw
      (harmless_of_same happart hrefusals hnextId hsessions hphase hreplica hpending)
  cases c with
  | load | close => cases hc
  | flush => exact hsparing.flush hw
  | enqueue batch =>
      rw [doEngine, reply_snd]
      exact hsparing.enqueue hc hw
  | unsubscribe signal id => exact hsparing.harmless hw (harmless_unwinding.unsubscribe w signal id)
  | ask query => exact hw
  | refuse signals operations =>
      obtain rfl := List.isEmpty_iff.1 hc
      exact hsparing.harmless hw { Harmless.refl (m := m) w with
        toApart := apart_of_same rfl rfl rfl rfl
        operations := fun _ => rfl }
  | register | failNextClose | setImmediate | takeSubmitted =>
      exact hsame ⟨rfl, rfl, fun h => h, fun _ => rfl⟩ rfl rfl rfl rfl rfl rfl

theorem tending_doSession (h : Tends act) (ha : Agrees m act) (hw : Tending m known holds held w)
    {c : SessionCommand} (hc : (Command.session c).sparesRecord m = true) (id : Nat) :
    Tending m known holds held (w.doSession act id c).2 := by
  have hsparing := sparing_tending h ha known holds held
  cases c with
  | unsubscribe signal subscription =>
      exact hsparing.harmless hw
        (harmless_modifySession (apart_of_same rfl rfl rfl rfl) fun _ _ => rfl)
  | ask query =>
      rw [doSession_ask_snd]
      exact hw
  | edit e =>
      have hother : ∀ properties, e ≠ .updateMember properties := by
        rintro properties rfl
        cases hc
      rw [doSession_edit_snd]
      exact hsparing.edit hother id hw
  | undo | redo => exact hw

theorem tending_doInput (h : Tends act) (ha : Agrees m act) (hw : Tending m known holds held w)
    (id : Nat) (c : InputCommand) : Tending m known holds held (w.doInput act id c).2 := by
  have hsparing := sparing_tending h ha known holds held
  cases c with
  | insertCursor | removeCursor =>
      rw [doInput, reply_snd]
      exact hsparing.submitFor id (fun _ => rfl) hw
  | setUndoManager =>
      rw [doInput, reply_snd]
      exact hsparing.harmless hw
        ((harmless_createUndoManager w).trans (harmless_handling.setUndoManager id _ _))
  | startEditing => exact hsparing.harmless hw (harmless_handling.setEditing id true w)
  | endEditing => exact hsparing.harmless hw (harmless_handling.setEditing id false w)

theorem tending_watchEngine (hsparing : Sparing m act (Tending m known holds held))
    (hw : Tending m known holds held w) {actions : List Command}
    (hactions : ∀ c ∈ actions, c.sparesRecord m = true) (signal : EngineSignal) (label : String)
    (times : Nat) : Tending m known holds held (w.watchEngine signal label actions times).2 := by
  unfold watchEngine Engine.subscribe SignalBus.subscribe
  cases w.engine.bus.checkDeclared signal with
  | error cause => exact hw
  | ok _ =>
      have hsubscribed := hsparing.harmless hw (harmless_subscribed signal (.observer w.nextId) w)
      exact hsubscribed.addObserver hactions label times

theorem tending_watchSession (hsparing : Sparing m act (Tending m known holds held))
    (hw : Tending m known holds held w) {actions : List Command}
    (hactions : ∀ c ∈ actions, c.sparesRecord m = true) (signal : SessionSignal) (label : String)
    (times id : Nat) :
    Tending m known holds held (w.watchSession signal label actions times id).2 := by
  unfold watchSession
  cases w.sessions.get? id with
  | none => exact hw
  | some s =>
      simp only
      cases s.bus.subscribe signal w.nextId with
      | error cause => exact hw
      | ok made =>
          have hharmless : Harmless m w (w.modifySession id fun s => { s with bus := made.2 }) :=
            harmless_modifySession (apart_of_same rfl rfl rfl rfl) fun _ _ => rfl
          have hchanged := hsparing.harmless hw hharmless
          exact hchanged.addObserver hactions label times

/-! ## Every command -/

/-- While a command holds an object, an editor that is loading is held by another one. -/
theorem agreed_holding {place : Place} {access : Access} {job : Workspace → Reply × Workspace}
    (hw : Agreed m known w)
    (hjob : ∀ w', w'.editor = w.editor → w'.holds = (place, access) :: w.holds →
      w'.engine = w.engine → Agreed m known w' → w.isFree place access = true →
      Agreed m known (job w').2 ∧ ∀ e, (job w').2.editor = some e → e.state = .loading →
        (.editor, .exclusive) ∈ w.holds) : Agreed m known (w.holding place access job).2 := by
  unfold holding
  split
  · rename_i hfree
    have hstart : Agreed m known { w with holds := (place, access) :: w.holds } :=
      hw.holding fun e he hloading => List.mem_cons_of_mem _ ((hw.editor e he).held hloading)
    obtain ⟨hagreed, hheld⟩ :=
      hjob { w with holds := (place, access) :: w.holds } rfl rfl rfl hstart hfree
    exact hagreed.holding hheld
  · exact hw

/-- A job that leaves alone whoever holds the editor. -/
theorem agreed_holding_of_tending {place : Place} {access : Access}
    {job : Workspace → Reply × Workspace} (horderly : Orderly w) (hw : Agreed m known w)
    (hjob : ∀ holds held w, Tending m known holds held w → Tending m known holds held (job w).2) :
    Agreed m known (w.holding place access job).2 := by
  refine agreed_holding hw fun w' heditor hholds hengine hagreed _ => ?_
  have hdone := hjob ((place, access) :: w.holds) w.editor w'
    ⟨⟨horderly.congr heditor (by rw [hengine]), hholds, fun _ => heditor⟩, hagreed⟩
  refine ⟨hdone.agreed, fun e he hloading => ?_⟩
  have hheld := (hdone.agreed.editor e he).held hloading
  rw [hdone.under] at hheld
  rcases List.mem_cons.1 hheld with hthis | hother
  · have hsame := hdone.editor (hthis ▸ List.mem_cons_self)
    exact (hw.editor e (hsame.symm.trans he)).held hloading
  · exact hother

theorem agreed_withSession {access : Access} {job : Nat → Workspace → Reply × Workspace}
    (horderly : Orderly w) (hw : Agreed m known w)
    (hjob : ∀ id holds held w, Tending m known holds held w →
      Tending m known holds held (job id w).2) :
    Agreed m known (w.withSession access job).2 := by
  unfold withSession
  split
  · exact agreed_holding_of_tending horderly hw (hjob _)
  · exact agreed_holding_of_tending horderly hw fun _ _ _ hw => hw
  · exact hw

theorem agreed_withEditor {access : Access} {job : Editor → Workspace → Reply × Workspace}
    (horderly : Orderly w) (hw : Agreed m known w)
    (hexclusive : access = .exclusive → ∀ e holds w, (.editor, .exclusive) ∈ holds →
      Tending m known holds (some e) w → e.state ≠ .loading → Returned m known (job e w).2)
    (hshared : access = .shared → ∀ e holds held w, (.editor, .exclusive) ∉ holds →
      Tending m known holds held w → Tending m known holds held (job e w).2) :
    Agreed m known (w.withEditor access job).2 := by
  unfold withEditor
  cases he : w.editor with
  | none => exact hw
  | some e =>
      refine agreed_holding hw fun w' heditor hholds hengine hagreed hfree => ?_
      have hout : (.editor, .exclusive) ∉ w.holds := not_held_of_isFree hfree
      have hstart : Tending m known ((.editor, access) :: w.holds) (some e) w' :=
        ⟨⟨horderly.congr heditor (by rw [hengine]), hholds, fun _ => heditor.trans he⟩, hagreed⟩
      cases access with
      | exclusive =>
          have hloading : e.state ≠ .loading := fun h => hout ((hw.editor e he).held h)
          obtain ⟨hdone, hback⟩ := hexclusive rfl e _ w' List.mem_cons_self hstart hloading
          exact ⟨hdone, fun e' he' h => absurd h (hback e' he')⟩
      | shared =>
          have hout' : (.editor, .exclusive) ∉ (Place.editor, Access.shared) :: w.holds := by
            simpa using hout
          have hdone := hshared rfl e _ _ w' hout' hstart
          refine ⟨hdone.agreed, fun e' he' h => absurd ?_ hout'⟩
          rw [← hdone.under]
          exact (hdone.agreed.editor e' he').held h

theorem agreed_createEditor (hw : Agreed m known w) {spec : EditorSpec} (hspec : spec.member = m) :
    Agreed m known (w.createEditor spec) := by
  have hnew {dropped : Workspace} (hdropped : Harmless m w dropped) (e : Editor)
      (hp : Presents m { dropped with nextId := w.nextId + 1 } e)
      (hnextId : dropped.nextId = w.nextId) (replaced : List Editor) :
      Agreed m known { dropped with nextId := w.nextId + 1, replaced, editor := some e } := by
    have hkept := hw.harmless hdropped
    refine ⟨hkept.operations, fun id s hs => ?_, hkept.known, hkept.gives, fun e' he' => ?_⟩
    · have hid := hkept.numbered id s hs
      rw [hnextId] at hid
      exact Nat.lt_succ_of_lt hid
    · obtain rfl := Option.some.inj he'
      exact hp.congr rfl rfl rfl
  have hidle : ∀ w', Presents m w'
      { id := w.nextId
        member := spec.member
        options := spec.options
        user := spec.user.withDefaults
        fontsCss := spec.fontsCss
        frontend := spec.frontend } :=
    fun w' => ⟨hspec, spec.user.filled_withDefaults, nofun, nofun, nofun,
      fun hin => absurd hin (Editor.not_introduced_of_state (s := .uninitialized) rfl (by decide)
        (by decide))⟩
  unfold createEditor
  cases w.editor.bind (·.session) with
  | none => exact hnew (.refl w) _ (hidle _) rfl _
  | some id => exact hnew (harmless_unwinding.dropSession id w) _ (hidle _) rfl _

/-- Commands keep the editor and the engine in agreement, if those do that they lead to. -/
theorem agrees_step (h : Tends act) (ha : Agrees m act) : Agrees m (step act) := by
  intro known c w hc horderly hw
  have hsparing := sparing_tending h ha known w.holds w.editor
  have hstart : Tending m known w.holds w.editor w := ⟨⟨horderly, rfl, fun _ => rfl⟩, hw⟩
  cases c with
  | engine c => exact (tending_doEngine h ha hstart hc).agreed
  | session c =>
      exact agreed_withSession horderly hw fun id _ _ _ hw => tending_doSession h ha hw hc id
  | input c =>
      exact agreed_withSession horderly hw fun id _ _ _ hw => tending_doInput h ha hw id c
  | editor c =>
      exact agreed_withEditor horderly hw
        (fun haccess e _ _ hheld hw => returned_exclusive h ha haccess hheld hw)
        fun haccess e _ _ _ hheld hw => tending_shared h ha haccess hheld hw e
  | newSession spec =>
      exact (hsparing.harmless hstart
        (harmless_handling.newSession (harmless_createSession spec .all w).1)).agreed
  | destroySession =>
      unfold step destroyStandalone
      cases w.standalone with
      | none => exact hw
      | some id =>
          refine agreed_holding_of_tending horderly hw fun holds held w hw => ?_
          rw [reply_snd]
          have hlet : Harmless m w { w with standalone := none } :=
            harmless_of_same (apart_of_same rfl rfl rfl rfl) rfl rfl rfl rfl rfl rfl
          exact (sparing_tending h ha known holds held).harmless hw
            (hlet.trans (harmless_unwinding.destroySession id _))
  | newEditor spec =>
      have hspec : spec.member = m := by simpa [Command.sparesRecord] using hc
      refine agreed_holding hw fun w' _ _ _ hw' _ => ⟨agreed_createEditor hw' hspec, ?_⟩
      intro e he hloading
      obtain rfl := Option.some.inj he
      cases hloading
  | watchEngine signal label actions times =>
      exact (tending_watchEngine hsparing hstart (Command.allSpareRecord_iff.1 hc) signal label
        times).agreed
  | watchSession signal label actions times =>
      exact agreed_withSession horderly hw fun id holds held _ hw =>
        tending_watchSession (sparing_tending h ha known holds held) hw
          (Command.allSpareRecord_iff.1 hc) signal label times id
  | watchEditor signal label actions times =>
      exact agreed_withEditor horderly hw (fun haccess => by cases haccess)
        fun _ e _ _ _ hheld hw => tending_watchEditor hheld hw (Command.allSpareRecord_iff.1 hc)
          signal label times e
  | undecodable => exact hw

theorem agrees_perform (m : MemberId) (depth : Nat) : Agrees m (perform depth) := by
  induction depth with
  | zero => exact fun _ _ _ _ _ hw => hw
  | succ depth ih => exact agrees_step (tends_perform depth) ih

theorem agrees_conduct (m : MemberId) : Agrees m conduct :=
  fun known c w hc horderly hw => agrees_perform m _ known c w hc horderly hw

end Commands

end Coedit.Workspace
