import Coedit.Proofs.Editor.Holding

/-!
# Editors that can open a document

Whatever commands are given to a workspace, by whom and in which order, an editor that can open
a document holds nothing: no session, no undo manager, and no subscription. This is so at every
moment of a run, while observers give commands as well.
-/

namespace Coedit

namespace Editor

def In (s : EditorState) (e : Editor) : Prop := e.state = s

structure Loading (e : Editor) : Prop extends e.Bare where
  state : e.state = .loading

structure Parting (e : Editor) : Prop where
  state : e.state = .closing
  session : e.session = none

theorem In.ready {s : EditorState} {e : Editor} (h : e.In s) (hs : s.canOpen = false) :
    e.Ready := by
  intro hopen
  rw [show e.state = s from h, hs] at hopen
  cases hopen

/-- The state and what is held are all that matters. -/
theorem Ready.congr {e e' : Editor} (h : e.Ready) (hstate : e'.state = e.state)
    (hsession : e'.session = e.session) (hundo : e'.undoManager = e.undoManager)
    (hmodified : e'.modifiedSubscription = e.modifiedSubscription)
    (hmetadata : e'.metadataSubscription = e.metadataSubscription) : e'.Ready := by
  intro hopen
  rw [hstate] at hopen
  have hbare := h hopen
  exact ⟨hsession.trans hbare.session, hundo.trans hbare.undoManager,
    hmodified.trans hbare.modified, hmetadata.trans hbare.metadata⟩

/-- The editor's state is not among what it holds. -/
theorem Bare.inState {e : Editor} (h : e.Bare) (state : EditorState) : Bare { e with state } :=
  ⟨h.session, h.undoManager, h.modified, h.metadata⟩

end Editor

namespace Workspace

open Attempt (Triple)
open Editor (In Loading Parting Bare Ready)

section Commands

variable {holds : List (Place × Access)} {held : Option Editor} {w w' : Workspace}
  {act : Conduct} {e : Editor} {faults : InputFaults}

theorem canOpen_of_next {s s' : EditorState} (h : s.next? .open = some s') :
    s.canOpen = true := by
  unfold EditorState.canOpen
  rw [h]
  rfl

/-! ## Opening a document -/

theorem triple_startUndo_held (e : Editor) (session : Nat) :
    Triple (Underway holds (In .loading)) (startUndo e session faults)
      (fun _ => Underway holds (In .loading)) (fun _ => Underway holds (In .loading)) := by
  refine startUndo_rule (A := Underway holds (In .loading))
    (B := fun _ => Underway holds (In .loading))
    (fun w hw => hw.apart (passing_interfaceNote e.frontend .undoManager w).apart)
    (fun w hw => hw.apart (apart_of_same rfl rfl rfl rfl))
    (fun manager => triple_unlessFault (triple_byEngine_of_lasting fun w hw =>
      hw.apart (apart_handling.setUndoManager session manager w)) fun _ _ _ hw => hw)
    fun manager w hw => ?_
  obtain hsame | ⟨m, subscription, hrelayed⟩ := relayModified_cases e manager w
  · rw [hsame]
    exact hw
  · rw [hrelayed]
    have hmanaged : Apart w { w with undoManagers := w.undoManagers.insert manager m } :=
      apart_of_same rfl rfl rfl rfl
    exact (hw.apart hmanaged).modifyEditor fun _ hloading => hloading

theorem triple_enterDocument_held (h : Tends act) (hheld : (.editor, .exclusive) ∈ holds)
    (e : Editor) (session : Nat) :
    Triple (Underway holds (In .loading)) (enterDocument act e session faults)
      (fun _ => Underway holds (In .loading)) (fun _ => Underway holds (In .loading)) := by
  have hlasting : Lasting act (fun _ => True) (Underway holds (In .loading)) :=
    h.lasting_underway hheld fun _ hloading => hloading.ready rfl
  exact enterDocument_rule
    (triple_byEngine_of_lasting fun w hw => hw.apart (apart_handling.subscribe _ _ w))
    (fun _ w hw => hw.modifyEditor fun _ hloading => hloading)
    (fun _ => triple_byEngine_of_lasting fun w hw => hlasting.submit _ hw)
    (fun _ w hw => hw.attachToolbar e fun _ hloading => hloading)
    (fun _ => triple_unlessFault (triple_byEngine_of_lasting fun w hw =>
      hlasting.submitFor session .addCursor hw) fun _ _ _ hw => hw)
    fun _ w hw => hw.apart (passing_setEditing session true w).apart

theorem triple_startSession_held (h : Tends act) (hheld : (.editor, .exclusive) ∈ holds)
    (e : Editor) : Triple (Underway holds (In .loading)) (startSession act e faults)
      (fun _ => Underway holds (In .loading)) (fun _ => Underway holds (In .loading)) := by
  exact startSession_rule
    (triple_bySession_of_lasting fun w hw => hw.apart (apart_createSession _ _ w))
    (fun session => equipSession_rule (fun _ => triple_startUndo_held e session)
      (fun _ _ hw => hw) (triple_enterDocument_held h hheld e session))
    (fun _ _ w hw => hw.apart (apart_of_same rfl rfl rfl rfl))
    fun _ w hw => hw.modifyEditor fun _ hloading => hloading

/-- An editor that gives up loading holds nothing, and can open a document again. -/
theorem triple_loadFailed : Triple (Underway holds Loading) (advance .loadFailed)
    (fun _ => Underway holds fun e => e.In .closed ∧ e.Bare)
    (fun _ => Underway holds fun e => e.In .closed ∧ e.Bare) :=
  triple_advance_of_state rfl (fun _ hloading => hloading.state)
    fun _ hloading => ⟨rfl, hloading.toBare.inState .closed⟩

theorem underway_abandonOpening (h : Tends act) (hheld : (.editor, .exclusive) ∈ holds)
    (hw : Underway holds (In .loading) w) : Underway holds Loading (w.abandonOpening act) := by
  have hsilent : Underway holds (fun e => e.state = .loading ∧ e.undoManager = none ∧
      e.modifiedSubscription = none ∧ e.metadataSubscription = none) w.detachRelays :=
    underway_detachRelays hw fun _ hloading => ⟨hloading, rfl, rfl, rfl⟩
  have hbare : Underway holds Loading w.detachRelays.abandonSession :=
    underway_abandonSession hsilent fun _ hsilent =>
      ⟨⟨rfl, hsilent.2.1, hsilent.2.2.1, hsilent.2.2.2⟩, hsilent.1⟩
  exact (h.lasting_underway hheld fun _ hloading => In.ready hloading.state rfl).closeEngine hbare

/-- A document is open, or the editor is closed again. -/
theorem triple_openDocument_held (h : Tends act) (hheld : (.editor, .exclusive) ∈ holds)
    (hbare : e.Bare) (hnext : e.state.next? .open = some .loading) (files : FileTree)
    (url : String) (faults : InputFaults) :
    Triple (Underway holds fun e' => e' = e) (openDocument act files e url faults)
      (fun _ => Underway holds (In .editing))
      (fun _ => Underway holds fun e => e.In .closed ∧ e.Bare) := by
  have hload : Triple (Underway holds Loading) (byEngine (loadDocument files url))
      (fun _ => Underway holds (In .loading)) (fun _ => Underway holds Loading) := by
    have hkeeps : Triple (Underway holds Loading) (byEngine (loadDocument files url))
        (fun _ => Underway holds Loading) (fun _ => Underway holds Loading) :=
      triple_byEngine_of_lasting fun w hw => hw.apart (passing_loadDocument files url w).apart
    exact hkeeps.mono (fun _ hw => hw) (fun _ _ hw => hw.mono fun _ hloading => hloading.state)
      fun _ _ hw => hw
  have hready : Triple (Underway holds (In .loading)) (advance .ready)
      (fun _ => Underway holds (In .editing))
      (fun _ => Underway holds fun e => e.In .closed ∧ e.Bare) :=
    triple_advance_of_state rfl (fun _ hloading => hloading) fun _ _ => rfl
  have hopen : Triple (Underway holds fun e' => e' = e) (advance .open)
      (fun _ => Underway holds Loading)
      (fun _ => Underway holds fun e => e.In .closed ∧ e.Bare) := by
    refine triple_advance_of_state hnext (fun _ hsame => by rw [hsame]) fun e' hsame => ?_
    subst hsame
    exact ⟨hbare.inState .loading, rfl⟩
  exact openDocument_rule hopen hload (triple_startSession_held h hheld e)
    (fun w hw => underway_abandonOpening h hheld hw) (fun _ => triple_loadFailed) hready

theorem orderly_openDocument (h : Tends act) (hheld : (.editor, .exclusive) ∈ holds)
    (hw : Tended holds (some e) w) (files : FileTree) (url : String) (faults : InputFaults) :
    Orderly ((openDocument act files e url faults).result w).2 := by
  have he : w.editor = some e := hw.editor hheld
  cases hnext : e.state.next? .open with
  | none =>
      rw [result_openDocument_of_illegal he hnext]
      exact hw.toOrderly
  | some state =>
      obtain ⟨rfl, -⟩ := state_of_open hnext
      have hbare : e.Bare := hw.ready e he (canOpen_of_next hnext)
      have hopen := (triple_openDocument_held h hheld hbare hnext files url faults).mono
        (fun _ hw => hw) (fun _ _ hw => hw.orderly fun _ hediting => hediting.ready rfl)
        fun _ _ hw => hw.orderly fun _ hclosed _ => hclosed.2
      exact hopen.result ⟨hw.numbered, hw.under, e, he, rfl⟩

/-! ## Closing a document -/

/-- The session is in other hands while the document is left. -/
theorem lasting_parting (h : Tends act) (hheld : (.editor, .exclusive) ∈ holds) :
    Lasting act (fun _ => True) (Underway holds Parting) :=
  h.lasting_underway hheld fun _ hgood => In.ready hgood.state rfl

theorem triple_leaveDocument_held (h : Tends act) (hheld : (.editor, .exclusive) ∈ holds)
    (e : Editor) (session : Nat) :
    Triple (Underway holds Parting) (leaveDocument act e session)
      (fun _ => Underway holds fun e => e.In .closing ∧ e.Bare)
      (fun _ => Underway holds Parting) := by
  have hlasting := lasting_parting h hheld
  refine leaveDocument_rule (D := Underway holds fun e => e.In .closing ∧ e.Bare)
    (triple_byEngine_of_lasting fun w hw => hlasting.submitFor session .removeCursor hw)
    (triple_byEngine_of_lasting fun w hw => hlasting.submit _ hw)
    (triple_byEngine_of_lasting fun w hw => hlasting.closeEngine hw)
    (fun w hw => underway_detachRelays hw fun _ hgood =>
      ⟨hgood.state, hgood.session, rfl, rfl, rfl⟩) fun w hw => ?_
  have hdestroyed := hw.apart (apart_unwinding.destroySession session w)
  cases hr : w.destroySession session with
  | mk answer w' =>
      rw [hr] at hdestroyed
      cases answer with
      | ok _ => exact hdestroyed
      | error cause => exact hdestroyed.mono fun _ hgood => ⟨hgood.1, hgood.2.session⟩

theorem underway_abortClose (h : Tends act) (hheld : (.editor, .exclusive) ∈ holds)
    (e : Editor) (session : Nat) (cause : EditorError) (hw : Underway holds Parting w) :
    Underway holds (In .closing)
      ((w.detachRelays.report act e.id (.unknownError cause.message)).dropSession session) := by
  have hsilent : Underway holds Parting w.detachRelays :=
    underway_detachRelays hw fun _ hgood => ⟨hgood.state, hgood.session⟩
  have hreported := (lasting_parting h hheld).report e.id (.unknownError cause.message) hsilent
  have hdropped : Apart (report act e.id (.unknownError cause.message) w.detachRelays)
      (dropSession session (report act e.id (.unknownError cause.message) w.detachRelays)) :=
    apart_of_same rfl rfl rfl rfl
  exact (hreported.apart hdropped).mono fun _ hgood => hgood.state

/-- The editor is closed, or stays closing. -/
theorem triple_closeDocument_held (h : Tends act) (hheld : (.editor, .exclusive) ∈ holds)
    (hnext : e.state.next? .close = some .closing) :
    Triple (Underway holds fun e' => e' = e) (closeDocument act e)
      (fun _ => Underway holds fun e => e.In .closed ∧ e.Bare)
      (fun _ => Underway holds (In .closing)) := by
  have hclosed : Triple (Underway holds fun e => e.In .closing ∧ e.Bare) (advance .closed)
      (fun _ => Underway holds fun e => e.In .closed ∧ e.Bare)
      (fun _ => Underway holds (In .closing)) :=
    triple_advance_of_state rfl (fun _ hgood => hgood.1)
      fun _ hgood => ⟨rfl, hgood.2.inState .closed⟩
  have hadvance : Triple (Underway holds fun e' => e' = e) (advance .close)
      (fun _ => Underway holds (In .closing)) (fun _ => Underway holds (In .closing)) :=
    triple_advance_of_state hnext (fun _ hsame => by rw [hsame]) fun _ _ => rfl
  cases hsession : e.session with
  | none => exact closeDocument_rule_of_none hsession hadvance fun _ hw => hw
  | some id =>
      exact closeDocument_rule (B := Underway holds Parting) (C := Underway holds Parting)
        hsession hadvance (fun w hw => hw.modifyEditor fun _ hclosing => ⟨hclosing, rfl⟩)
        (fun w hw => hw.apart (passing_setEditing id false w).apart)
        (fun w hw => hw.attachToolbar e fun _ hgood => ⟨hgood.state, hgood.session⟩)
        (triple_leaveDocument_held h hheld e id)
        (fun cause _ hw => underway_abortClose h hheld e id cause hw) hclosed

theorem orderly_closeDocument (h : Tends act) (hheld : (.editor, .exclusive) ∈ holds)
    (hw : Tended holds (some e) w) : Orderly ((closeDocument act e).result w).2 := by
  have he : w.editor = some e := hw.editor hheld
  cases hnext : e.state.next? .close with
  | none =>
      rw [result_closeDocument_of_illegal he hnext]
      exact hw.toOrderly
  | some state =>
      obtain ⟨rfl, -⟩ := state_of_close hnext
      have hclose := (triple_closeDocument_held h hheld hnext).mono (fun _ hw => hw)
        (fun _ _ hw => hw.orderly fun _ hclosed _ => hclosed.2)
        fun _ _ hw => hw.orderly fun _ hclosing => hclosing.ready rfl
      exact hclose.result ⟨hw.numbered, hw.under, e, he, rfl⟩

/-! ## Other commands to the editor -/

/-- The editor is destroyed, also if a part of its chrome refused. -/
theorem triple_destroyEditor_held (hnext : e.state.next? .destroy = some .destroyed) :
    Triple (Underway holds fun e' => e' = e) (destroyEditor e)
      (fun _ => Underway holds (In .destroyed)) (fun _ => Underway holds (In .destroyed)) := by
  exact destroyEditor_rule (A := Underway holds (In .destroyed))
    (triple_advance_of_state hnext (fun _ hsame => by rw [hsame]) fun _ _ => rfl)
    (fun part w hw => hw.apart (passing_interfaceNote e.frontend (.tornDown part) w).apart)
    (fun _ hw => hw.modifyEditor fun _ hgood => hgood) fun _ _ hw => hw

theorem orderly_destroyEditor (hheld : (.editor, .exclusive) ∈ holds)
    (hw : Tended holds (some e) w) : Orderly ((destroyEditor e).result w).2 := by
  have he : w.editor = some e := hw.editor hheld
  cases hnext : e.state.next? .destroy with
  | none =>
      rw [result_destroyEditor_of_illegal he hnext]
      exact hw.toOrderly
  | some state =>
      obtain ⟨rfl, -⟩ := state_of_destroy hnext
      exact ((triple_destroyEditor_held hnext).result
        ⟨hw.numbered, hw.under, e, he, rfl⟩).orderly fun _ hgood => hgood.ready rfl

theorem orderly_setUser (h : Tends act) (hheld : (.editor, .exclusive) ∈ holds)
    (hw : Tended holds (some e) w) (user : MemberProperties) :
    Orderly ((setUser act e user).result w).2 := by
  have hstart : Underway holds Ready w :=
    ⟨hw.numbered, hw.under, e, hw.editor hheld, hw.ready e (hw.editor hheld)⟩
  have hlasting : Lasting act (fun _ => True) (Underway holds Ready) :=
    h.lasting_underway hheld fun _ hready => hready
  have hset : Underway holds Ready (w.modifyEditor fun e => { e with user := user.withDefaults }) :=
    hstart.modifyEditor fun _ hready => hready.congr rfl rfl rfl rfl rfl
  have hdone : Underway holds Ready ((setUser act e user).result w).2 :=
    of_setUser hset fun session _ => hlasting.edit session _ hset
  exact hdone.orderly fun _ hready => hready

theorem tended_setMetadata (h : Tends act) (hw : Tended holds held w) (e : Editor)
    (set : Dict String String) (removed : List String) :
    Tended holds held ((setMetadata act e set removed).result w).2 := by
  exact of_setMetadata hw ((h.enduring holds held).submit _ hw)

theorem orderly_doEditor (h : Tends act) (c : EditorCommand)
    (hw : Tended ((.editor, editorAccess c) :: holds) (some e) w) :
    Orderly (w.doEditor act e c).2 := by
  have hlasting := (h.enduring ((.editor, editorAccess c) :: holds) (some e)).toLasting
  have hsame : ∀ f : Editor → Editor, (∀ e, e.Ready → (f e).Ready) →
      Orderly (w.modifyEditor f) := by
    intro f hf
    refine ⟨fun e' he' => ?_, hw.numbered⟩
    obtain ⟨e, he, rfl⟩ := Option.map_eq_some_iff.1 he'
    exact hf e (hw.ready e he)
  cases c with
  | «open» url =>
      rw [doEditor, reply_snd]
      exact orderly_openDocument h List.mem_cons_self hw w.files url {}
  | close =>
      rw [doEditor, reply_snd]
      exact orderly_closeDocument h List.mem_cons_self hw
  | destroy =>
      rw [doEditor, reply_snd]
      exact orderly_destroyEditor List.mem_cons_self hw
  | setUser user =>
      rw [doEditor, reply_snd]
      exact orderly_setUser h List.mem_cons_self hw user
  | status | profile | isModified => exact hw.toOrderly
  | setMetadata set removed =>
      rw [doEditor, reply_snd]
      exact (tended_setMetadata h hw e set removed).toOrderly
  | metadata property =>
      rw [doEditor_metadata_snd]
      exact hw.toOrderly
  | setModified modified =>
      exact of_setModified hw.toOrderly fun id _ =>
        (hlasting.setModified id modified hw).toOrderly
  | unsubscribe signal id =>
      exact hsame _ fun _ hready => hready.congr rfl rfl rfl rfl rfl

theorem orderly_watchEditor (hw : Orderly w) (e : Editor) (signal : EditorSignal)
    (label : String) (actions : List Command) (times : Nat) :
    Orderly (w.watchEditor signal label actions times e).2 := by
  unfold watchEditor
  cases e.bus.subscribe signal w.nextId with
  | error cause => exact hw
  | ok made =>
      refine ⟨fun e' he' => ?_, hw.numbered⟩
      obtain ⟨e₀, he₀, rfl⟩ := Option.map_eq_some_iff.1 he'
      exact (hw.ready e₀ he₀).congr rfl rfl rfl rfl rfl

/-! ## Every command -/

theorem orderly_createEditor (hw : Orderly w) (spec : EditorSpec) :
    Orderly (w.createEditor spec) := by
  refine ⟨fun e he hopen => ?_, ?_⟩
  · obtain rfl := Option.some.inj he
    exact ⟨rfl, rfl, rfl, rfl⟩
  · have hsame : (w.createEditor spec).engine = w.engine := by
      unfold createEditor
      cases w.editor.bind (·.session) <;> rfl
    rw [hsame]
    exact hw.numbered

/-- Commands tend whoever holds the editor, if those that they lead to do. -/
theorem tends_step (h : Tends act) : Tends (step act) := by
  intro holds held c w hw
  cases c with
  | engine c => exact (h.enduring holds held).doEngine hw c
  | session c =>
      exact tended_withSession hw fun id holds held _ hw => (h.enduring holds held).doSession hw id c
  | input c =>
      exact tended_withSession hw fun id holds held _ hw => (h.enduring holds held).doInput hw id c
  | editor c => exact tended_withEditor hw fun _ _ _ hw => orderly_doEditor h c hw
  | newSession spec => exact hw.apart (apart_newSession spec w)
  | destroySession =>
      unfold step destroyStandalone
      cases w.standalone with
      | none => exact hw
      | some id =>
          refine tended_holding_of_tending hw fun holds held w hw => ?_
          rw [reply_snd]
          have hlet : Apart w { w with standalone := none } := apart_of_same rfl rfl rfl rfl
          exact hw.apart (hlet.trans (apart_unwinding.destroySession id _))
  | newEditor spec =>
      refine tended_holding hw fun w' hw' _ hfree => ⟨orderly_createEditor hw'.toOrderly spec, ?_⟩
      intro hheld
      rw [← hw.under] at hheld
      exact absurd hheld (not_held_of_isFree hfree)
  | watchEngine signal label actions times =>
      exact (h.enduring holds held).watchEngine hw signal label (fun _ _ => trivial) times
  | watchSession signal label actions times =>
      exact tended_withSession hw fun id holds held _ hw =>
        (h.enduring holds held).watchSession hw signal label (fun _ _ => trivial) times id
  | watchEditor signal label actions times =>
      exact tended_withEditor hw fun e _ _ hw =>
        orderly_watchEditor hw.toOrderly e signal label actions times
  | undecodable => exact hw

theorem tends_perform (depth : Nat) : Tends (perform depth) := by
  induction depth with
  | zero => exact fun _ _ _ _ hw => hw
  | succ depth ih => exact tends_step ih

theorem tends_conduct : Tends conduct := fun holds held c w hw => tends_perform _ holds held c w hw

theorem orderly_execute (hw : Orderly w) (c : Command) : Orderly (w.execute c).2 :=
  (tends_conduct w.holds w.editor c w ⟨hw, rfl, fun _ => rfl⟩).toOrderly

end Commands

end Workspace

/-! ## Every moment of a run -/

namespace Agenda

/-- Delivering events does not change the editor. -/
theorem editor_begin {task : Task} (h : task.delivers = true) (reply : Reply) (w : Workspace) :
    (begin reply w task).workspace.editor = w.editor :=
  stirred_begin (P := fun w' => w'.editor = w.editor)
    (fun hsame hstir => hstir.passing.editor.trans hsame) (fun _ hsame => hsame) h rfl reply

theorem orderly_perform {w : Workspace} (hw : w.Orderly) (reply : Reply) (c : Command) :
    (perform reply w c).workspace.Orderly := by
  have hdone : (w.execute c).2.Orderly := Workspace.orderly_execute hw c
  cases c with
  | engine c =>
      cases c with
      | enqueue batch =>
          simp only [perform, enqueue]
          split
          · exact hw
          · rename_i w' htake
            obtain ⟨-, rfl⟩ := engine_take htake
            exact hw.congr rfl rfl
      | flush => exact hw
      | close =>
          simp only [perform, close]
          split <;> exact hw
      | _ => exact hdone
  | session c =>
      cases c with
      | edit e =>
          simp only [perform, edit]
          split
          · rename_i place id _
            split
            · let held : Workspace := { w with holds := (place, .shared) :: w.holds }
              have hqueued := Workspace.passing_queueEdit id e held
              cases hr : held.queueEdit id e with
              | mk answer w' =>
                  rw [hr] at hqueued
                  have horderly : w'.Orderly := hw.congr hqueued.editor hqueued.bus
                  cases answer with
                  | ok made => exact horderly
                  | error cause => exact horderly.congr rfl rfl
            · exact hw
          · split <;> exact hw
          · exact hw
      | _ => exact hdone
  | _ => exact hdone

theorem orderly_begin {w : Workspace} (hw : w.Orderly) (reply : Reply) (task : Task) :
    (begin reply w task).workspace.Orderly := by
  by_cases hdelivers : task.delivers = true
  · exact hw.congr (editor_begin hdelivers reply w) (by rw [engine_begin hdelivers])
  · cases task with
    | perform c => exact orderly_perform hw reply c
    | drain =>
        simp only [begin, drain]
        obtain ⟨-, hnone⟩ | ⟨batch, later, -, hsome⟩ := Engine.applyNext?_cases w.engine
        · rw [hnone]
          exact hw
        · rw [hsome]
          exact hw.congr rfl rfl
    | shut =>
        simp only [begin, shut]
        obtain ⟨-, hnone⟩ | ⟨batch, later, -, hsome⟩ := Engine.applyNext?_cases w.engine
        · rw [hnone]
          have hclosed := Workspace.passing_finishClose w
          refine hw.congr ?_ ?_
          · rw [Workspace.reply_snd]
            rfl
          · rw [Workspace.reply_snd]
            exact hclosed.bus
        · rw [hsome]
          exact hw.congr rfl rfl
    | _ => exact absurd rfl hdelivers

theorem orderly_after {a : Agenda} (h : a.workspace.Orderly) (n : Nat) :
    (a.after n).workspace.Orderly := by
  induction n generalizing a with
  | zero => exact h
  | succ n ih =>
      refine ih ?_
      unfold next
      cases a.tasks with
      | nil => exact h
      | cons task rest => exact orderly_begin h a.reply task

end Agenda

end Coedit
