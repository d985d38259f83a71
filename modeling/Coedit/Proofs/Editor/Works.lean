import Coedit.Proofs.Editor.Departure
import Coedit.Proofs.Editor.Entering
import Coedit.Proofs.Workspace.Upshot

/-!
# Work on a document

Whatever is done with an editor, its session and its engine, as long as no document is loaded,
comes down to batches that are accepted: they decide what the document will be, and how far the
queue was applied does not matter. No editor starts editing that way.
-/

namespace Coedit

namespace Workspace

open Attempt (Triple)

section Works

variable {spec : EditorSpec} {first : Nat} {w w' w'' : Workspace} {e : Editor}

structure Works (spec : EditorSpec) (first : Nat) (w w' : Workspace) : Prop
    extends Carried spec first w w' where
  editing : ∀ e', w'.editor = some e' → e'.state = .editing →
    ∃ e, w.editor = some e ∧ e.state = .editing

theorem Works.trans (h : Works spec first w w') (h' : Works spec first w' w'') :
    Works spec first w w'' where
  keeps := h.keeps.trans h'.keeps
  partnered := h'.partnered
  editing := by
    intro e'' he'' hediting
    obtain ⟨e', he', hediting'⟩ := h'.editing e'' he'' hediting
    exact h.editing e' he' hediting'

theorem works_of_keeps (h : Partnered spec first w) (hkeeps : Keeps spec first w w')
    (heditor : w'.editor = w.editor) : Works spec first w w' :=
  ⟨⟨hkeeps, h.keeps hkeeps heditor⟩, fun e' he' hediting => ⟨e', heditor ▸ he', hediting⟩⟩

theorem works_continues (h : Partnered spec first w) (hc : Continues w w') :
    Works spec first w w' := by
  obtain ⟨accepted, hproceeds⟩ := hc
  exact works_of_keeps h hproceeds.keeps hproceeds.editor

theorem works_refl (h : Partnered spec first w) (hquiet : w.Quiet) : Works spec first w w :=
  works_of_keeps h (Keeps.refl hquiet) rfl

/-- A change of details of the editor. -/
theorem works_modifyEditor (h : Partnered spec first w) (hquiet : w.Quiet) {f : Editor → Editor}
    (hf : ∀ e, Matched spec first e w → Matched spec first (f e) w)
    (hstate : ∀ e, (f e).state = .editing → e.state = .editing) :
    Works spec first w (w.modifyEditor f) where
  keeps := keeps_of_same hquiet (Nat.le_refl _) rfl rfl
  partnered := h.modifyEditor fun e _ => hf e
  editing := by
    intro e' he' hediting
    obtain ⟨e, he, rfl⟩ := Option.map_eq_some_iff.1 he'
    exact ⟨e, he, hstate e hediting⟩

/-- A part of the workspace that nothing here depends on. -/
theorem works_holding (h : Partnered spec first w) (hquiet : w.Quiet)
    (holds : List (Place × Access)) : Works spec first w { w with holds } :=
  works_of_keeps h (keeps_of_same hquiet (Nat.le_refl _) rfl rfl) rfl

theorem Works.holding {place : Place} {access : Access} {job : Workspace → Reply × Workspace}
    (h : Partnered spec first w) (hquiet : w.Quiet)
    (hjob : ∀ holds, Partnered spec first { w with holds } → Works spec first { w with holds }
      (job { w with holds }).2) : Works spec first w (w.holding place access job).2 := by
  unfold Workspace.holding
  split
  · have hheld := works_holding h hquiet ((place, access) :: w.holds)
    have hdone := hheld.trans (hjob _ hheld.partnered)
    exact hdone.trans (works_holding hdone.partnered hdone.quiet w.holds)
  · exact works_refl h hquiet

theorem Works.withSession {access : Access} {job : Nat → Workspace → Reply × Workspace}
    (h : Partnered spec first w) (hquiet : w.Quiet)
    (hjob : ∀ id v, Partnered spec first v → v.Quiet → Works spec first v (job id v).2) :
    Works spec first w (w.withSession access job).2 := by
  unfold Workspace.withSession
  split
  · rename_i id _
    exact Works.holding h hquiet fun holds hheld => hjob id _ hheld hquiet
  · exact Works.holding h hquiet fun holds hheld => works_refl hheld hquiet
  · exact works_refl h hquiet

theorem Works.withEditor {options : EditorOptions}
    {base : List (Subscription EngineSignal EngineListener)} {access : Access}
    {job : Editor → Workspace → Reply × Workspace} (h : Settled options base w)
    (hpartnered : Partnered spec first w)
    (hjob : ∀ e v, v.editor = some e → Settled options base v → Partnered spec first v →
      Works spec first v (job e v).2) : Works spec first w (w.withEditor access job).2 := by
  unfold Workspace.withEditor
  cases he : w.editor with
  | none => exact works_refl hpartnered h.quiet
  | some e =>
      exact Works.holding hpartnered h.quiet fun holds hheld => hjob e _ he (h.holding holds) hheld

/-! ## Commands to the engine, the session and its input controller -/

theorem works_engine (h : Partnered spec first w) (hquiet : w.Quiet)
    {engine : Engine EngineListener} (hbus : engine.bus = w.engine.bus)
    (hsubmitted : engine.submitted = w.engine.submitted)
    (hupshot : engine.upshot = w.engine.upshot) : Works spec first w { w with engine } :=
  works_continues h ⟨[], (steady_engine hquiet engine hbus).proceeds hsubmitted hupshot⟩

theorem works_doSession (h : Partnered spec first w) (hquiet : w.Quiet) (id : Nat)
    (c : SessionCommand) : Works spec first w (w.doSession conduct id c).2 := by
  cases c with
  | unsubscribe signal subscription =>
      exact works_continues h ⟨[], (steady_modifySession hquiet id (by intro s; rfl)).idle rfl⟩
  | ask query =>
      rw [doSession_ask_snd]
      exact works_refl h hquiet
  | edit e =>
      rw [doSession_edit_snd]
      exact works_continues h (continues_submission.edit hquiet id e)
  | undo | redo => exact works_refl h hquiet

theorem works_doInput (h : Partnered spec first w) (hquiet : w.Quiet) (id : Nat)
    (c : InputCommand) : Works spec first w (w.doInput conduct id c).2 := by
  cases c with
  | insertCursor =>
      exact of_reply (works_continues h (continues_submitFor hquiet id .addCursor))
  | removeCursor =>
      exact of_reply (works_continues h (continues_submitFor hquiet id .removeCursor))
  | setUndoManager =>
      have hcreated : Works spec first w w.createUndoManager.2 :=
        works_of_keeps h (keeps_of_same hquiet (Nat.le_succ _) rfl rfl) rfl
      have hset : Works spec first w.createUndoManager.2
          (w.createUndoManager.2.setUndoManager id w.createUndoManager.1).2 :=
        works_of_keeps hcreated.partnered
          (keeps_setUndoManager hcreated.partnered.ordered hcreated.quiet id _)
          (editor_setUndoManager id _ _)
      exact of_reply (hcreated.trans hset)
  | startEditing => exact works_continues h ⟨[], proceeds_setEditing hquiet id true⟩
  | endEditing => exact works_continues h ⟨[], proceeds_setEditing hquiet id false⟩

/-! ## Subscribers -/

theorem works_addObserver (h : Partnered spec first w) (hquiet : w.Quiet) (label : String)
    (times : Nat) : Works spec first w (w.addObserver label [] times) :=
  works_of_keeps h
    (keeps_of_same (quiet_addObserver hquiet label times) (Nat.le_succ _) rfl rfl) rfl

theorem works_watchEngine (h : Partnered spec first w) (hquiet : w.Quiet) (signal : EngineSignal)
    (label : String) (times : Nat) :
    Works spec first w (w.watchEngine signal label [] times).2 := by
  have hobserved : Works spec first w
      { w with engine := subscribed w.engine signal (.observer w.nextId) } :=
    works_of_keeps h (keeps_subscribed hquiet signal (.observer w.nextId)) rfl
  unfold watchEngine Engine.subscribe SignalBus.subscribe
  cases w.engine.bus.checkDeclared signal with
  | error cause => exact works_refl h hquiet
  | ok _ =>
      exact hobserved.trans (works_addObserver hobserved.partnered hobserved.quiet label times)

theorem works_watchSession (h : Partnered spec first w) (hquiet : w.Quiet) (signal : SessionSignal)
    (label : String) (times id : Nat) :
    Works spec first w (watchSession signal label [] times id w).2 := by
  unfold watchSession
  split
  · exact works_refl h hquiet
  · split
    · rename_i subscription bus _
      have hbus : Works spec first w (w.modifySession id fun s => { s with bus }) :=
        works_continues h ⟨[], (steady_modifySession hquiet id (by intro s; rfl)).idle rfl⟩
      exact hbus.trans (works_addObserver hbus.partnered hbus.quiet label times)
    · exact works_refl h hquiet

theorem works_watchEditor (h : Partnered spec first w) (hquiet : w.Quiet) (signal : EditorSignal)
    (label : String) (times : Nat) (e : Editor) :
    Works spec first w (watchEditor signal label [] times e w).2 := by
  unfold watchEditor
  split
  · rename_i subscription bus _
    have hbus : Works spec first w (w.modifyEditor fun e => { e with bus }) :=
      works_modifyEditor h hquiet (fun _ hmatched => hmatched.alike rfl rfl rfl rfl) fun _ hs => hs
    exact hbus.trans (works_addObserver hbus.partnered hbus.quiet label times)
  · exact works_refl h hquiet

/-! ## Commands to the editor -/

theorem works_destroyEditor (h : Partnered spec first w) (hquiet : w.Quiet)
    (heditor : w.editor = some e) : Works spec first w ((destroyEditor e).result w).2 := by
  cases hnext : e.state.next? .destroy with
  | none =>
      rw [result_destroyEditor_of_illegal heditor hnext]
      exact works_refl h hquiet
  | some state =>
      obtain ⟨rfl, -⟩ := state_of_destroy hnext
      have hadvance : Triple (fun v => v = w) (advance .destroy) (fun _ => Works spec first w)
          (fun _ => Works spec first w) := by
        rintro v rfl
        rw [result_advance_of_legal heditor hnext]
        exact works_modifyEditor h hquiet (fun _ hmatched => hmatched.alike rfl rfl rfl rfl)
          fun _ hediting => by cases hediting
      refine (destroyEditor_rule hadvance (fun part v hv => ?_) (fun v hv => ?_)
        fun _ _ hv => hv).result rfl
      · exact hv.trans (works_continues hv.partnered
          ⟨[], proceeds_interfaceNote hv.quiet e.frontend (.tornDown part)⟩)
      · exact hv.trans (works_modifyEditor hv.partnered hv.quiet
          (fun _ hmatched => hmatched.alike rfl rfl rfl rfl) fun _ hs => hs)

/-- The editor is nobody's partner any more. -/
theorem Departs.works {accepted : List Batch} {news : List (String × String)}
    (state : EditorState) (hstate : state ≠ .editing) (h : Departs spec first w accepted news w')
    (hpartnered : Partnered spec first w) (heditor : w.editor = some e)
    (heditor' : w'.editor = some { e.parted with state }) : Works spec first w w' := by
  have hmatched := hpartnered.matched e heditor
  refine ⟨⟨h.keeps, h.keeps.ordered hpartnered.ordered, fun e' he' => ?_⟩,
    fun e' he' hediting => ?_⟩
  all_goals obtain rfl := Option.some.inj (heditor'.symm.trans he')
  · refine ⟨hmatched.member, hmatched.frontend, fun number hnumber => ?_, fun id hid => ?_⟩
    · cases hnumber
    · cases hid
  · exact absurd hediting hstate

theorem works_closeDocument {options : EditorOptions}
    {base : List (Subscription EngineSignal EngineListener)} (h : Settled options base w)
    (hpartnered : Partnered spec first w) (heditor : w.editor = some e) :
    Works spec first w ((closeDocument conduct e).result w).2 := by
  cases hnext : e.state.next? .close with
  | none =>
      rw [result_closeDocument_of_illegal heditor hnext]
      exact works_refl hpartnered h.quiet
  | some state =>
      obtain ⟨-, hediting⟩ := state_of_close hnext
      obtain ⟨-, session, relay, hattached, hstage⟩ := h.stage_of_editing heditor hediting
      have hclose := triple_close hstage.quiet hstage.welcoming hpartnered heditor hediting
        hattached.session
      refine (hclose.mono (fun _ hv => hv) (fun _ v hv => ?_) fun cause v hv => ?_).result rfl
      · exact hv.2.works .closed (by decide) hpartnered heditor hv.2.editor
      · obtain ⟨accepted, hdeparts⟩ := hv.2.departs
        exact hdeparts.works .closing (by decide) hpartnered heditor hv.2.editor

theorem works_setUser (h : Partnered spec first w) (hquiet : w.Quiet) (user : MemberProperties) :
    Works spec first w ((setUser conduct e user).result w).2 := by
  have hset : Works spec first w (w.modifyEditor fun e => { e with user := user.withDefaults }) :=
    works_modifyEditor h hquiet (fun _ hmatched => hmatched.alike rfl rfl rfl rfl) fun _ hs => hs
  exact of_setUser hset fun session _ =>
    hset.trans (works_continues hset.partnered
      (continues_submission.edit hset.quiet session _))

/-- Commands to the editor, except that a document be opened. -/
theorem works_doEditor {options : EditorOptions}
    {base : List (Subscription EngineSignal EngineListener)} (h : Settled options base w)
    (hpartnered : Partnered spec first w) (heditor : w.editor = some e) (c : EditorCommand)
    (hc : ∀ url, c ≠ .open url) : Works spec first w (w.doEditor conduct e c).2 := by
  have hquiet := h.quiet
  cases c with
  | «open» url => exact absurd rfl (hc url)
  | close => exact of_reply (works_closeDocument h hpartnered heditor)
  | destroy => exact of_reply (works_destroyEditor hpartnered hquiet heditor)
  | setUser user => exact of_reply (works_setUser hpartnered hquiet user)
  | setMetadata set removed =>
      exact of_reply (of_setMetadata (works_refl hpartnered hquiet)
        (works_continues hpartnered (continues_submission.submit hquiet _)))
  | metadata property =>
      rw [doEditor_metadata_snd]
      exact works_refl hpartnered hquiet
  | setModified modified =>
      exact of_setModified (works_refl hpartnered hquiet) fun manager _ =>
        works_continues hpartnered
          ⟨[], (told_setModified conduct manager modified hquiet).proceeds⟩
  | unsubscribe signal id =>
      exact works_modifyEditor hpartnered hquiet
        (fun _ hmatched => hmatched.alike rfl rfl rfl rfl) fun _ hs => hs
  | status | profile | isModified => exact works_refl hpartnered hquiet

end Works

end Workspace

end Coedit
