import Coedit.Proofs.Editor.FailedOpening

/-!
# Calls out of order

The editor asks the lifecycle for leave before it does anything. So a call that its state does not
allow changes nothing at all, and one that needs a session is refused wherever none is open. Two
states have no way out: an editor that failed to close its document, and one that was destroyed,
stay what they are, whatever they and their engine are asked for, by whomever.
-/

namespace Coedit

/-- The way of a command through the lifecycle: the step that it begins with, where it gets to,
and where it is left if something fails on the way. -/
structure Course where
  action : EditorAction
  goal : EditorState
  fallback : EditorState

def EditorCommand.course? : EditorCommand → Option Course
  | .open _ => some { action := .open, goal := .editing, fallback := .closed }
  | .close => some { action := .close, goal := .closed, fallback := .closing }
  | .destroy => some { action := .destroy, goal := .destroyed, fallback := .destroyed }
  | _ => none

/-- Commands that only an editor with an open session can carry out. -/
def Command.needsSession : Command → Bool
  | .session _ | .input _ | .watchSession _ _ _ _ => true
  | .editor (.setMetadata _ _) | .editor (.metadata _) => true
  | _ => false

mutual

/-- Commands that put no other editor in the place of the present one, nor lead others to. -/
def Command.keepsEditor : Command → Bool
  | .newEditor _ => false
  | .watchEngine _ _ actions _ | .watchSession _ _ actions _ | .watchEditor _ _ actions _ =>
    Command.allKeepEditor actions
  | _ => true

def Command.allKeepEditor : List Command → Bool
  | [] => true
  | c :: rest => c.keepsEditor && Command.allKeepEditor rest

end

theorem Command.allKeepEditor_iff {l : List Command} :
    Command.allKeepEditor l = true ↔ ∀ c ∈ l, c.keepsEditor = true := by
  induction l with
  | nil => simp [Command.allKeepEditor]
  | cons c rest ih => simp [Command.allKeepEditor, ih]

/-- No step of the lifecycle that can be asked for leads out of the state. -/
def EditorState.Final (s : EditorState) : Prop := s = .closing ∨ s = .destroyed

theorem EditorState.Final.refuses {s : EditorState} (h : s.Final) {c : EditorCommand}
    {course : Course} (hcourse : c.course? = some course) : s.next? course.action = none := by
  cases c with
  | «open» | close | destroy =>
      obtain rfl := Option.some.inj hcourse
      rcases h with rfl | rfl <;> rfl
  | _ => cases hcourse

theorem EditorState.Final.ne_editing {s : EditorState} (h : s.Final) : s ≠ .editing := by
  rintro rfl
  rcases h with h | h <;> cases h

namespace Workspace

open Attempt (Triple)

/-! ## Calls that are refused -/

section Refused

variable {e : Editor} {w : Workspace} {act : Conduct} {course : Course}

theorem doEditor_of_illegal (he : w.editor = some e) {c : EditorCommand}
    (hcourse : c.course? = some course) (hnext : e.state.next? course.action = none) :
    w.doEditor act e c =
      (.failed (.editor (.illegalTransition { state := e.state, action := course.action })),
        w) := by
  have hrefused := result_advance_of_illegal he hnext
  cases c with
  | «open» url =>
      obtain rfl := Option.some.inj hcourse
      rw [doEditor, openDocument, Attempt.result_bind_of_error hrefused]
      rfl
  | close =>
      obtain rfl := Option.some.inj hcourse
      rw [doEditor, closeDocument, Attempt.result_bind_of_error hrefused]
      rfl
  | destroy =>
      obtain rfl := Option.some.inj hcourse
      rw [doEditor, destroyEditor, Attempt.result_bind_of_error hrefused]
      rfl
  | _ => cases hcourse

theorem openSession?_of_ne_editing (h : e.state ≠ .editing) : openSession? e = none := by
  unfold openSession?
  rw [if_neg h]

/-- A job that changes nothing gives the object back as it was. -/
theorem holding_of_unchanged {place : Place} {access : Access}
    {job : Workspace → Reply × Workspace} {reply : Reply} (hfree : w.isFree place access = true)
    (hjob : ∀ w' : Workspace, w'.editor = w.editor → job w' = (reply, w')) :
    w.holding place access job = (reply, w) := by
  have hdone := hjob { w with holds := (place, access) :: w.holds } rfl
  unfold holding
  rw [if_pos hfree, hdone]

theorem isFree_of_exclusive {place : Place} (hfree : w.isFree place .exclusive = true)
    (access : Access) : w.isFree place access = true := by
  refine List.all_eq_true.2 fun h hmem => ?_
  have hother := List.all_eq_true.1 hfree h hmem
  revert hother
  cases access <;> cases h.2 <;> simp

theorem execute_of_illegal (he : w.editor = some e) (hfree : w.isFree .editor .exclusive = true)
    {c : EditorCommand} (hcourse : c.course? = some course)
    (hnext : e.state.next? course.action = none) :
    w.execute (.editor c) =
      (.failed (.editor (.illegalTransition { state := e.state, action := course.action })),
        w) := by
  rw [execute_eq_step, step, withEditor, he]
  exact holding_of_unchanged (isFree_of_exclusive hfree _) fun w' hw' =>
    doEditor_of_illegal (hw'.trans he) hcourse hnext

theorem meantSession_of_ne_editing (he : w.editor = some e) (hstate : e.state ≠ .editing) :
    w.meantSession = some (.editor, none) := by
  unfold meantSession
  simp only [he, openSession?_of_ne_editing hstate]

theorem withSession_of_ne_editing (he : w.editor = some e) (hstate : e.state ≠ .editing)
    (hfree : w.isFree .editor .exclusive = true) (access : Access)
    (job : Nat → Workspace → Reply × Workspace) :
    w.withSession access job = (.failed (.editor .noSession), w) := by
  unfold withSession
  rw [meantSession_of_ne_editing he hstate]
  exact holding_of_unchanged (isFree_of_exclusive hfree access) fun _ _ => rfl

theorem execute_of_no_session (he : w.editor = some e) (hstate : e.state ≠ .editing)
    (hfree : w.isFree .editor .exclusive = true) {c : Command} (hc : c.needsSession = true) :
    w.execute c = (.failed (.editor .noSession), w) := by
  have hsession := @withSession_of_ne_editing e w he hstate hfree
  have hnone := openSession?_of_ne_editing hstate
  rw [execute_eq_step]
  cases c with
  | session | input | watchSession => exact hsession _ _
  | editor c =>
      rw [step, withEditor, he]
      refine holding_of_unchanged (isFree_of_exclusive hfree _) fun w' _ => ?_
      cases c with
      | setMetadata set removed =>
          rw [doEditor, setMetadata, hnone]
          rfl
      | metadata property => rw [doEditor, metadata?, hnone]
      | _ => cases hc
  | _ => cases hc

end Refused

/-! ## Calls that are allowed -/

section Allowed

variable {e : Editor} {w : Workspace} {course : Course}

/-- A command gets where it was going, or is left where it falls back to. -/
def Arrives (course : Course) (outcome : Reply × Workspace) : Prop :=
  ∃ e, outcome.2.editor = some e ∧
    (outcome.1 = .done ∧ e.state = course.goal ∨
      (∃ cause, outcome.1 = .failed (.editor cause)) ∧ e.state = course.fallback)

theorem arrives_of_triple {holds : List (Place × Access)} {a : Attempt EditorError Unit}
    (h : Triple (Underway holds fun e' => e' = e) a
      (fun _ => Underway holds fun e => e.state = course.goal)
      (fun _ => Underway holds fun e => e.state = course.fallback))
    (hw : Underway holds (fun e' => e' = e) w) : Arrives course (reply .editor (a.result w)) := by
  have hdone := h w hw
  cases hr : a.result w with
  | mk answer w' =>
      rw [hr] at hdone
      cases answer with
      | ok _ =>
          obtain ⟨e', he', hgoal⟩ := hdone.editor
          exact ⟨e', he', .inl ⟨rfl, hgoal⟩⟩
      | error cause =>
          obtain ⟨e', he', hfallback⟩ := hdone.editor
          exact ⟨e', he', .inr ⟨⟨cause, rfl⟩, hfallback⟩⟩

/-- None of the further steps of the lifecycle is refused on the way. -/
theorem arrives_doEditor {holds : List (Place × Access)} (hheld : (.editor, .exclusive) ∈ holds)
    (hready : e.Ready) {c : EditorCommand} (hcourse : c.course? = some course)
    (hlegal : e.state.next? course.action ≠ none)
    (hw : Underway holds (fun e' => e' = e) w) : Arrives course (w.doEditor conduct e c) := by
  obtain ⟨state, hnext⟩ := Option.ne_none_iff_exists'.1 hlegal
  cases c with
  | «open» url =>
      obtain rfl := Option.some.inj hcourse
      obtain ⟨rfl, -⟩ := state_of_open hnext
      exact arrives_of_triple ((triple_openDocument_held tends_conduct hheld
        (hready (canOpen_of_next hnext)) hnext w.files url {}).mono (fun _ hw => hw)
        (fun _ _ hw => hw) fun _ _ hw => hw.mono fun _ hclosed => hclosed.1) hw
  | close =>
      obtain rfl := Option.some.inj hcourse
      obtain ⟨rfl, -⟩ := state_of_close hnext
      exact arrives_of_triple ((triple_closeDocument_held tends_conduct hheld hnext).mono
        (fun _ hw => hw) (fun _ _ hw => hw.mono fun _ hclosed => hclosed.1) fun _ _ hw => hw) hw
  | destroy =>
      obtain rfl := Option.some.inj hcourse
      obtain ⟨rfl, -⟩ := state_of_destroy hnext
      exact arrives_of_triple (triple_destroyEditor_held hnext) hw
  | _ => cases hcourse

theorem arrives_execute (he : w.editor = some e) (hfree : w.isFree .editor .exclusive = true)
    (horderly : w.Orderly) {c : EditorCommand} (hcourse : c.course? = some course)
    (hlegal : e.state.next? course.action ≠ none) : Arrives course (w.execute (.editor c)) := by
  have haccess : editorAccess c = .exclusive := by
    cases c <;> first | rfl | cases hcourse
  have hdone := arrives_doEditor (w := { w with holds := (.editor, .exclusive) :: w.holds })
    List.mem_cons_self (horderly.ready e he) hcourse hlegal ⟨horderly.numbered, rfl, e, he, rfl⟩
  rw [execute_eq_step, step, withEditor, he, haccess]
  simp only [holding, if_pos hfree]
  exact hdone

end Allowed

/-! ## Where there is no way out -/

structure Stranded (state : EditorState) (w : Workspace) : Prop where
  editor : ∃ e, w.editor = some e ∧ e.state = state
  gives : Agenda.ObserversGive (fun c => c.keepsEditor = true) w

section Stranded

variable {state : EditorState} {w : Workspace} {act : Conduct}

/-- Nobody but the editor changes its state. -/
theorem enduring_stranded
    (h : ∀ c w, c.keepsEditor = true → Stranded state w → Stranded state (act c w).2) :
    Enduring act (fun c => c.keepsEditor = true) (Stranded state) where
  passing := fun hw hpassing => ⟨by rw [hpassing.editor]; exact hw.editor, hpassing.gives hw.gives⟩
  gives := fun hw => hw.gives
  acts := fun hw hc => h _ _ hc hw
  apart := fun hw ha => ⟨by rw [ha.editor]; exact hw.editor, ha.gives hw.gives⟩
  observed := fun hw hactions => ⟨hw.editor, Agenda.observers_addObserver hw.gives _ hactions _⟩

theorem Stranded.modifyEditor {f : Editor → Editor} (hw : Stranded state w)
    (hf : ∀ e, (f e).state = e.state) : Stranded state (w.modifyEditor f) := by
  obtain ⟨e, he, hstate⟩ := hw.editor
  exact ⟨⟨f e, by simp [Workspace.modifyEditor, he], (hf e).trans hstate⟩, hw.gives⟩

theorem stranded_holding {place : Place} {access : Access}
    {job : Workspace → Reply × Workspace} (hw : Stranded state w)
    (hjob : ∀ w', w'.editor = w.editor → Stranded state w' → Stranded state (job w').2) :
    Stranded state (w.holding place access job).2 := by
  unfold holding
  split
  · have hdone := hjob { w with holds := (place, access) :: w.holds } rfl ⟨hw.editor, hw.gives⟩
    exact ⟨hdone.editor, hdone.gives⟩
  · exact hw

theorem stranded_withSession (hstate : state.Final) {access : Access}
    {job : Nat → Workspace → Reply × Workspace} (hw : Stranded state w) :
    Stranded state (w.withSession access job).2 := by
  obtain ⟨e, he, rfl⟩ := hw.editor
  unfold withSession
  rw [meantSession_of_ne_editing he hstate.ne_editing]
  exact stranded_holding hw fun _ _ hw => hw

theorem stranded_withEditor {access : Access} {job : Editor → Workspace → Reply × Workspace}
    (hw : Stranded state w)
    (hjob : ∀ e w', w'.editor = some e → e.state = state → Stranded state w' →
      Stranded state (job e w').2) : Stranded state (w.withEditor access job).2 := by
  obtain ⟨e, he, hstate⟩ := hw.editor
  unfold withEditor
  rw [he]
  exact stranded_holding hw fun w' hsame hw' => hjob e w' (hsame.trans he) hstate hw'

theorem stranded_doEditor (hfinal : state.Final)
    (h : Enduring act (fun c => c.keepsEditor = true) (Stranded state)) {e : Editor}
    (he : w.editor = some e) (hstate : e.state = state) (hw : Stranded state w)
    (c : EditorCommand) : Stranded state (w.doEditor act e c).2 := by
  have hnone : openSession? e = none := openSession?_of_ne_editing (hstate ▸ hfinal.ne_editing)
  have hrefused : ∀ course, c.course? = some course → Stranded state (w.doEditor act e c).2 := by
    intro course hcourse
    rw [doEditor_of_illegal he hcourse (hstate ▸ hfinal.refuses hcourse)]
    exact hw
  cases c with
  | «open» | close | destroy => exact hrefused _ rfl
  | setUser user =>
      rw [doEditor, reply_snd, setUser, hnone]
      exact hw.modifyEditor fun _ => rfl
  | status | profile | isModified => exact hw
  | setMetadata set removed =>
      rw [doEditor, setMetadata, hnone]
      exact hw
  | metadata property =>
      rw [doEditor_metadata_snd]
      exact hw
  | setModified modified => exact of_setModified hw fun id _ => h.setModified id modified hw
  | unsubscribe signal id => exact hw.modifyEditor fun _ => rfl

theorem stranded_watchEditor
    (h : Enduring act (fun c => c.keepsEditor = true) (Stranded state)) (hw : Stranded state w)
    (e : Editor) (signal : EditorSignal) (label : String) {actions : List Command}
    (hactions : ∀ c ∈ actions, c.keepsEditor = true) (times : Nat) :
    Stranded state (w.watchEditor signal label actions times e).2 := by
  unfold watchEditor
  cases e.bus.subscribe signal w.nextId with
  | error cause => exact hw
  | ok made => exact h.observed (hw.modifyEditor fun _ => rfl) hactions

theorem stranded_step (hfinal : state.Final)
    (h : Enduring act (fun c => c.keepsEditor = true) (Stranded state)) {c : Command}
    (hc : c.keepsEditor = true) (hw : Stranded state w) : Stranded state (step act c w).2 := by
  cases c with
  | engine c => exact h.doEngine hw c
  | session | input | watchSession => exact stranded_withSession hfinal hw
  | editor c =>
      exact stranded_withEditor hw fun e w' he hstate hw' =>
        stranded_doEditor hfinal h he hstate hw' c
  | newSession spec => exact h.apart hw (apart_newSession spec w)
  | destroySession =>
      unfold step destroyStandalone
      cases w.standalone with
      | none => exact hw
      | some id =>
          refine stranded_holding hw fun w' _ hw' => ?_
          rw [reply_snd]
          have hlet : Apart w' { w' with standalone := none } := apart_of_same rfl rfl rfl rfl
          exact h.apart hw' (hlet.trans (apart_unwinding.destroySession id _))
  | newEditor spec => cases hc
  | watchEngine signal label actions times =>
      exact h.watchEngine hw signal label (Command.allKeepEditor_iff.1 hc) times
  | watchEditor signal label actions times =>
      exact stranded_withEditor hw fun e _ _ _ hw' =>
        stranded_watchEditor h hw' e signal label (Command.allKeepEditor_iff.1 hc) times
  | undecodable => exact hw

theorem stranded_perform (hfinal : state.Final) (depth : Nat) (c : Command) (w : Workspace)
    (hc : c.keepsEditor = true) (hw : Stranded state w) :
    Stranded state (perform depth c w).2 := by
  induction depth generalizing c w with
  | zero => exact hw
  | succ depth ih => exact stranded_step hfinal (enduring_stranded ih) hc hw

/-- Whatever is asked for, the editor stays what it is. -/
theorem stranded_run (hfinal : state.Final) (hw : Stranded state w) {later : List Command}
    (hlater : ∀ c ∈ later, c.keepsEditor = true) :
    Stranded state (later.foldl (fun w c => (w.execute c).2) w) :=
  List.foldlRecOn later _ hw fun w hw c hc => stranded_perform hfinal _ c w (hlater c hc) hw

end Stranded

/-- No later commands, nor those that observers give on the way, change the state of the editor or
give it a session; only another editor may take its place. -/
def DeadEnd (state : EditorState) (w : Workspace) : Prop :=
  Agenda.ObserversGive (fun c => c.keepsEditor = true) w →
    ∀ later : List Command, (∀ c ∈ later, c.keepsEditor = true) →
      ∃ e, (later.foldl (fun w c => (w.execute c).2) w).editor = some e ∧ e.state = state ∧
        openSession? e = none

theorem deadEnd_of_final {w : Workspace} {e : Editor} (he : w.editor = some e)
    (hfinal : e.state.Final) : DeadEnd e.state w := by
  intro hgives later hlater
  obtain ⟨e', he', hstate⟩ := (stranded_run hfinal ⟨⟨e, he, rfl⟩, hgives⟩ hlater).editor
  exact ⟨e', he', hstate, openSession?_of_ne_editing (hstate ▸ hfinal.ne_editing)⟩

/-- At any moment of any run at which nobody holds the editor, what its state does not allow is
refused and changes nothing, and so is what needs a session while none is open. What its state does
allow is never refused on the way: it gets to its goal, or fails and is left where it falls back
to. A close that failed and a destruction, whether or not the chrome gave way, are for good. -/
theorem calls_out_of_order_inert {w : Workspace} (hreached : Reached w) {e : Editor}
    (he : w.editor = some e) (hfree : w.isFree .editor .exclusive = true) :
    (∀ (c : EditorCommand) (course : Course), c.course? = some course →
      (e.state.next? course.action = none → w.execute (.editor c) =
        (.failed (.editor (.illegalTransition { state := e.state, action := course.action })), w)) ∧
      (e.state.next? course.action ≠ none → Arrives course (w.execute (.editor c)) ∧
        ∀ e', (w.execute (.editor c)).2.editor = some e' → e'.state.Final →
          DeadEnd e'.state (w.execute (.editor c)).2)) ∧
    (e.state ≠ .editing → ∀ c : Command, c.needsSession = true →
      w.execute c = (.failed (.editor .noSession), w)) ∧
    (e.state.Final → DeadEnd e.state w) :=
  ⟨fun _ _ hcourse =>
      ⟨execute_of_illegal he hfree hcourse, fun hlegal =>
        ⟨arrives_execute he hfree hreached.orderly hcourse hlegal, fun _ => deadEnd_of_final⟩⟩,
    fun hstate _ hc => execute_of_no_session he hstate hfree hc, deadEnd_of_final he⟩

def failedToClose : Workspace :=
  ((Agenda.start [.newEditor { member := ⟨"m"⟩, options := { allFeatures := true } },
    .engine (.register "d" {}), .editor (.open "d"), .engine (.failNextClose "refused"),
    .editor .close] {}).after 5).workspace

theorem calls_inert_after_failed_close :
    failedToClose.execute (.editor (.open "d")) =
        (.failed (.editor (.illegalTransition { state := .closing, action := .open })),
          failedToClose) ∧
      failedToClose.execute (.editor (.metadata "title")) =
        (.failed (.editor .noSession), failedToClose) ∧
      DeadEnd .closing failedToClose := by
  obtain ⟨e, he, hfree, hstate⟩ : ∃ e, failedToClose.editor = some e ∧
      failedToClose.isFree .editor .exclusive = true ∧ e.state = .closing := ⟨_, rfl, rfl, rfl⟩
  obtain ⟨hcalls, hsession, hdead⟩ := calls_out_of_order_inert (.run (.start {}) _ _) he hfree
  rw [hstate] at hcalls hsession hdead
  exact ⟨(hcalls (.open "d") _ rfl).1 rfl, hsession (by decide) _ rfl, hdead (.inl rfl)⟩

end Workspace

end Coedit
