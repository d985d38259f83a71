import Coedit.Proofs.Editor.Release

/-!
# What closing comes to

From an editor that is editing, closing succeeds just if the document is closable. Then the local
member's cursor and the local member were taken out after all that was accepted before, and new
subscriptions are gone but for those of observers. If closing fails, the editor stays closing,
and the failure is reported once.
-/

namespace Coedit

def Editor.parted (e : Editor) : Editor :=
  { e.silent with state := .closing, session := none, toolbar := { attached := false } }

def leavingBatches (member : MemberId) : List Batch :=
  [[.removeCursor member], [.removeMember member]]

namespace Workspace

open Attempt (Triple)
open Selection (unknownErrors)

def Closable (frontend : Frontend) (w : Workspace) : Prop :=
  w.engine.isOpen = true ∧ w.engine.closeFailure = none ∧
    ∀ part ∈ sessionParts, frontend.refuses part = false

/-- Since `start` these batches were accepted, and these unknown errors noted; new subscriptions
ended that were not observers'. -/
structure Departs (spec : EditorSpec) (first : Nat) (start : Workspace) (accepted : List Batch)
    (news : List (String × String)) (w : Workspace) : Prop where
  keeps : Keeps spec first start w
  adds : Adds unknownErrors news start w
  submitted : w.engine.submitted = start.engine.submitted ++ accepted
  upshot : w.engine.upshot =
    accepted.foldl (fun r batch => (r.applyBatch batch).1) start.engine.upshot
  fewer : w.engine.bus.subscriptions.Sublist start.engine.bus.subscriptions
  spared : ∀ s ∈ start.engine.bus.subscriptions, s.id < first ∨ s.handler.observer?.isSome →
    s ∈ w.engine.bus.subscriptions

section Departs

variable {spec : EditorSpec} {first id : Nat} {start w w' : Workspace} {accepted : List Batch}
  {news later : List (String × String)} {cur e : Editor} {door : Phase × Option String}

theorem Along.keeps (h : Along start accepted w) : Keeps spec first start w :=
  keeps_of_papers h.silent.quiet h.nextId h.bus h.papers ⟨accepted, h.submitted, h.upshot⟩

theorem Along.departs (h : Along start accepted w) : Departs spec first start accepted [] w := by
  refine ⟨h.keeps, h.silent, h.submitted, h.upshot, ?_, ?_⟩
  · rw [h.bus]
  · rw [h.bus]
    exact fun s hs _ => hs

theorem Departs.releases (h : Departs spec first start accepted news w)
    (hreleases : Releases spec first w w') : Departs spec first start accepted news w' := by
  obtain ⟨bus, hengine⟩ := hreleases.engine
  refine ⟨h.keeps.trans hreleases.keeps, ?_, ?_, ?_, hreleases.fewer.trans h.fewer,
    fun s hs hother => hreleases.spared s (h.spared s hs hother) hother⟩
  · have hadds := h.adds.trans hreleases.silent
    rw [List.append_nil] at hadds
    exact hadds
  · rw [hengine]
    exact h.submitted
  · rw [hengine]
    exact h.upshot

/-- More was noted, and nothing happened to the engine. -/
theorem Departs.then (h : Departs spec first start accepted news w)
    (hkeeps : Keeps spec first w w') (hengine : w'.engine = w.engine)
    (hadds : Adds unknownErrors later w w') :
    Departs spec first start accepted (news ++ later) w' := by
  refine ⟨h.keeps.trans hkeeps, h.adds.trans hadds, ?_, ?_, ?_, ?_⟩
  all_goals rw [hengine]
  · exact h.submitted
  · exact h.upshot
  · exact h.fewer
  · exact h.spared

/-- What became of the editor does not matter. -/
theorem Departs.modifyEditor (h : Departs spec first start accepted news w)
    (f : Editor → Editor) : Departs spec first start accepted news (w.modifyEditor f) := by
  have hkeeps : Keeps spec first w (w.modifyEditor f) :=
    keeps_of_same h.adds.quiet (Nat.le_refl _) rfl rfl
  have hthen := h.then hkeeps rfl (adds_of_unnoted h.adds.quiet rfl rfl)
  rw [List.append_nil] at hthen
  exact hthen

/-- After its own subscriptions ended, the editor is silent. -/
theorem Departs.detachRelays (h : Departs spec first start accepted news w)
    (heditor : w.editor = some cur)
    (hrelay : ∀ number, cur.metadataSubscription = some number → Fresh first number w) :
    Departs spec first start accepted news w.detachRelays ∧
      w.detachRelays.editor = some cur.silent ∧
      ∃ bus, w.detachRelays.engine = { w.engine with bus } := by
  obtain ⟨m, hended, heq⟩ : ∃ m, Releases spec first w m ∧ _ :=
    releases_detachRelays h.adds.quiet heditor hrelay
  rw [heq]
  refine ⟨(h.releases hended).modifyEditor _, ?_, hended.engine⟩
  rw [Workspace.modifyEditor, hended.editor, heditor]
  rfl

/-- The session takes the cursor of its editor's member out. -/
theorem scene_removeCursor (hstart : start.Welcoming) (hordered : Ordered first start)
    (hid : id < start.nextId) (hpartner : Partner spec first id start) {phase : Phase}
    {failure : Option String} :
    Triple (Scene start accepted cur (phase, failure)) (byEngine (removeCursor conduct id))
      (fun _ w => phase = .opened ∧
        Scene start (accepted ++ [[.removeCursor spec.member]]) cur (phase, failure) w)
      (fun _ w => phase ≠ .opened ∧ Scene start accepted cur (phase, failure) w) := by
  intro w hw
  have hkeeps : Keeps spec first start w := hw.along.keeps
  obtain ⟨s, hs, hmember, -⟩ := hkeeps.partner hordered id hid hpartner
  have hsubmit : (byEngine (removeCursor conduct id)).result w =
      (byEngine (submit conduct [.removeCursor spec.member])).result w := by
    simp only [byEngine, Attempt.result_of, removeCursor, submitFor, hs, hmember]
  rw [hsubmit]
  exact scene_submit hstart _ w hw

/-! ## Leaving a document -/

structure Left (spec : EditorSpec) (first : Nat) (start : Workspace) (e : Editor) (w : Workspace) :
    Prop extends Departs spec first start (leavingBatches spec.member) [] w where
  editor : w.editor = some e
  closed : w.engine.phase = .closed
  empty : w.engine.pending = []

/-- A document was left half-way. The editor may still relay the metadata. -/
structure Stuck (spec : EditorSpec) (first : Nat) (start : Workspace) (e : Editor) (w : Workspace) :
    Prop where
  departs : ∃ accepted, Departs spec first start accepted [] w
  editor : ∃ cur, w.editor = some cur ∧ cur.silent = e ∧
    ∀ number, cur.metadataSubscription = some number → Fresh first number w

structure Aborted (spec : EditorSpec) (first : Nat) (start : Workspace) (e : Editor)
    (cause : EditorError) (w : Workspace) : Prop where
  editor : w.editor = some e.parted
  departs : ∃ accepted, Departs spec first start accepted
    (start.notices unknownErrors (.editor (.unknownError cause.message))
      (e.bus.handlers .unknownError)) w

/-- What is left when the engine was closed is to give up the subscriptions and the session. -/
theorem destroySession_givenUp (hordered : Ordered first start) (hid : id < start.nextId)
    (hpartner : Partner spec first id start)
    (hrelay : ∀ number, cur.metadataSubscription = some number → Fresh first number start)
    (hw : Scene start (leavingBatches spec.member) cur (.closed, none) w)
    (hempty : w.engine.pending = []) :
    match w.detachRelays.destroySession id with
    | (.ok (), w') => (∀ part ∈ sessionParts, spec.frontend.refuses part = false) ∧
        Left spec first start cur.silent w'
    | (.error _, w') => (¬ ∀ part ∈ sessionParts, spec.frontend.refuses part = false) ∧
        Stuck spec first start cur.silent w' := by
  have hkeeps : Keeps spec first start w := hw.along.keeps
  have hclosed : w.engine.phase = .closed := congrArg Prod.fst hw.door
  obtain ⟨hsilent, heditor, bus, hengine⟩ := hw.along.departs.detachRelays hw.editor
    fun number hnumber => hkeeps.fresh hordered number (hrelay number hnumber)
  generalize w.detachRelays = v at hsilent heditor hengine ⊢
  have hpartner' := hsilent.keeps.partner hordered id hid hpartner
  have hdestroyed := releases_destroySession hsilent.adds.quiet (hsilent.keeps.ordered hordered)
    (Nat.lt_of_lt_of_le hid hsilent.keeps.nextId) hpartner'
  have hsucceeds := destroySession_succeeds_iff hpartner'
  cases hr : v.destroySession id with
  | mk answer w' =>
      rw [hr] at hsucceeds hdestroyed
      have hdeparts := hsilent.releases hdestroyed
      have heditor' := hdestroyed.editor.trans heditor
      obtain ⟨bus', hengine'⟩ := hdestroyed.engine
      cases answer with
      | ok _ =>
          refine ⟨hsucceeds.1 rfl, hdeparts, heditor', ?_, ?_⟩
          · rw [hengine', hengine]
            exact hclosed
          · rw [hengine', hengine]
            exact hempty
      | error cause =>
          refine ⟨fun hall => ?_, ⟨_, hdeparts⟩, cur.silent, heditor', rfl, ?_⟩
          · cases hsucceeds.2 hall
          · intro number hnumber
            cases hnumber

theorem triple_leave (hstart : start.Welcoming) (hordered : Ordered first start)
    (hid : id < start.nextId) (hpartner : Partner spec first id start)
    (hmember : e.member = spec.member)
    (hrelay : ∀ number, cur.metadataSubscription = some number → Fresh first number start) :
    Triple (Scene start [] cur start.door) (leaveDocument conduct e id)
      (fun _ w => Closable spec.frontend start ∧ Left spec first start cur.silent w)
      (fun _ w => ¬ Closable spec.frontend start ∧ Stuck spec first start cur.silent w) := by
  have hstuck : ∀ {accepted door w}, Scene start accepted cur door w →
      Stuck spec first start cur.silent w := fun hw =>
    have hkeeps : Keeps spec first start _ := hw.along.keeps
    ⟨⟨_, hw.along.departs⟩, cur, hw.editor, rfl, fun number hnumber =>
      hkeeps.fresh hordered number (hrelay number hnumber)⟩
  have hopen : start.engine.isOpen = true ↔ start.engine.phase = .opened := by
    simp [Engine.isOpen]
  by_cases hopened : start.engine.phase = .opened
  · have hclosable : Closable spec.frontend start ↔ start.engine.closeFailure = none ∧
        ∀ part ∈ sessionParts, spec.frontend.refuses part = false := by
      rw [Closable, hopen, hopened]
      simp
    have hdoor : start.door = (.opened, start.engine.closeFailure) := by
      rw [door, hopened]
    rw [hdoor]
    refine leaveDocument_rule
      (B := Scene start (leavingBatches spec.member) cur (.opened, start.engine.closeFailure))
      (D := fun v => ∃ w, v = w.detachRelays ∧ start.engine.closeFailure = none ∧
        Scene start (leavingBatches spec.member) cur (.closed, none) w ∧ w.engine.pending = [])
      ((scene_removeCursor hstart hordered hid hpartner).mono (fun _ h => h)
        (fun _ _ h => h.2) fun _ _ h => absurd rfl h.1)
      ((scene_submit hstart _).mono (fun _ h => h) (fun _ _ h => by rw [hmember] at h; exact h.2)
        fun _ _ h => absurd rfl h.1)
      (scene_closeEngine.mono (fun _ h => h) (fun _ _ h => h) fun _ _ h => ?_)
      (fun w h => ⟨w, rfl, h⟩) ?_
    · exact ⟨fun hall => h.1 (hclosable.1 hall).1, hstuck h.2⟩
    · rintro _ ⟨w, rfl, hfailure, hw, hempty⟩
      have hdone := destroySession_givenUp hordered hid hpartner hrelay hw hempty
      cases hr : w.detachRelays.destroySession id with
      | mk answer w' =>
          rw [hr] at hdone
          cases answer with
          | ok _ => exact ⟨hclosable.2 ⟨hfailure, hdone.1⟩, hdone.2⟩
          | error cause => exact ⟨fun hall => hdone.1 (hclosable.1 hall).2, hdone.2⟩
  · refine leaveDocument_rule (A := fun _ => False) (B := fun _ => False) (C := fun _ => False)
      (D := fun _ => False) ?_ (fun _ hw => hw.elim) (fun _ hw => hw.elim) (fun _ hw => hw)
      fun _ hw => hw.elim
    refine (scene_removeCursor hstart hordered hid hpartner).mono (fun _ h => h)
      (fun _ _ h => hopened h.1) fun _ _ h => ⟨fun hall => hopened (hopen.1 hall.1), hstuck h.2⟩

/-! ## The whole way -/

theorem editor?_self (heditor : w.editor = some e) : w.editor? e.id = some e := by
  simp [editor?, heditor]

/-- What a failure leads to: the editor goes silent, and tells its subscribers of it. -/
theorem Stuck.abort (h : Stuck spec first start e.parted w) (id : Nat) (cause : EditorError) :
    Aborted spec first start e cause
      ((w.detachRelays.report conduct e.id (.unknownError cause.message)).dropSession id) := by
  obtain ⟨⟨accepted, hdeparts⟩, cur, hcur, hsilent, hrelay⟩ := h
  obtain ⟨hdeparts', hparted, -⟩ := hdeparts.detachRelays hcur hrelay
  rw [hsilent] at hparted
  have hquiet := hdeparts'.adds.quiet
  have htold := told_report conduct e.id (.unknownError cause.message) hquiet
  have hadds : Adds unknownErrors _ w.detachRelays
      (w.detachRelays.report conduct e.id (.unknownError cause.message)) :=
    adds_reportTo conduct (editor?_self hparted) (.unknownError cause.message) hquiet
  rw [hdeparts'.adds.notices] at hadds
  have hreported := hdeparts'.then htold.proceeds.keeps htold.heard.engine hadds
  have hdropped := proceeds_dropSession htold.quiet id
  have hend := hreported.then hdropped.keeps rfl (adds_of_unnoted htold.quiet rfl rfl)
  rw [List.append_nil, List.nil_append] at hend
  exact ⟨(hdropped.editor.trans htold.proceeds.editor).trans hparted, accepted, hend⟩

theorem Left.close (h : Left spec first start e.parted w) :
    Left spec first start { e.parted with state := .closed }
      (w.modifyEditor fun e => { e with state := .closed }) := by
  refine ⟨h.toDeparts.modifyEditor _, ?_, h.closed, h.empty⟩
  rw [modifyEditor, h.editor]
  rfl

/-- Closing a document that an editor is editing. -/
theorem triple_close (hquiet : start.Quiet) (hstart : start.Welcoming)
    (hpartnered : Partnered spec first start) (heditor : start.editor = some e)
    (hediting : e.state = .editing) (hsession : e.session = some id) :
    Triple (fun w => w = start) (closeDocument conduct e)
      (fun _ w => Closable spec.frontend start ∧
        Left spec first start { e.parted with state := .closed } w)
      (fun cause w => ¬ Closable spec.frontend start ∧ Aborted spec first start e cause w) := by
  have hmatched := hpartnered.matched e heditor
  obtain ⟨hid, hpartner⟩ := hmatched.session id hsession
  let closing : Editor := { e with state := .closing }
  let alone : Editor := { closing with session := none }
  let detached : Editor := { alone with toolbar := { attached := false } }
  have hnext : e.state.next? .close = some .closing := by
    rw [hediting]
    rfl
  have hscene : Scene start [] e start.door start := ⟨⟨rfl, rfl, Nat.le_refl _, fun _ => rfl,
    (List.append_nil _).symm, rfl, Adds.refl hquiet⟩, heditor, rfl⟩
  have hadvance : Triple (fun w => w = start) (advance .close)
      (fun _ => Scene start [] closing start.door)
      (fun cause w => ¬ Closable spec.frontend start ∧ Aborted spec first start e cause w) := by
    rintro w rfl
    rw [result_advance_of_legal heditor hnext]
    exact hscene.modifyEditor fun e => { e with state := .closing }
  have hleave : Triple (Scene start [] detached start.door) (leaveDocument conduct e id)
      (fun _ w => Closable spec.frontend start ∧ Left spec first start e.parted w)
      (fun _ w => ¬ Closable spec.frontend start ∧ Stuck spec first start e.parted w) :=
    triple_leave hstart hpartnered.ordered hid hpartner hmatched.member hmatched.relay
  have hclosed : Triple (fun w => Closable spec.frontend start ∧ Left spec first start e.parted w)
      (advance .closed)
      (fun _ w => Closable spec.frontend start ∧
        Left spec first start { e.parted with state := .closed } w)
      (fun cause w => ¬ Closable spec.frontend start ∧ Aborted spec first start e cause w) := by
    rintro w ⟨hclosable, hleft⟩
    rw [result_advance_of_legal hleft.editor rfl]
    exact ⟨hclosable, hleft.close⟩
  exact closeDocument_rule hsession hadvance
    (fun _ hw => hw.modifyEditor fun e => { e with session := none })
    (fun _ hw => hw.setEditing id false) (fun _ hw => hw.attachToolbar e false) hleave
    (fun cause _ hw => ⟨hw.1, hw.2.abort id cause⟩) hclosed

end Departs

end Workspace

end Coedit
