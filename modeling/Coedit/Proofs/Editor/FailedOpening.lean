import Coedit.Proofs.Editor.Setbacks

/-!
# Openings that fail

An opening that fails leaves the editor closed and holding nothing. Two things are not given
back, though: the subscriptions of a session and of its input controller stay on the engine's
bus, and the toolbar is not told that the session is gone. So an opening that failed has left no
trace just if it failed before there was a session.
-/

namespace Coedit.Workspace

open Attempt (Triple)

variable {start w : Workspace} {e : Editor} {faults : InputFaults} {url : String}

/-- What is left of an opening that failed at `o`, with the editor in this state. -/
def Remains (start : Workspace) (e : Editor) (o : Obstacle) (state : EditorState) (w : Workspace) :
    Prop :=
  ∃ bus, Standing start.holds { e with state, toolbar := o.toolbar e } bus w ∧
    bus.subscriptions = (o.bus e start).subscriptions

theorem triple_loadFailed_remains {o : Obstacle} :
    Triple (Remains start e o .loading) (advance .loadFailed)
      (fun _ => Remains start e o .closed) (fun _ => Remains start e o .closed) := by
  rintro w ⟨bus, hw, hbus⟩
  rw [result_advance_of_legal hw.editor rfl]
  exact ⟨bus, hw.modifyEditor fun e => { e with state := .closed }, hbus⟩

/-- The document is loaded, or the opening has failed at it. -/
theorem triple_readDocument (horderly : start.Orderly) (he : start.editor = some e)
    (hgives : Agenda.ObserversGive (fun c => c.sparesEngine = true) start)
    (faults : InputFaults) (url : String) :
    Triple (fun w => w = start.modifyEditor fun e => { e with state := .loading })
      (byEngine (loadDocument start.files url))
      (fun _ w => obstacle faults url e start = sessionObstacle faults e start ∧
        Prepared start start.nextId { e with state := .loading } start.engine.bus w)
      (fun _ => Remains start e (obstacle faults url e start) .loading) := by
  rintro w rfl
  have hopening : Standing start.holds { e with state := .loading } start.engine.bus
      (start.modifyEditor fun e => { e with state := .loading }) :=
    Standing.modifyEditor ⟨rfl, he, rfl, hgives⟩ fun e => { e with state := .loading }
  have hengine : (start.modifyEditor fun e => { e with state := .loading }).engine =
      start.engine := rfl
  rw [byEngine, Attempt.result_of, loadDocument, Engine.load, hengine]
  cases hfind : start.engine.find start.files url with
  | error cause =>
      have hobstacle : obstacle faults url e start = .document := by simp [obstacle, hfind]
      rw [hobstacle]
      exact ⟨_, hopening, rfl⟩
  | ok document =>
      have hobstacle : obstacle faults url e start = sessionObstacle faults e start := by
        simp [obstacle, hfind]
      exact ⟨hobstacle, ⟨rfl, hopening.editor, rfl, hgives⟩, rfl, rfl, horderly.numbered, rfl, rfl⟩

/-- What was acquired is given up, as far as the editor knows of it. -/
theorem Halted.abandonOpening {o : Obstacle} (hheld : (.editor, .exclusive) ∈ start.holds)
    (h : Halted start { e with state := .loading } o w) :
    Remains start e o .loading (w.abandonOpening conduct) := by
  obtain ⟨e', bus, hw, hsilent, hbus⟩ := h
  have habandoned := standing_abandonOpening hheld hw
  rw [hsilent] at habandoned
  refine ⟨_, ?_, hbus.trans ?_⟩
  · cases o <;> exact habandoned
  · cases o <;> rfl

theorem triple_openDocument_remains (hheld : (.editor, .exclusive) ∈ start.holds)
    (horderly : start.Orderly) (he : start.editor = some e) (hcan : e.state.canOpen = true)
    (hgives : Agenda.ObserversGive (fun c => c.sparesEngine = true) start)
    (faults : InputFaults) (url : String) :
    Triple (fun w => w = start) (openDocument conduct start.files e url faults)
      (fun _ _ => True) (fun _ => Remains start e (obstacle faults url e start) .closed) := by
  have hbare : e.Bare := horderly.ready e he hcan
  obtain ⟨state, hnext⟩ := Option.isSome_iff_exists.1 hcan
  obtain ⟨rfl, -⟩ := state_of_open hnext
  have hopen : Triple (fun w => w = start) (advance .open)
      (fun _ w => w = start.modifyEditor fun e => { e with state := .loading })
      (fun _ => Remains start e (obstacle faults url e start) .closed) := by
    rintro w rfl
    rw [result_advance_of_legal he hnext]
  have hstart : Triple (fun w => obstacle faults url e start = sessionObstacle faults e start ∧
        Prepared start start.nextId { e with state := .loading } start.engine.bus w)
      (startSession conduct e faults) (fun _ => StillLoading start)
      (fun _ => Halted start { e with state := .loading } (obstacle faults url e start)) := by
    rintro w ⟨hobstacle, hw⟩
    rw [hobstacle]
    exact triple_startSession_or_halt hheld rfl (hbare.inState .loading) rfl w hw
  have hready : Triple (StillLoading start) (advance .ready) (fun _ _ => True)
      (fun _ => Remains start e (obstacle faults url e start) .closed) := by
    rintro w ⟨e', bus, hw, hloading⟩
    have hnext' : e'.state.next? .ready = some .editing := by
      rw [hloading]
      rfl
    rw [result_advance_of_legal hw.editor hnext']
    trivial
  exact openDocument_rule hopen (triple_readDocument horderly he hgives faults url) hstart
    (fun _ hw => hw.abandonOpening hheld) (fun _ => triple_loadFailed_remains) hready

/-! ## Every opening that fails -/

/-- A workspace at some moment of some run, which may be in the midst of a delivery. Documents may
have been opened with faulty input controllers as well. -/
inductive Reached : Workspace → Prop where
  | start (files : FileTree) : Reached { files }
  | run {w : Workspace} (h : Reached w) (commands : List Command) (n : Nat) :
      Reached ((Agenda.start commands w).after n).workspace
  | opening {w : Workspace} (h : Reached w) (faults : InputFaults) (url : String) :
      Reached (openOn faults url w).2

theorem orderly_openOn (h : w.Orderly) (faults : InputFaults) (url : String) :
    (openOn faults url w).2.Orderly := by
  have hstart : Tended w.holds w.editor w := ⟨h, rfl, fun _ => rfl⟩
  refine (tended_withEditor hstart fun e w' _ hw' => ?_).toOrderly
  rw [reply_snd]
  exact orderly_openDocument tends_conduct List.mem_cons_self hw' w'.files url faults

theorem Reached.orderly (h : Reached w) : w.Orderly := by
  induction h with
  | start files =>
      refine ⟨fun _ he => ?_, fun _ hs => ?_⟩
      · cases he
      · cases hs
  | run _ commands n ih => exact Agenda.orderly_after ih n
  | opening _ faults url ih => exact orderly_openOn ih faults url

/-- The editor is closed and holds nothing, its toolbar was not told of a session after the last
one had gone, and every signal has the subscriptions that it had. -/
structure Restored (w w' : Workspace) : Prop where
  editor : ∃ e, w'.editor = some e ∧ e.state = .closed ∧ e.Detached
  subscriptions : ∀ signal,
    w'.engine.bus.subscriptions.filter (·.kind == signal) =
      w.engine.bus.subscriptions.filter (·.kind == signal)

/-- Nothing is left on the engine's bus just if no session was started. -/
theorem left_eq_nil_iff {o : Obstacle} {e : Editor} {w : Workspace} :
    o.left e w = [] ↔ o = .document ∨ o = .relay := by
  cases o <;> simp [Obstacle.left, relays, relayedSignals]

theorem left_of_restored {w w' : Workspace} {left : List (Subscription EngineSignal EngineListener)}
    (h : Restored w w')
    (hleft : w'.engine.bus.subscriptions = w.engine.bus.subscriptions ++ left) : left = [] := by
  refine List.eq_nil_iff_forall_not_mem.2 fun s hs => ?_
  have hsame := h.subscriptions s.kind
  rw [hleft, List.filter_append] at hsame
  have hnone : left.filter (·.kind == s.kind) = [] := by
    simpa using congrArg List.length hsame
  have hmem : s ∈ left.filter (·.kind == s.kind) := List.mem_filter.2 ⟨hs, by simp⟩
  rw [hnone] at hmem
  cases hmem

/-- An opening that failed got hold of the editor, and lets go of it again. -/
theorem attempt_of_failed (he : w.editor = some e) {cause : EditorError}
    (hfailed : (openOn faults url w).1 = .failed (.editor cause)) :
    ∃ w', (openDocument conduct w.files e url faults).result
        { w with holds := (.editor, .exclusive) :: w.holds } = (.error cause, w') ∧
      (openOn faults url w).2 = { w' with holds := w.holds } := by
  have hholding : openOn faults url w = w.holding .editor .exclusive fun w =>
      reply .editor ((openDocument conduct w.files e url faults).result w) := by
    unfold openOn withEditor
    rw [he]
  unfold holding at hholding
  rw [hholding] at hfailed ⊢
  cases hfree : w.isFree .editor .exclusive with
  | false =>
      rw [hfree, if_neg Bool.false_ne_true] at hfailed
      cases hfailed
  | true =>
      rw [hfree, if_pos rfl] at hfailed
      rw [if_pos rfl]
      cases hr : (openDocument conduct w.files e url faults).result
          { w with holds := (.editor, .exclusive) :: w.holds } with
      | mk result w' =>
          simp only [hr] at hfailed ⊢
          cases result with
          | ok _ => cases hfailed
          | error cause' =>
              cases hfailed
              exact ⟨w', rfl, rfl⟩

/-- What is left of an opening that failed. -/
theorem openOn_of_failed (horderly : w.Orderly) (he : w.editor = some e)
    (hcan : e.state.canOpen = true)
    (hgives : Agenda.ObserversGive (fun c => c.sparesEngine = true) w) {cause : EditorError}
    (hfailed : (openOn faults url w).1 = .failed (.editor cause)) :
    (openOn faults url w).2.editor =
        some { e with state := .closed, toolbar := (obstacle faults url e w).toolbar e } ∧
      (openOn faults url w).2.engine.bus.subscriptions =
        w.engine.bus.subscriptions ++ (obstacle faults url e w).left e w := by
  let start : Workspace := { w with holds := (.editor, .exclusive) :: w.holds }
  have hheld : (.editor, .exclusive) ∈ start.holds := List.mem_cons_self
  obtain ⟨w', hresult, hafter⟩ := attempt_of_failed he hfailed
  have hopen := triple_openDocument_remains hheld (horderly.congr rfl rfl) he hcan hgives faults
    url start rfl
  rw [hresult] at hopen
  obtain ⟨bus, hw, hbus⟩ := hopen
  rw [hafter, ← Obstacle.subscriptions_bus]
  exact ⟨hw.editor, (congrArg SignalBus.subscriptions hw.wired).trans hbus⟩

/-- An opening that fails leaves an editor that is closed, with no session, undo manager or relay,
whatever it failed at. It leaves everything as it was just if it failed before there was a session,
and no earlier opening had left the toolbar attached. -/
theorem failed_open_restores_iff {w : Workspace} (hreached : Reached w) {e : Editor}
    (he : w.editor = some e) (hcan : e.state.canOpen = true)
    (hgives : Agenda.ObserversGive (fun c => c.sparesEngine = true) w) (faults : InputFaults)
    (url : String) {cause : EditorError}
    (hfailed : (openOn faults url w).1 = .failed (.editor cause)) :
    let w' := (openOn faults url w).2
    let o := obstacle faults url e w
    e.Bare ∧ w'.editor = some { e with state := .closed, toolbar := o.toolbar e } ∧
      w'.engine.bus.subscriptions = w.engine.bus.subscriptions ++ o.left e w ∧
      (Restored w w' ↔ (o = .document ∨ o = .relay) ∧ e.toolbar.attached = false) := by
  intro w' o
  have horderly := hreached.orderly
  have hbare : e.Bare := horderly.ready e he hcan
  obtain ⟨heditor, hleft⟩ : w'.editor = some { e with state := .closed, toolbar := o.toolbar e } ∧
      w'.engine.bus.subscriptions = w.engine.bus.subscriptions ++ o.left e w :=
    openOn_of_failed horderly he hcan hgives hfailed
  refine ⟨hbare, heditor, hleft, fun hrestored => ?_, fun ⟨hearly, htoolbar⟩ => ⟨?_, ?_⟩⟩
  · have hnone := left_eq_nil_iff.1 (left_of_restored hrestored hleft)
    obtain ⟨e', he', -, hdetached⟩ := hrestored.editor
    obtain rfl := Option.some.inj (heditor.symm.trans he')
    have hdetached : (o.toolbar e).attached = false := hdetached.toolbar
    refine ⟨hnone, ?_⟩
    rcases hnone with hthis | hthis <;> rw [hthis] at hdetached <;> exact hdetached
  · refine ⟨_, heditor, rfl, hbare.session, hbare.undoManager, hbare.modified, hbare.metadata, ?_⟩
    rcases hearly with hthis | hthis <;> rw [hthis] <;> exact htoolbar
  · intro signal
    rw [hleft, left_eq_nil_iff.2 hearly, List.append_nil]

/-- A new editor with an engine that refuses subscriptions to some signals and some operations. -/
def reluctant (signals operations : List String) : Workspace :=
  ((Agenda.start [.newEditor { member := ⟨"m"⟩, options := { allFeatures := true } },
    .engine (.register "d" {}), .engine (.refuse signals operations)] {}).after 3).workspace

/-- The editor subscribed to seven signals before the one that is refused. -/
theorem failed_open_restored_without_relay :
    let w := reluctant ["ParagraphChanged"] []
    (openOn {} "d" w).1 = .failed (.editor (.session (.engine (.signal
        (.invalidSignalKind "ParagraphChanged"))))) ∧
      Restored w (openOn {} "d" w).2 := by
  intro w
  have hfailed : (openOn {} "d" w).1 = .failed (.editor (.session (.engine (.signal
      (.invalidSignalKind "ParagraphChanged"))))) := by rfl
  obtain ⟨e, he, hcan, hrelay, htoolbar⟩ : ∃ e, w.editor = some e ∧ e.state.canOpen = true ∧
      obstacle {} "d" e w = .relay ∧ e.toolbar.attached = false :=
    ⟨_, rfl, rfl, rfl, rfl⟩
  have hgives : Agenda.ObserversGive (fun c => c.sparesEngine = true) w := by
    intro id o ho
    cases ho
  obtain ⟨-, -, -, hrestored⟩ :=
    failed_open_restores_iff (.run (.start {}) _ _) he hcan hgives {} "d" hfailed
  exact ⟨hfailed, hrestored.2 ⟨.inr hrelay, htoolbar⟩⟩

/-- The engine that accepts the member and refuses its cursor keeps the subscriptions of a session
that is gone, and the toolbar stays attached. -/
theorem failed_open_leaves_relays :
    let w := reluctant [] ["AddCursor"]
    w.editor.map (·.state) = some .uninitialized ∧
      (openOn {} "d" w).1 = .failed (.editor (.engine (.rejected "refused AddCursor"))) ∧
      (openOn {} "d" w).2.editor.map (·.toolbar.attached) = some true ∧
      ¬ Restored w (openOn {} "d" w).2 := by
  have hreply : (openOn {} "d" (reluctant [] ["AddCursor"])).1 =
      .failed (.editor (.engine (.rejected "refused AddCursor"))) := by rfl
  have htoolbar : (openOn {} "d" (reluctant [] ["AddCursor"])).2.editor.map
      (·.toolbar.attached) = some true := by rfl
  refine ⟨rfl, hreply, htoolbar, fun hrestored => ?_⟩
  obtain ⟨e, he, -, hdetached⟩ := hrestored.editor
  rw [he] at htoolbar
  have hattached : e.toolbar.attached = true := Option.some.inj htoolbar
  rw [hdetached.toolbar] at hattached
  cases hattached

end Coedit.Workspace
