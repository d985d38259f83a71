import Coedit.Proofs.Editor.Partners

/-!
# What opening comes to

A document that was found is loaded, and all that the editor does before it is editing are batches
that it submits. The session it starts is its partner. If no document was found, nothing happens
to the engine.
-/

namespace Coedit.Workspace

open Attempt (Triple)

section Entering

variable {spec : EditorSpec} {first id : Nat} {start w w' : Workspace} {e : Editor}

structure Carried (spec : EditorSpec) (first : Nat) (start w : Workspace) : Prop where
  keeps : Keeps spec first start w
  partnered : Partnered spec first w

theorem Carried.quiet (h : Carried spec first start w) : w.Quiet := h.keeps.quiet

theorem Carried.step (h : Carried spec first start w) (hkeeps : Keeps spec first w w')
    (heditor : w'.editor = w.editor) : Carried spec first start w' :=
  ⟨h.keeps.trans hkeeps, h.partnered.keeps hkeeps heditor⟩

theorem Carried.continues (h : Carried spec first start w) (hc : Continues w w') :
    Carried spec first start w' := by
  obtain ⟨accepted, hproceeds⟩ := hc
  exact h.step hproceeds.keeps hproceeds.editor

theorem Carried.modifyEditor (h : Carried spec first start w) {f : Editor → Editor}
    (hf : ∀ e, w.editor = some e → Matched spec first e w → Matched spec first (f e) w) :
    Carried spec first start (w.modifyEditor f) :=
  ⟨h.keeps.trans (keeps_of_same h.quiet (Nat.le_refl _) rfl rfl), h.partnered.modifyEditor hf⟩

/-! ## Starting a session -/

theorem triple_newPartner (hmember : e.member = spec.member)
    (hfrontend : e.frontend = spec.frontend) (features : FeatureSet) :
    Triple (Carried spec first start)
      (bySession (createSession
        { member := e.member, fontsCss := e.fontsCss, frontend := e.frontend } features))
      (fun id w => Carried spec first start w ∧ id < w.nextId ∧ Partner spec first id w)
      (fun _ _ => True) := by
  refine triple_bySession_if fun w id w' hw heq => ?_
  obtain ⟨hkeeps, heditor, hgiven, hpartner⟩ :=
    keeps_createSession hw.partnered.ordered hw.quiet hmember hfrontend heq
  exact ⟨hw.step hkeeps heditor, hgiven, hpartner⟩

theorem Carried.joinSession {id : Nat}
    (hw : Carried spec first start w ∧ id < w.nextId ∧ Partner spec first id w) :
    Carried spec first start (w.modifyEditor fun e => { e with session := some id }) := by
  refine hw.1.modifyEditor fun e he hmatched => ?_
  refine ⟨hmatched.member, hmatched.frontend, hmatched.relay, fun other hother => ?_⟩
  obtain rfl := Option.some.inj hother
  exact hw.2

theorem Carried.relayModified (h : Carried spec first start w) (e : Editor) (manager : Nat) :
    Carried spec first start (w.relayModified e manager) := by
  obtain hsame | ⟨m, subscription, hrelayed⟩ := relayModified_cases e manager w
  · rw [hsame]
    exact h
  · rw [hrelayed]
    have hmanaged : Carried spec first start
        { w with undoManagers := w.undoManagers.insert manager m } :=
      h.step (keeps_of_same h.quiet (Nat.le_refl _) rfl rfl) rfl
    exact hmanaged.modifyEditor fun e he hmatched => hmatched.alike rfl rfl rfl rfl

theorem triple_provideUndo (e : Editor) (id : Nat) :
    Triple (Carried spec first start) (startUndo e id) (fun _ => Carried spec first start)
      (fun _ _ => True) := by
  have hset : ∀ manager, Triple (Carried spec first start) (byEngine (setUndoManager id manager))
      (fun _ => Carried spec first start) (fun _ _ => True) := fun manager =>
    triple_byEngine_if fun w _ w' hw heq => by
      have hkeeps : Keeps spec first w _ :=
        keeps_setUndoManager hw.partnered.ordered hw.quiet id manager
      have heditor := editor_setUndoManager id manager w
      rw [heq] at hkeeps heditor
      exact hw.step hkeeps heditor
  exact startUndo_rule (A := Carried spec first start) (B := fun _ => Carried spec first start)
    (fun w hw => hw.continues ⟨[], proceeds_interfaceNote hw.quiet e.frontend .undoManager⟩)
    (fun w hw => hw.step (keeps_of_same hw.quiet (Nat.le_succ _) rfl rfl) rfl) hset
    fun manager w hw => hw.relayModified e manager

/-- The editor relays the metadata under a number of its own. -/
theorem triple_relay (e : Editor) :
    Triple (Carried spec first start) (byEngine (subscribe .metadataChanged (.metadataRelay e.id)))
      (fun relay w => Carried spec first start w ∧ Fresh first relay w) (fun _ _ => True) := by
  refine triple_byEngine_if fun w relay w' hw heq => ?_
  rcases subscribe_cases .metadataChanged (.metadataRelay e.id) w with ⟨cause, hcause⟩ | hok
  · rw [hcause] at heq
    cases heq
  · rw [hok] at heq
    simp only [Prod.mk.injEq, Except.ok.injEq] at heq
    obtain ⟨rfl, rfl⟩ := heq
    exact ⟨hw.step (keeps_subscribed hw.quiet _ _) rfl,
      fresh_subscribed hw.partnered.ordered .metadataChanged rfl⟩

theorem triple_submitting {f : Workspace → Except EngineError Unit × Workspace}
    (h : ∀ w, Quiet w → Continues w (f w).2) :
    Triple (Carried spec first start) (byEngine f) (fun _ => Carried spec first start)
      (fun _ _ => True) :=
  (triple_byEngine_of_lasting fun w hw => hw.continues (h w hw.quiet)).mono (fun _ hw => hw)
    (fun _ _ hw => hw) fun _ _ _ => trivial

theorem triple_enter (e : Editor) (id : Nat) :
    Triple (Carried spec first start) (enterDocument conduct e id)
      (fun _ => Carried spec first start) (fun _ _ => True) := by
  have hrecord (relay : Nat) (w : Workspace) (hw : Carried spec first start w ∧ Fresh first relay w) :
      Carried spec first start
        (w.modifyEditor fun e => { e with metadataSubscription := some relay }) := by
    refine hw.1.modifyEditor fun e he hmatched => ?_
    refine ⟨hmatched.member, hmatched.frontend, fun number hnumber => ?_, hmatched.session⟩
    obtain rfl := Option.some.inj hnumber
    exact hw.2
  have hattach (relay : Nat) (w : Workspace) (hw : Carried spec first start w) :
      Carried spec first start (w.attachToolbar e true) := by
    refine Carried.modifyEditor ?_ fun e he hmatched => hmatched.alike rfl rfl rfl rfl
    exact hw.continues ⟨[], proceeds_interfaceNote hw.quiet e.frontend (.attached true)⟩
  exact enterDocument_rule (triple_relay e) hrecord
    (fun _ => triple_submitting fun w hw => continues_submission.submit hw _) hattach
    (fun _ => triple_submitting fun w hw => continues_submitFor hw id .addCursor)
    fun _ w hw => hw.continues ⟨[], proceeds_setEditing hw.quiet id true⟩

theorem triple_equip (e : Editor) (id : Nat) :
    Triple (Carried spec first start) (equipSession conduct e id)
      (fun _ => Carried spec first start) (fun _ _ => True) :=
  equipSession_rule (fun _ => triple_provideUndo e id) (fun _ _ hw => hw) (triple_enter e id)

/-- The session is a partner still when the editor has it. -/
theorem triple_equipPartner (e : Editor) (id : Nat) :
    Triple (fun w => Carried spec first start w ∧ id < w.nextId ∧ Partner spec first id w)
      (equipSession conduct e id)
      (fun _ w => Carried spec first start w ∧ id < w.nextId ∧ Partner spec first id w)
      (fun _ _ => True) := by
  rintro w ⟨hw, hgiven, hpartner⟩
  have hequip : Triple (fun v => v = w) (equipSession conduct e id)
      (fun _ => Carried spec first w) (fun _ _ => True) := by
    refine (triple_equip e id).mono ?_ (fun _ _ hv => hv) fun _ _ _ => trivial
    rintro v rfl
    exact ⟨Keeps.refl hw.quiet, hw.partnered⟩
  refine hequip.mono (fun _ hv => hv) (fun _ v hv => ?_) (fun _ _ _ => trivial) w rfl
  exact ⟨⟨hw.keeps.trans hv.keeps, hv.partnered⟩, Nat.lt_of_lt_of_le hgiven hv.keeps.nextId,
    hv.keeps.partner hw.partnered.ordered id hgiven hpartner⟩

theorem triple_start (hmember : e.member = spec.member) (hfrontend : e.frontend = spec.frontend) :
    Triple (Carried spec first start) (startSession conduct e) (fun _ => Carried spec first start)
      (fun _ _ => True) :=
  startSession_rule (triple_newPartner hmember hfrontend e.options.features)
    (triple_equipPartner e) (fun _ _ _ _ => trivial) fun _ _ hw => Carried.joinSession hw

/-! ## The whole way -/

structure Opened (spec : EditorSpec) (first : Nat) (start : Workspace) (d : Document)
    (w : Workspace) : Prop where
  partnered : Partnered spec first w
  carried : ∃ accepted, w.engine.submitted = start.engine.submitted ++ accepted ∧
    w.engine.upshot = accepted.foldl (fun r batch => (r.applyBatch batch).1) { document := d }

structure Unopened (spec : EditorSpec) (first : Nat) (start : Workspace) (w : Workspace) :
    Prop where
  partnered : Partnered spec first w
  engine : w.engine = start.engine
  editing : ∀ e', w.editor = some e' → e'.state = .editing → start.editor = some e'

theorem Partnered.setState (h : Partnered spec first w) (state : EditorState) :
    Partnered spec first (w.modifyEditor fun e => { e with state }) :=
  h.modifyEditor fun _ _ hmatched => hmatched.alike rfl rfl rfl rfl

theorem Partnered.loaded (h : Partnered spec first w) (d : Document) :
    Partnered spec first { w with engine := w.engine.openDocument d } where
  ordered := h.ordered.congr rfl
  matched := fun e he => (h.matched e he).congr rfl rfl (Nat.le_refl _)

theorem triple_findDocument (start : Workspace) (hengine : w.engine = start.engine)
    (files : FileTree) (url : String) :
    Triple (fun v => v = w) (byEngine (loadDocument files url))
      (fun _ v => ∃ d, start.engine.find files url = .ok d ∧
        v = { w with engine := w.engine.openDocument d })
      (fun _ v => v = w) := by
  rintro v rfl
  rw [result_byEngine]
  unfold loadDocument Engine.load
  cases hfind : v.engine.find files url with
  | ok d => exact ⟨d, hengine ▸ hfind, rfl⟩
  | error cause => rfl

theorem triple_notLoaded (hpartnered : Partnered spec first w) (heditor : w.editor = some e)
    (hloading : e.state = .loading) (hengine : w.engine = start.engine) :
    Triple (fun v => v = w) (advance .loadFailed) (fun _ => Unopened spec first start)
      (fun _ => Unopened spec first start) := by
  rintro v rfl
  have hnext : e.state.next? .loadFailed = some .closed := by
    rw [hloading]
    rfl
  rw [result_advance_of_legal heditor hnext]
  refine ⟨hpartnered.setState .closed, hengine, fun e' he' hediting => ?_⟩
  rw [modifyEditor, heditor] at he'
  obtain rfl := Option.some.inj he'
  cases hediting

theorem triple_open {base : List (Subscription EngineSignal EngineListener)} {state : EditorState}
    (hstage : Stage base e none [] start) (hdetached : e.Detached)
    (hnext : e.state.next? .open = some state) (hpartnered : Partnered spec first start)
    (files : FileTree) (url : String) :
    Triple (fun w => w = start) (openDocument conduct files e url)
      (fun _ w => ∃ d, start.engine.find files url = .ok d ∧ Opened spec first start d w)
      (fun _ => Unopened spec first start) := by
  obtain ⟨rfl, -⟩ := state_of_open hnext
  have hmatched := hpartnered.matched e hstage.editor
  let loading : Editor := { e with state := .loading }
  let v : Workspace := start.modifyEditor fun e => { e with state := .loading }
  have hloading : Stage base loading none [] v :=
    hstage.modifyEditor fun e => { e with state := .loading }
  have hpartnered' : Partnered spec first v := hpartnered.setState .loading
  have hloadingDetached : loading.Detached := ⟨hdetached.session, hdetached.undoManager,
    hdetached.modified, hdetached.metadata, hdetached.toolbar⟩
  have hopen : Triple (fun w => w = start) (advance .open) (fun _ w => w = v)
      (fun _ => Unopened spec first start) := by
    rintro w rfl
    rw [result_advance_of_legal hstage.editor hnext]
  have hstart : Triple (fun w => ∃ d, start.engine.find files url = .ok d ∧
        w = { v with engine := v.engine.openDocument d })
      (startSession conduct e)
      (fun _ w => ∃ d, start.engine.find files url = .ok d ∧
        Carried spec first { v with engine := v.engine.openDocument d } w ∧
          Working base loading w) (fun _ _ => False) := by
    refine .exists fun d => ?_
    have hopen : OpenStage base loading none [] { v with engine := v.engine.openDocument d } :=
      ⟨hloading.congr rfl rfl rfl rfl hloading.editor, rfl, hloadingDetached.linked _⟩
    have hcarried : Carried spec first { v with engine := v.engine.openDocument d }
        { v with engine := v.engine.openDocument d } :=
      ⟨Keeps.refl hopen.quiet, hpartnered'.loaded d⟩
    have hworks : Triple (OpenStage base loading none []) (startSession conduct e)
        (fun _ => Working base loading) (fun _ _ => False) :=
      triple_startSession rfl rfl hloadingDetached
    rintro w ⟨hd, rfl⟩
    refine ((triple_start hmatched.member hmatched.frontend).and hworks).mono (fun _ hw => hw)
      (fun _ _ hw => ⟨d, hd, hw⟩) (fun _ _ hw => hw.2) _ ⟨hcarried, hopen⟩
  have hready : Triple
      (fun w => ∃ d, start.engine.find files url = .ok d ∧
        Carried spec first { v with engine := v.engine.openDocument d } w ∧ Working base loading w)
      (advance .ready)
      (fun _ w => ∃ d, start.engine.find files url = .ok d ∧ Opened spec first start d w)
      (fun _ => Unopened spec first start) := by
    rintro w ⟨d, hd, hcarried, e', session, relay, -, hstate, -, hstage', -⟩
    have hnext' : e'.state.next? .ready = some .editing := by
      rw [hstate]
      rfl
    rw [result_advance_of_legal hstage'.editor hnext']
    exact ⟨d, hd, hcarried.partnered.setState .editing, hcarried.keeps.carried⟩
  exact openDocument_rule hopen (triple_findDocument (w := v) start rfl files url) hstart
    (fun _ hw => hw.elim) (fun _ => triple_notLoaded hpartnered' hloading.editor rfl rfl) hready

/-- What opening a document comes to, whatever state the editor is in. -/
theorem openDocument_cases {options : EditorOptions}
    {base : List (Subscription EngineSignal EngineListener)} (h : Settled options base w)
    (hpartnered : Partnered spec first w) (heditor : w.editor = some e) (files : FileTree)
    (url : String) :
    Triple (fun v => v = w) (openDocument conduct files e url)
      (fun _ v => ∃ d, w.engine.find files url = .ok d ∧ Opened spec first w d v)
      (fun _ => Unopened spec first w) := by
  cases hnext : e.state.next? .open with
  | none =>
      rintro v rfl
      rw [result_openDocument_of_illegal heditor hnext]
      exact ⟨hpartnered, rfl, fun e' he' _ => he'⟩
  | some state =>
      obtain ⟨-, hidle⟩ := state_of_open hnext
      obtain ⟨-, hdetached, hstage⟩ := h.stage_of_idle heditor hidle
      exact triple_open hstage hdetached hnext hpartnered files url

end Entering

end Coedit.Workspace
