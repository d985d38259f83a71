import Coedit.Proofs.Workspace.Echoes

/-!
# Reopening

An editor whose document was closed is as good as new, whatever it did before: when it opens a
document, all that follows is what would follow had a new editor opened the document on a new
engine. Only the numbers of subscriptions are others, and the engine remembers what was loaded and
submitted.
-/

namespace Coedit

/-- An engine on which nothing was done yet, with the documents, the subscribers and the settings
of this one. -/
def Engine.renewed {η : Type} (e : Engine η) : Engine η where
  documents := e.documents
  closeFailure := e.closeFailure
  immediate := e.immediate
  bus := e.bus.renewed

/-- An editor that was just created, with the member, the options and the subscribers of this
one. -/
def Editor.renewed (e : Editor) : Editor where
  id := e.id
  member := e.member
  options := e.options
  user := e.user
  fontsCss := e.fontsCss
  frontend := e.frontend
  bus := e.bus.renewed

namespace Workspace

/-- A workspace in which the engine and the editor are new, and there is nobody else but the
observers. The editor and the observers have the numbers that they had, which nobody sees. -/
def renewed (w : Workspace) : Workspace where
  files := w.files
  engine := w.engine.renewed
  observers := w.observers
  editor := w.editor.map Editor.renewed
  nextId := w.nextId

/-- Two runs get the same replies, up to the numbers of subscriptions and to what is asked of the
past, and log the same. Commands that have no counterpart in the second run do nothing in the
first. -/
inductive SameRun (engine editor : Renumbering) :
    List Command → List (Reply × List LogEntry) → List (Reply × List LogEntry) → Prop where
  | nil : SameRun engine editor [] [] []
  | stale {c rest results results'} (hc : c.translate? engine editor = none)
      (h : SameRun engine editor rest results results') :
      SameRun engine editor (c :: rest) ((.done, []) :: results) results'
  | same {c c' rest reply reply' log results results'}
      (hc : c.translate? engine editor = some c')
      (hreply : c.asksForHistory = false → reply = reply'.renumber (c.numbering engine editor))
      (h : SameRun engine editor rest results results') :
      SameRun engine editor (c :: rest) ((reply, log) :: results) ((reply', log) :: results')

section Runs

variable {σ : Comparison} {f : Frame} {w w' : Workspace} {e e' : Editor}

theorem Twin.takeLog (h : Twin σ f w w') :
    w.takeLog.1 = w'.takeLog.1 ∧ Twin σ f w.takeLog.2 w'.takeLog.2 := by
  refine ⟨h.log, ?_⟩
  obtain ⟨p, rfl⟩ := h.same
  exact ⟨⟨p, rfl⟩, h.bus, h.sessions, h.undoManagers, h.editor, h.quiet, h.frame, h.first⟩

/-- Twins remain twins in every run, and the runs are the same. -/
theorem Twin.run (h : Twin σ {} w w') (hlog : w'.log = []) {commands : List Command}
    (hcommands : ∀ c ∈ commands, c.aroundEditor = true) :
    SameRun σ.engine σ.editor commands (run commands w).1
        (run (commands.filterMap (Command.translate? σ.engine σ.editor)) w').1 ∧
      Twin σ {} (run commands w).2
        (run (commands.filterMap (Command.translate? σ.engine σ.editor)) w').2 := by
  induction commands generalizing w w' with
  | nil => exact ⟨.nil, h⟩
  | cons c rest ih =>
      have hc := hcommands c List.mem_cons_self
      have hrest := fun c hmem => hcommands c (List.mem_cons_of_mem _ hmem)
      cases htranslate : c.translate? σ.engine σ.editor with
      | none =>
          have hsame : w.takeLog = ([], w) := by
            unfold Workspace.takeLog
            rw [h.log, hlog, ← hlog, ← h.log]
          rw [List.filterMap_cons_none htranslate]
          simp only [Workspace.run, h.execute_stale rfl htranslate, hsame]
          obtain ⟨hresults, htwin⟩ := ih h hlog hrest
          exact ⟨.stale htranslate hresults, htwin⟩
      | some c' =>
          obtain ⟨hreply, hexecuted⟩ := h.answered hc htranslate
          obtain ⟨hlogs, htaken⟩ := hexecuted.takeLog
          obtain ⟨hresults, htwin⟩ := ih htaken rfl hrest
          rw [List.filterMap_cons_some htranslate]
          simp only [Workspace.run]
          rw [hlogs]
          exact ⟨.same htranslate hreply hresults, htwin⟩

/-! ## The first run -/

/-- Only observers and an engine, to which nobody else has subscribed. -/
structure Unused (w : Workspace) : Prop where
  quiet : w.Quiet
  welcoming : w.Welcoming
  ordered : w.engine.bus.Ordered
  observed : ∀ s ∈ w.engine.bus.subscriptions, ∃ id, s.handler = .observer id
  sessions : w.sessions = ∅
  undoManagers : w.undoManagers = ∅
  editor : w.editor = none
  frame : w.frame = {}
  log : w.log = []

theorem Unused.createEditor (h : Unused w) (spec : EditorSpec) :
    w.createEditor spec = { w with
      nextId := w.nextId + 1
      editor := some
        { id := w.nextId
          member := spec.member
          options := spec.options
          user := spec.user.withDefaults
          fontsCss := spec.fontsCss
          frontend := spec.frontend } } := by
  unfold Workspace.createEditor
  rw [h.editor]
  rfl

def Comparison.self : Comparison where
  engine := .same
  editor := .same
  first := 0

/-- A workspace that is its own twin has nothing that is older than itself. -/
theorem Unused.twin (h : Unused w) (spec : EditorSpec) :
    Twin .self {} (w.createEditor spec) (w.createEditor spec) := by
  rw [h.createEditor spec]
  refine ⟨⟨⟨w.engine.bus, w.engine.submitted, w.engine.loadCount, w.sessions, w.undoManagers, _⟩,
    rfl⟩, ⟨.refl h.ordered, fun s _ => ?_⟩, ⟨fun _ _ => ?_, fun _ _ _ hid => ?_, fun id s hs => ?_⟩,
    ⟨fun _ _ => rfl, fun id m hm => ?_⟩, ?_, h.quiet, h.frame, Nat.zero_le _⟩
  · cases s.handler <;> first | exact trivial | exact Nat.zero_le _
  · rw [h.sessions]
    rfl
  · exact absurd hid (Nat.not_lt_zero _)
  · rw [h.sessions] at hs
    cases hs
  · rw [h.undoManagers] at hm
    cases hm
  · refine ⟨_, _, rfl, rfl, ⟨_, rfl⟩, .refl ⟨.nil, fun _ hs => (List.not_mem_nil hs).elim⟩, ?_, ?_⟩
    · exact fun _ _ => Nat.zero_le _
    · exact fun _ _ => Nat.zero_le _

theorem translate?_self (c : Command) :
    c.translate? Comparison.self.engine Comparison.self.editor = some c := by
  unfold Command.translate?
  split <;> rfl

theorem Settled.takeLog {options : EditorOptions}
    {base : List (Subscription EngineSignal EngineListener)} (h : Settled options base w) :
    Settled options base w.takeLog.2 := by
  have htold : Told w w.takeLog.2 := ⟨w.observers, [], w.undoManagers, rfl, h.quiet, fun _ => rfl⟩
  exact h.undisturbed htold.heard.undisturbed

structure Rested (spec : EditorSpec) (base : List (Subscription EngineSignal EngineListener))
    (w : Workspace) : Prop where
  settled : Settled spec.options base w
  twin : Twin .self {} w w
  log : w.log = []

theorem Rested.run {spec : EditorSpec} {base : List (Subscription EngineSignal EngineListener)}
    (h : Rested spec base w) {commands : List Command}
    (hcommands : ∀ c ∈ commands, c.aroundEditor = true) : Rested spec base (run commands w).2 := by
  induction commands generalizing w with
  | nil => exact h
  | cons c rest ih =>
      have hc := hcommands c List.mem_cons_self
      have htwin : Twin .self {} (w.execute c).2 (w.execute c).2 :=
        (h.twin.answered hc (translate?_self c)).2
      have hnext : Rested spec base (w.execute c).2.takeLog.2 :=
        ⟨(settled_around h.settled hc).takeLog, htwin.takeLog.2, rfl⟩
      exact ih hnext fun c hmem => hcommands c (List.mem_cons_of_mem _ hmem)

theorem Unused.rested (h : Unused w) (spec : EditorSpec) :
    Rested spec w.engine.bus.subscriptions (w.createEditor spec) := by
  refine ⟨settled_createEditor h.quiet h.welcoming spec, h.twin spec, ?_⟩
  rw [h.createEditor spec]
  exact h.log

/-! ## Opening again -/

def loaded (d : Document) (w : Workspace) : Workspace :=
  { w with
    engine := w.engine.openDocument d
    editor := w.editor.map fun e => { e with state := .loading } }

/-- To open a document that is found is to start on it when it is loaded. -/
theorem result_openDocument {files : FileTree} {url : String} {d : Document}
    (heditor : w.editor = some e) (hnext : e.state.next? .open = some .loading)
    (hfind : w.engine.find files url = .ok d) :
    (openDocument conduct files e url).result w =
      (startLoaded conduct { e with state := .loading }).result (loaded d w) := by
  have hload : (tryCatch (byEngine (loadDocument files url)) fun cause => do
        advance .loadFailed
        throw cause).result (w.modifyEditor fun e => { e with state := .loading }) =
      (.ok (), loaded d w) := by
    rw [Attempt.result_tryCatch]
    simp only [byEngine, Attempt.result_of, loadDocument, Engine.load, Workspace.modifyEditor,
      hfind]
    rfl
  unfold openDocument
  rw [Attempt.result_bind_of_ok (result_advance_of_legal heditor hnext),
    Attempt.result_bind_of_ok hload]
  rfl

theorem execute_open {url : String} {d : Document} (heditor : w.editor = some e)
    (hfree : w.holds = []) (hnext : e.state.next? .open = some .loading)
    (hfind : w.engine.find w.files url = .ok d) :
    let opened := reply .editor ((startLoaded conduct { e with state := .loading }).result
      (loaded d { w with holds := [(.editor, .exclusive)] }))
    w.execute (.editor (.open url)) = (opened.1, { opened.2 with holds := [] }) := by
  have hopened := result_openDocument (w := { w with holds := [(.editor, .exclusive)] })
    heditor hnext hfind
  rw [execute_editor_of_free heditor hfree]
  simp only [doEditor, editorAccess]
  rw [hopened]

/-- What is new has no other workers, and nothing in hand. -/
theorem renewed_eq (hrefusals : w.refusals = {}) (hframe : w.frame = {}) (hlog : w.log = []) :
    w.renewed = { w with
      engine := w.engine.renewed
      sessions := ∅
      undoManagers := ∅
      editor := w.editor.map Editor.renewed } := by
  obtain ⟨files, engine, refusals, observers, sessions, undoManagers, standalone, editor, replaced,
    reporting, informed, nextId, holds, log⟩ := w
  obtain ⟨rfl, rfl, rfl, rfl, rfl⟩ : standalone = none ∧ replaced = [] ∧ reporting = [] ∧
      informed = [] ∧ holds = [] := by
    simpa [frame] using hframe
  obtain rfl := hrefusals
  obtain rfl := hlog
  rfl

/-- An editor without a document is the new one, but for the numbers of its subscribers. -/
theorem editorTwin_renewed {σ : Comparison} (h : e.Detached)
    (hbus : e.bus.Copied σ.editor e.bus.renewed) :
    EditorTwin σ { e with state := .loading } { e.renewed with state := .loading } := by
  refine ⟨⟨e.bus, ?_⟩, hbus, fun _ hnone => (nomatch hnone), fun _ hnone => (nomatch hnone)⟩
  obtain ⟨hsession, hmanager, hmodified, hmetadata, htoolbar⟩ := h
  obtain ⟨id, member, options, user, fontsCss, frontend, ⟨attached⟩, state, session, undoManager,
    modifiedSubscription, metadataSubscription, bus⟩ := e
  obtain rfl := hsession
  obtain rfl := hmanager
  obtain rfl := hmodified
  obtain rfl := hmetadata
  obtain rfl := htoolbar
  rfl

/-- A new editor on a new engine is what it would be renewed to. -/
theorem renewed_createEditor (h : Unused w) (hengine : w.engine.renewed = w.engine)
    (spec : EditorSpec) : (w.createEditor spec).renewed = w.createEditor spec := by
  have hrefusals : (w.createEditor spec).refusals = {} := by
    rw [h.createEditor spec]
    exact h.welcoming.refusals
  have hrested := h.rested spec
  rw [renewed_eq hrefusals hrested.twin.frame hrested.log, h.createEditor spec]
  simp only [hengine, h.sessions, h.undoManagers]
  rfl

/-- When a document is loaded, a workspace in which nobody is at work is the twin of a new one. -/
theorem twin_loaded {spec : EditorSpec} {base : List (Subscription EngineSignal EngineListener)}
    (h : Rested spec base w) (hstage : Stage base e none [] w) (hdetached : e.Detached)
    (hbase : ∀ s ∈ base, ∃ id, s.handler = .observer id)
    (hengine : w.engine.bus.Ordered) (hordered : e.bus.Ordered) (d : Document) :
    Twin ⟨hengine.renumbering, hordered.renumbering, w.nextId⟩ {} (loaded d w)
      (loaded d w.renewed) := by
  have hcopied := hengine.copied_renewed
  have hsession := h.twin.sessions.bounded
  have hmanager := h.twin.undoManagers.bounded
  rw [renewed_eq hstage.welcoming.refusals h.twin.frame h.log]
  refine ⟨⟨⟨w.engine.bus, w.engine.submitted, w.engine.loadCount + 1, w.sessions, w.undoManagers,
    w.editor.map fun e => { e with state := .loading }⟩, rfl⟩, ⟨hcopied, fun s hs => ?_⟩,
    ⟨fun id hid => ?_, fun id s manager _ hs hm => ((hsession id s hs).2.2 manager hm).2,
      fun id s hs => (nomatch hs)⟩,
    ⟨fun id hid => ?_, fun id m hm => (nomatch hm)⟩, ?_, h.twin.quiet, h.twin.frame, Nat.le_refl _⟩
  · have hmem : { s with id := hengine.renumbering.old s.id } ∈ w.engine.bus.subscriptions := by
      rw [hcopied.subscriptions]
      exact List.mem_map_of_mem hs
    have hobserver : ∃ id, s.handler = .observer id := by
      rcases hstage.covered _ hmem with hold | hobserver | hrecord
      · obtain ⟨id, hid⟩ := hbase _ hold
        exact ⟨id, hid⟩
      · exact hobserver
      · cases hrecord
    obtain ⟨id, hid⟩ := hobserver
    rw [hid]
    trivial
  · cases hs : w.sessions.get? id with
    | none => exact hs
    | some s => exact absurd (hsession id s hs).2.1 (Nat.not_lt_of_le hid)
  · cases hm : w.undoManagers.get? id with
    | none => exact hm
    | some m => exact absurd (hmanager id m hm) (Nat.not_lt_of_le hid)
  · refine ⟨_, _, ?_, ?_, editorTwin_renewed hdetached hordered.copied_renewed⟩
    · simp [loaded, hstage.editor]
    · simp [loaded, hstage.editor]

/-- If it takes no more than a document to be loaded for two workspaces to be twins, then they
answer alike when it is opened. -/
theorem Twin.openFound {σ : Comparison} {d : Document} (h : Twin σ {} (loaded d w) (loaded d w'))
    (he : EditorTwin σ { e with state := .loading } { e' with state := .loading })
    (heditor : w.editor = some e) (heditor' : w'.editor = some e')
    (hnext : e.state.next? .open = some .loading) (hnext' : e'.state.next? .open = some .loading)
    {url : String} (hfind : w.engine.find w.files url = .ok d)
    (hfind' : w'.engine.find w'.files url = .ok d) :
    Echo .same σ {} (w.execute (.editor (.open url))) (w'.execute (.editor (.open url))) := by
  have hfree' : w'.holds = [] := congrArg Frame.holds h.frame
  have hfree : w.holds = [] := by
    obtain ⟨p, hsame⟩ := h.same
    exact (congrArg Workspace.holds hsame).trans hfree'
  have hstarted : Answers Eq σ { holds := [(.editor, .exclusive)] }
      ((startLoaded conduct { e with state := .loading }).result
        (loaded d { w with holds := [(.editor, .exclusive)] }))
      ((startLoaded conduct { e' with state := .loading }).result
        (loaded d { w' with holds := [(.editor, .exclusive)] })) :=
    parallel_startLoaded he _ _ (h.withHolds [(.editor, .exclusive)])
  have hopened := execute_open heditor hfree hnext hfind
  have hopened' := execute_open heditor' hfree' hnext' hfind'
  have hecho : Echo .same σ _ (reply .editor _) (reply .editor _) := hstarted.reply
  rw [hopened, hopened']
  exact ⟨hecho.reply, hecho.twin.withHolds []⟩

/-! ## As good as new -/

/-- Whatever an editor did before its document was closed: if it opens a document that is found,
then everything that follows happens just as if a new editor had opened the document on a new
engine. All replies are the same, and so is all that observers hear and user interfaces are told;
in the end the documents, the members and their cursors are the same. -/
theorem reopened_as_good_as_new {w₀ : Workspace} (h : Unused w₀) (spec : EditorSpec)
    {commands : List Command} (hcommands : ∀ c ∈ commands, c.aroundEditor = true)
    (hw : w = (run commands (w₀.createEditor spec)).2) (heditor : w.editor = some e)
    (hclosed : e.state = .closed) {url : String} {d : Document}
    (hfind : w.engine.find w.files url = .ok d) {later : List Command}
    (hlater : ∀ c ∈ later, c.aroundEditor = true) :
    ∃ engine editor : Renumbering, engine.old = w.engine.bus.oldNumber ∧
      editor.old = e.bus.oldNumber ∧
      let again := run (.editor (.open url) :: later) w
      let fresh := run (.editor (.open url) :: later.filterMap (Command.translate? engine editor))
        w.renewed
      SameRun engine editor (.editor (.open url) :: later) again.1 fresh.1 ∧
        again.2.engine.replica = fresh.2.engine.replica ∧
        again.2.observers = fresh.2.observers := by
  have hrested : Rested spec w₀.engine.bus.subscriptions w := by
    rw [hw]
    exact (h.rested spec).run hcommands
  obtain ⟨-, hdetached, hstage⟩ :=
    hrested.settled.stage_of_idle heditor (.inr (.inl hclosed))
  have hengine : w.engine.bus.Ordered := hrested.twin.bus.copied.ordered
  have hordered : e.bus.Ordered := by
    obtain ⟨_, e', _, he', htwin⟩ := hrested.twin.editor
    obtain rfl := Option.some.inj (he'.symm.trans heditor)
    exact htwin.bus.ordered
  have hloaded := twin_loaded hrested hstage hdetached h.observed hengine hordered d
  have hexecuted := hloaded.openFound
    (editorTwin_renewed hdetached hordered.copied_renewed) heditor (by simp [renewed, heditor])
    (by rw [hclosed]; rfl) rfl hfind hfind
  obtain ⟨hlogs, htaken⟩ := hexecuted.twin.takeLog
  obtain ⟨hresults, htwin⟩ := htaken.run rfl hlater
  refine ⟨hengine.renumbering, hordered.renumbering, rfl, rfl, ?_, htwin.replica, htwin.observers⟩
  simp only [Workspace.run]
  rw [hlogs]
  exact .same rfl (fun _ => hexecuted.reply) hresults

end Runs

/-- A document is opened and closed, and then somebody subscribes to the engine. -/
def closing : List Command :=
  [.engine (.register "doc" {}), .editor (.open "doc"), .editor .close,
    .watchEngine .memberAdded "late" [] 0]

/-- Ends the first subscription of the first session, which is over, asks what was loaded, and
edits. -/
def reopeningTrial : List Command :=
  [.engine (.unsubscribe .memberAdded 0), .engine (.ask .loadCount),
    .session (.edit (.updateMember {})), .engine .flush, .editor .close]

theorem reopened_after_closing :
    let w := (run closing (createEditor { member := ⟨"m"⟩, options := .withAllFeatures } {})).2
    ∃ engine editor : Renumbering, engine.old = w.engine.bus.oldNumber ∧
      SameRun engine editor (.editor (.open "doc") :: reopeningTrial)
        (run (.editor (.open "doc") :: reopeningTrial) w).1
        (run (.editor (.open "doc") ::
          reopeningTrial.filterMap (Command.translate? engine editor)) w.renewed).1 := by
  intro w
  have hunused : Unused {} :=
    { quiet := fun _ _ h => by cases h
      welcoming := ⟨rfl, fun signal => by cases signal <;> rfl⟩
      ordered := ⟨.nil, fun _ hs => (List.not_mem_nil hs).elim⟩
      observed := fun _ hs => (List.not_mem_nil hs).elim
      sessions := rfl
      undoManagers := rfl
      editor := rfl
      frame := rfl
      log := rfl }
  have hclosed : w.editor.map (·.state) = some .closed := by decide +kernel
  obtain ⟨e, heditor, hstate⟩ := Option.map_eq_some_iff.1 hclosed
  have hregistered : (w.engine.documents.get? "doc").isSome = true := by decide +kernel
  obtain ⟨d, hd⟩ := Option.isSome_iff_exists.1 hregistered
  have hfind : w.engine.find w.files "doc" = .ok d := by
    unfold Engine.find
    rw [hd]
  have hcommands : ∀ c ∈ closing, c.aroundEditor = true := by decide
  have hlater : ∀ c ∈ reopeningTrial, c.aroundEditor = true := by decide
  obtain ⟨engine, editor, hengine, -, hsame, -⟩ :=
    reopened_as_good_as_new hunused { member := ⟨"m"⟩, options := .withAllFeatures } hcommands rfl
      heditor hstate hfind hlater
  exact ⟨engine, editor, hengine, hsame⟩

end Workspace

end Coedit
