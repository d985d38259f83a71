import Coedit.Proofs.Editor.Entering
import Coedit.Proofs.Editor.Noticing

/-!
# Unsaved changes

An editor with undo watches over its document from the moment on at which the document was
loaded. So between two commands its flag is down only if the document is what it was when the flag
was put down last.
-/

namespace Coedit.Workspace

open Attempt (Triple)

/-! ## From opening to closing -/

/-- The document as it was when the flag was put down last, else the one that was saved before. -/
def savedDocument (saved : Document) : List Command → Workspace → Document
  | [], _ => saved
  | c :: rest, w =>
    savedDocument (if c.marksSaved then w.engine.document else saved) rest (w.execute c).2

/-- A flag that is down means that the document is `saved`. -/
structure Guarded (manager : Nat) (saved : Document) (w : Workspace) : Prop where
  quiet : w.Quiet
  wired : Wired manager w
  saved : w.modified? manager = some false → w.engine.document = saved

section Guarded

variable {w w' : Workspace} {manager : Nat} {saved : Document} {e : Editor}

theorem Guarded.noticed (h : Guarded manager saved w) (hnoticed : Noticed manager w w') :
    Guarded manager saved w' where
  quiet := hnoticed.quiet
  wired := hnoticed.wired h.wired
  saved := by
    intro hdown
    obtain ⟨hdown', hsame⟩ := hnoticed.document h.wired hdown
    exact hsame.trans (h.saved hdown')

structure Editing (manager : Nat) (saved : Document) (w : Workspace) : Prop
    extends Guarded manager saved w where
  free : w.isFree .editor .exclusive = true
  editing : ∃ e, w.editor = some e ∧ e.state = .editing

theorem isFree_of_holds (h : w'.holds = w.holds) (place : Place) (access : Access) :
    w'.isFree place access = w.isFree place access := by
  unfold isFree
  rw [h]

theorem Editing.noticed (h : Editing manager saved w) (hnoticed : Noticed manager w w') :
    Editing manager saved w' where
  toGuarded := h.toGuarded.noticed hnoticed
  free := (isFree_of_holds hnoticed.holds _ _).trans h.free
  editing := by
    obtain ⟨e, he, hstate⟩ := h.editing
    obtain ⟨e', he', hsame, -⟩ := hnoticed.editor e he
    exact ⟨e', he', hsame.trans hstate⟩

/-- Putting the flag down saves the document as it is. -/
theorem editing_markSaved (h : Editing manager saved w) :
    Editing manager w.engine.document (w.execute (.editor (.setModified false))).2 := by
  obtain ⟨e, he, hediting⟩ := h.editing
  obtain ⟨e', he', hmanager⟩ := h.wired.editor
  obtain rfl := Option.some.inj (he.symm.trans he')
  let held : Workspace := { w with holds := (.editor, .shared) :: w.holds }
  have hdone : (w.execute (.editor (.setModified false))).2 =
      { held.setModified conduct manager false with holds := w.holds } := by
    rw [execute_eq_step, step, withEditor, he]
    simp only [editorAccess, holding, if_pos (isFree_of_exclusive h.free _), doEditor, hmanager]
    rfl
  have hquiet : held.Quiet := h.quiet
  have hheard := (told_setModified conduct manager false hquiet).heard
  have hflag := modified?_setModified conduct manager manager false hquiet
  rw [if_pos rfl] at hflag
  obtain ⟨observers, log, undoManagers, sessions, heq, hquiet', -⟩ := hheard
  rw [hdone, heq]
  rw [heq] at hflag hquiet'
  refine ⟨⟨hquiet', ⟨⟨e, he, hmanager⟩, h.wired.hears, ?_⟩, fun _ => rfl⟩, h.free, e, he, hediting⟩
  show (modified? { held with observers, log, undoManagers, sessions } manager).isSome = true
  rw [hflag, Option.isSome_map]
  exact h.wired.managed

theorem editing_execute (h : Editing manager saved w) {c : Command}
    (hc : c.staysEditing = true) :
    Editing manager (if c.marksSaved then w.engine.document else saved) (w.execute c).2 := by
  cases hsaves : c.marksSaved with
  | false =>
      obtain ⟨e, he, hediting⟩ := h.editing
      exact h.noticed (noticed_execute h.quiet he hediting hc hsaves)
  | true =>
      have hthis : c = .editor (.setModified false) := by
        unfold Command.marksSaved at hsaves
        split at hsaves
        · rfl
        · cases hsaves
      subst hthis
      exact editing_markSaved h

theorem editing_run (h : Editing manager saved w) {later : List Command}
    (hlater : ∀ c ∈ later, c.staysEditing = true) :
    Editing manager (savedDocument saved later w)
      (later.foldl (fun w c => (w.execute c).2) w) := by
  induction later generalizing saved w with
  | nil => exact h
  | cons c rest ih =>
      exact ih (editing_execute h (hlater c List.mem_cons_self))
        fun other hmem => hlater other (List.mem_cons_of_mem _ hmem)

end Guarded

/-! ## Opening -/

section Opening

variable {w : Workspace} {d : Document} {e : Editor}

def Watched (d : Document) (w : Workspace) : Prop := ∃ manager, Guarded manager d w

structure Loaded (d : Document) (w : Workspace) : Prop where
  quiet : w.Quiet
  document : w.engine.document = d
  editor : w.editor.isSome = true

theorem Watched.quiet (h : Watched d w) : w.Quiet := by
  obtain ⟨manager, hguarded⟩ := h
  exact hguarded.quiet

theorem Watched.noticed {w' : Workspace} (h : Watched d w)
    (hnoticed : ∀ manager, Noticed manager w w') : Watched d w' :=
  h.imp fun manager hguarded => hguarded.noticed (hnoticed manager)

theorem triple_createSession_loaded (spec : SessionSpec) (features : FeatureSet) :
    Triple (Loaded d) (bySession (createSession spec features)) (fun _ => Loaded d)
      (fun _ _ => True) := by
  refine triple_bySession_if fun w id w' hw heq => ?_
  obtain ⟨engine, made, log, -, rfl, hsubscribed⟩ := createSession_spec heq
  obtain ⟨bus, hengine, -⟩ := subscribedAll_eq w.nextId relayedSignals w.engine
  refine ⟨hw.quiet, ?_, hw.editor⟩
  show engine.document = d
  rw [hsubscribed.engine, hengine]
  exact hw.document

/-- What the undo manager is told of is subscribed to. -/
theorem setUndoManager_hears {id manager : Nat} {w' : Workspace}
    (h : w.setUndoManager id manager = (.ok (), w')) :
    ∃ engine sessions, w' = { w with engine, sessions } ∧ engine.replica = w.engine.replica ∧
      .undoManager manager ∈ engine.bus.handlers .undoStackChanged := by
  have hdropped : ∃ engine sessions, w.dropUndoSubscription id = { w with engine, sessions } ∧
      engine.replica = w.engine.replica := by
    unfold dropUndoSubscription
    split
    · exact ⟨w.engine, w.sessions, rfl, rfl⟩
    · exact ⟨_, _, rfl, rfl⟩
  obtain ⟨engine, sessions, heq, hreplica⟩ := hdropped
  unfold setUndoManager at h
  rw [heq] at h
  rcases subscribe_cases .undoStackChanged (.undoManager manager) { w with engine, sessions } with
    ⟨cause, hcause⟩ | hok
  · rw [hcause] at h
    cases h
  · rw [hok] at h
    simp only [Prod.mk.injEq, true_and] at h
    exact ⟨_, _, h.symm, hreplica, mem_handlers_subscribed.2 (.inr ⟨rfl, rfl⟩)⟩

theorem triple_startUndo_watched (e : Editor) (id : Nat) :
    Triple (Loaded d) (startUndo e id) (fun _ => Watched d) (fun _ _ => True) := by
  have hnote (w : Workspace) (hw : Loaded d w) :
      Loaded d (w.interfaceNote e.frontend .undoManager) := by
    obtain ⟨log, hlog⟩ := interfaceNote_eq e.frontend .undoManager w
    rw [hlog]
    exact ⟨hw.quiet, hw.document, hw.editor⟩
  have hcreate (w : Workspace) (hw : Loaded d w) : Loaded d w.createUndoManager.2 ∧
      w.createUndoManager.2.undoManagers.get? w.createUndoManager.1 = some {} :=
    ⟨⟨hw.quiet, hw.document, hw.editor⟩, by simp [createUndoManager]⟩
  have hset : ∀ manager, Triple
      (fun w => Loaded d w ∧ w.undoManagers.get? manager = some {})
      (byEngine (setUndoManager id manager))
      (fun _ w => (Loaded d w ∧ .undoManager manager ∈ w.engine.bus.handlers .undoStackChanged) ∧
        w.undoManagers.get? manager = some {}) (fun _ _ => True) := by
    refine fun manager => triple_byEngine_if fun w _ w' hw heq => ?_
    obtain ⟨engine, sessions, rfl, hreplica, hhears⟩ := setUndoManager_hears heq
    refine ⟨⟨⟨hw.1.quiet, ?_, hw.1.editor⟩, hhears⟩, hw.2⟩
    show engine.replica.document = d
    rw [hreplica]
    exact hw.1.document
  refine startUndo_rule hnote hcreate hset fun manager w hw => ⟨manager, ?_⟩
  obtain ⟨⟨hloaded, hhears⟩, hmanager⟩ := hw
  obtain ⟨e', he'⟩ := Option.isSome_iff_exists.1 hloaded.editor
  rw [relayModified_of_new hmanager e]
  let managed : Editor := { e' with undoManager := some manager, modifiedSubscription := some 0 }
  refine ⟨hloaded.quiet, ⟨⟨managed, ?_, rfl⟩, hhears, ?_⟩, fun _ => hloaded.document⟩
  · simp [Workspace.modifyEditor, he', managed]
  · simp [modified?, Workspace.modifyEditor]

theorem triple_noticed {f : Workspace → Except EngineError α × Workspace}
    (h : ∀ manager w, Quiet w → Noticed manager w (f w).2) :
    Triple (Watched d) (byEngine f) (fun _ => Watched d) (fun _ _ => True) :=
  (triple_byEngine_of_lasting fun w hw => hw.noticed fun manager => h manager w hw.quiet).mono
    (fun _ hw => hw) (fun _ _ hw => hw) fun _ _ _ => trivial

theorem triple_enterDocument_watched (e : Editor) (id : Nat) :
    Triple (Watched d) (enterDocument conduct e id) (fun _ => Watched d) (fun _ _ => True) := by
  have hattach (manager : Nat) (w : Workspace) (hw : w.Quiet) :
      Noticed manager w (w.attachToolbar e true) := by
    have hnote : Noticed manager w _ := noticed_interfaceNote hw e.frontend (.attached true)
    exact hnote.trans (noticed_modifyEditor hnote.quiet fun _ => ⟨rfl, rfl⟩)
  exact enterDocument_rule (triple_noticed fun manager w hw => noticed_subscribe hw _ _)
    (fun _ w hw => hw.noticed fun _ => noticed_modifyEditor hw.quiet fun _ => ⟨rfl, rfl⟩)
    (fun _ => triple_noticed fun manager w hw => (noticed_submission manager).submit hw _)
    (fun _ w hw => hw.noticed fun manager => hattach manager w hw.quiet)
    (fun _ => triple_noticed fun manager w hw => noticed_submitFor hw id .addCursor)
    fun _ w hw => hw.noticed fun _ => noticed_setEditing hw.quiet id true

theorem triple_startSession_watched (hundo : e.options.features.undoRedo = true) :
    Triple (Loaded d) (startSession conduct e) (fun _ => Watched d) (fun _ _ => True) :=
  startSession_rule (triple_createSession_loaded _ _)
    (fun id => equipSession_rule (fun _ => triple_startUndo_watched e id)
      (fun _ hplain => absurd (hundo.symm.trans hplain) (by decide))
      (triple_enterDocument_watched e id))
    (fun _ _ _ _ => trivial)
    fun _ _ hw => hw.noticed fun _ => noticed_modifyEditor hw.quiet fun _ => ⟨rfl, rfl⟩

theorem triple_advanceReady : Triple (Watched d) (advance .ready)
    (fun _ w => Watched d w ∧ ∃ e, w.editor = some e ∧ e.state = .editing)
    (fun _ _ => True) := by
  refine advance_rule ?_ fun _ _ _ => trivial
  rintro w e state ⟨manager, hguarded⟩ he hnext
  obtain rfl := state_of_ready hnext
  obtain ⟨e', he', hmanager⟩ := hguarded.wired.editor
  obtain rfl := Option.some.inj (he.symm.trans he')
  refine ⟨⟨manager, hguarded.quiet, ⟨⟨{ e with state := .editing }, ?_, hmanager⟩,
    hguarded.wired.hears, hguarded.wired.managed⟩, hguarded.saved⟩,
    { e with state := .editing }, ?_, rfl⟩ <;> simp [Workspace.modifyEditor, he]

/-- A document that was opened is watched. -/
theorem triple_openDocument_watched (hquiet : w.Quiet) (he : w.editor = some e)
    (hundo : e.options.features.undoRedo = true) (files : FileTree) (url : String) :
    Triple (fun w' => w' = w) (openDocument conduct files e url)
      (fun _ w' => ∃ d, w.engine.find files url = .ok d ∧ Watched d w' ∧
        ∃ e, w'.editor = some e ∧ e.state = .editing) (fun _ _ => True) := by
  have hadvance : Triple (fun w' => w' = w) (advance .open)
      (fun _ w' => w'.Quiet ∧ w'.engine = w.engine ∧ w'.editor.isSome = true)
      (fun _ _ => True) := by
    refine advance_rule ?_ fun _ _ _ => trivial
    rintro _ e state rfl he -
    exact ⟨hquiet, rfl, by simp [Workspace.modifyEditor, he]⟩
  have hload : Triple (fun w' => w'.Quiet ∧ w'.engine = w.engine ∧ w'.editor.isSome = true)
      (byEngine (loadDocument files url))
      (fun _ w' => ∃ d, w.engine.find files url = .ok d ∧ Loaded d w') (fun _ _ => True) := by
    refine triple_byEngine_if fun w' _ w'' hw' heq => ?_
    obtain ⟨hquiet, hengine, heditor⟩ := hw'
    unfold loadDocument Engine.load at heq
    rw [hengine] at heq
    cases hfind : w.engine.find files url with
    | error cause =>
        rw [hfind] at heq
        cases heq
    | ok d =>
        rw [hfind] at heq
        simp only [Prod.mk.injEq, true_and] at heq
        subst heq
        exact ⟨d, rfl, hquiet, rfl, heditor⟩
  have hstart : Triple (fun w' => ∃ d, w.engine.find files url = .ok d ∧ Loaded d w')
      (startSession conduct e) (fun _ w' => ∃ d, w.engine.find files url = .ok d ∧ Watched d w')
      (fun _ _ => True) := by
    rintro w' ⟨d, hfind, hloaded⟩
    exact (triple_startSession_watched hundo).mono (fun _ hw => hw) (fun _ _ hw => ⟨d, hfind, hw⟩)
      (fun _ _ _ => trivial) w' hloaded
  have hready : Triple (fun w' => ∃ d, w.engine.find files url = .ok d ∧ Watched d w')
      (advance .ready)
      (fun _ w' => ∃ d, w.engine.find files url = .ok d ∧ Watched d w' ∧
        ∃ e, w'.editor = some e ∧ e.state = .editing) (fun _ _ => True) := by
    rintro w' ⟨d, hfind, hwatched⟩
    exact triple_advanceReady.mono (fun _ hw => hw) (fun _ _ hw => ⟨d, hfind, hw⟩)
      (fun _ _ _ => trivial) w' hwatched
  exact openDocument_rule hadvance hload hstart (fun _ _ => trivial)
    (fun _ => advance_rule (fun _ _ _ _ _ _ => trivial) fun _ _ _ => trivial) hready

theorem editing_open (hquiet : w.Quiet) (he : w.editor = some e)
    (hundo : e.options.features.undoRedo = true) {url : String}
    (hopen : (w.execute (.editor (.open url))).1 = .done) :
    ∃ d manager, w.engine.find w.files url = .ok d ∧
      Editing manager d (w.execute (.editor (.open url))).2 := by
  let held : Workspace := { w with holds := (.editor, .exclusive) :: w.holds }
  have hexecute : w.execute (.editor (.open url)) = w.holding .editor .exclusive fun w =>
      reply .editor ((openDocument conduct w.files e url).result w) := by
    rw [execute_eq_step, step, withEditor, he]
    rfl
  have hwatched := triple_openDocument_watched (w := held) hquiet he hundo w.files url held rfl
  rw [hexecute] at hopen ⊢
  cases hfree : w.isFree .editor .exclusive with
  | false =>
      simp only [holding, hfree, Bool.false_eq_true, if_false] at hopen
      cases hopen
  | true =>
      simp only [holding, hfree, if_true] at hopen ⊢
      cases hr : (openDocument conduct w.files e url).result held with
      | mk answer w' =>
          rw [hr] at hwatched
          simp only [show (openDocument conduct w.files e url).result
            { w with holds := (.editor, .exclusive) :: w.holds } = (answer, w') from hr] at hopen ⊢
          cases answer with
          | error cause => cases hopen
          | ok _ =>
              obtain ⟨d, hfind, ⟨manager, hguarded⟩, hediting⟩ := hwatched
              have hwired := hguarded.wired
              exact ⟨d, manager, hfind, ⟨hguarded.quiet, ⟨hwired.editor, hwired.hears,
                hwired.managed⟩, hguarded.saved⟩, hfree, hediting⟩

/-- As long as an editor with undo edits a document that it opened, whoever submits what and
whenever it is applied: between two commands the flag is down only if the document is what it was
when the flag was put down last, or what was loaded if that never happened. -/
theorem unsaved_changes_noticed (hquiet : w.Quiet) (he : w.editor = some e)
    (hundo : e.options.features.undoRedo = true) {url : String}
    (hopen : (w.execute (.editor (.open url))).1 = .done) :
    ∃ loaded, w.engine.find w.files url = .ok loaded ∧
      ∀ later : List Command, (∀ c ∈ later, c.staysEditing = true) →
        let opened := (w.execute (.editor (.open url))).2
        let w' := later.foldl (fun w c => (w.execute c).2) opened
        ∃ e', w'.editor = some e' ∧ e'.state = .editing ∧
          (w'.isModified e' = false → w'.engine.document = savedDocument loaded later opened) := by
  obtain ⟨loaded, manager, hfind, hopened⟩ := editing_open hquiet he hundo hopen
  refine ⟨loaded, hfind, fun later hlater => ?_⟩
  intro opened w'
  have hlast : Editing manager (savedDocument loaded later opened) w' := editing_run hopened hlater
  obtain ⟨e', he', hediting⟩ := hlast.editing
  refine ⟨e', he', hediting, fun hunmodified => hlast.saved ?_⟩
  obtain ⟨e'', he'', hmanager⟩ := hlast.wired.editor
  obtain rfl := Option.some.inj (he'.symm.trans he'')
  obtain ⟨flag, hflag⟩ := Option.isSome_iff_exists.1 hlast.wired.managed
  obtain ⟨m, hm, rfl⟩ := Option.map_eq_some_iff.1 hflag
  have hdown : m.modified = false := by simpa [isModified, hmanager, hm] using hunmodified
  rw [hflag, hdown]

end Opening

def untitled : Workspace :=
  ((createEditor { member := ⟨"m"⟩, options := .withAllFeatures } {}).execute
    (.engine (.register "doc" {}))).2

/-- Another member gives the document a title, which is saved, and queues another one. -/
def retitling : List Command :=
  [.engine (.enqueue [.updateMetadata ⟨"n"⟩ (Dict.ofList [("title", "first")]) []]),
    .engine .flush, .editor (.setModified false),
    .engine (.enqueue [.updateMetadata ⟨"n"⟩ (Dict.ofList [("title", "second")]) []])]

/-- The title that waits in the queue does not count. -/
theorem unsaved_changes_noticed_in_retitling :
    let opened := (untitled.execute (.editor (.open "doc"))).2
    let w := retitling.foldl (fun w c => (w.execute c).2) opened
    w.engine.document = savedDocument {} retitling opened ∧
      w.engine.document.metadata.get? "title" = some "first" := by
  intro opened w
  have hquiet : untitled.Quiet := fun _ _ h => by cases h
  obtain ⟨e, he, hundo⟩ : ∃ e, untitled.editor = some e ∧
      e.options.features.undoRedo = true := ⟨_, rfl, rfl⟩
  have hopen : (untitled.execute (.editor (.open "doc"))).1 = .done := by rfl
  obtain ⟨loaded, hfind, hlater⟩ := unsaved_changes_noticed hquiet he hundo hopen
  have hloaded : loaded = {} := (Except.ok.inj hfind).symm
  obtain ⟨e', he', -, hnoticed⟩ := hlater retitling (by decide)
  have hflag : w.editor.map w.isModified = some false := by decide +kernel
  have hunmodified : w.isModified e' = false := by
    have hmap : w.editor.map w.isModified = some (w.isModified e') := by rw [he']; rfl
    exact Option.some.inj (hmap.symm.trans hflag)
  exact ⟨hloaded ▸ hnoticed hunmodified, by decide +kernel⟩

end Coedit.Workspace
