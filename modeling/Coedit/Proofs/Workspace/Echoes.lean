import Coedit.Proofs.Editor.Tally
import Coedit.Proofs.Editor.TwinEditors

/-!
# Commands in twins

A command to a workspace, and the same command to its twin with the numbers of subscriptions
translated, get the same reply, up to the number of a subscription. What the engine remembers of
the past can be asked for, and only there do the replies differ. To end a subscription that is over
is to do nothing, and has no counterpart.
-/

namespace Coedit

/-- A reply with the old number of a subscription. -/
def Reply.renumber (r : Renumbering) : Reply → Reply
  | .subscribed id => .subscribed (r.old id)
  | reply => reply

theorem Reply.renumber_same (reply : Reply) : reply.renumber .same = reply := by
  cases reply <;> rfl

namespace Command

/-- The same command, with the numbers that subscriptions have in a twin. There is none if the
subscription that it ends is over there. -/
def translate? (engine editor : Renumbering) : Command → Option Command
  | .engine (.unsubscribe signal id) =>
    (engine.new? id).map fun id => .engine (.unsubscribe signal id)
  | .editor (.unsubscribe signal id) =>
    (editor.new? id).map fun id => .editor (.unsubscribe signal id)
  | c => some c

/-- Every command to the twin has its counterpart. -/
theorem exists_translate? (engine editor : Renumbering) (c' : Command) :
    ∃ c : Command, c.translate? engine editor = some c' := by
  fun_cases translate? engine editor c' with
  | case1 signal id =>
      refine ⟨.engine (.unsubscribe signal (engine.old id)), ?_⟩
      rw [translate?, engine.new?_eq_some.2 rfl, Option.map_some]
  | case2 signal id =>
      refine ⟨.editor (.unsubscribe signal (editor.old id)), ?_⟩
      rw [translate?, editor.new?_eq_some.2 rfl, Option.map_some]
  | case3 =>
      rename_i hengine heditor
      refine ⟨c', ?_⟩
      unfold translate?
      split
      · exact absurd rfl (hengine _ _)
      · exact absurd rfl (heditor _ _)
      · rfl

/-- Whose numbers the reply to a command can hold. A session gives the same numbers in twins. -/
def numbering (engine editor : Renumbering) : Command → Renumbering
  | .watchEngine _ _ _ _ => engine
  | .watchEditor _ _ _ _ => editor
  | _ => .same

def asksForHistory : Command → Bool
  | .engine .takeSubmitted | .engine (.ask .submitted) | .engine (.ask .loadCount) => true
  | _ => false

end Command

namespace Workspace

/-- The same reply, up to the number of a subscription, from workspaces that are twins
afterwards. -/
structure Echo (r : Renumbering) (σ : Comparison) (f : Frame) (made made' : Reply × Workspace) :
    Prop where
  reply : made.1 = made'.1.renumber r
  twin : Twin σ f made.2 made'.2

section Echoes

variable {σ : Comparison} {f : Frame} {w w' : Workspace} {e e' : Editor} {act : Conduct}

theorem Twin.echo (h : Twin σ f w w') (reply : Reply) :
    Echo .same σ f (reply, w) (reply, w') := ⟨reply.renumber_same.symm, h⟩

theorem Answers.reply {ε : Type} {failure : ε → Failure} {made made' : Except ε Unit × Workspace}
    (h : Answers Eq σ f made made') :
    Echo .same σ f (Workspace.reply failure made) (Workspace.reply failure made') := by
  cases h with
  | ok _ hw => exact hw.echo .done
  | error hw => exact hw.echo _

/-! ## Commands to the engine -/

theorem Twin.answer (h : Twin σ f w w') {query : EngineQuery}
    (hquery : (Command.engine (.ask query)).asksForHistory = false) :
    w.engine.answer query = w'.engine.answer query := by
  have hcount := h.bus.copied.subscriberCount
  cases query with
  | submitted | loadCount => cases hquery
  | subscriberCount signal => exact congrArg EngineAnswer.number (hcount signal)
  | subscriberCounts =>
      exact congrArg EngineAnswer.numbers (List.map_congr_left fun signal _ => hcount signal)
  | _ =>
      obtain ⟨p, rfl⟩ := h.same
      rfl

/-- A command to the engine, beside the end of a subscription and questions about the past. -/
theorem Twin.doEngine (h : Twin σ f w w') {c : EngineCommand}
    (hc : (Command.engine c).aroundEditor = true)
    (hhistory : (Command.engine c).asksForHistory = false)
    (hsubscribed : ∀ signal id, c ≠ .unsubscribe signal id) :
    Echo .same σ f (w.doEngine act c) (w'.doEngine act c) := by
  cases c with
  | refuse => cases hc
  | takeSubmitted => cases hhistory
  | unsubscribe signal id => exact absurd rfl (hsubscribed signal id)
  | register url document =>
      obtain ⟨p, rfl⟩ := h.same
      exact ⟨rfl, ⟨p, rfl⟩, h.bus, h.sessions, h.undoManagers, h.editor, h.quiet, h.frame, h.first⟩
  | load url =>
      have hfiles : w.files = w'.files := by
        obtain ⟨p, rfl⟩ := h.same
        rfl
      simp only [Workspace.doEngine, hfiles]
      exact (h.loadDocument w'.files url).reply
  | close => exact h.closeEngine.reply
  | flush => exact h.flush.echo .done
  | failNextClose reason =>
      obtain ⟨p, rfl⟩ := h.same
      exact ⟨rfl, ⟨p, rfl⟩, h.bus, h.sessions, h.undoManagers, h.editor, h.quiet, h.frame, h.first⟩
  | setImmediate on =>
      obtain ⟨p, rfl⟩ := h.same
      exact ⟨rfl, ⟨p, rfl⟩, h.bus, h.sessions, h.undoManagers, h.editor, h.quiet, h.frame, h.first⟩
  | enqueue batch => exact (h.enqueue batch).reply
  | ask query =>
      simp only [Workspace.doEngine, h.answer hhistory]
      exact h.echo _

/-- Who asks about the past leaves twins behind, whatever the reply is. -/
theorem Twin.doEngine_history (h : Twin σ f w w') {c : EngineCommand}
    (hhistory : (Command.engine c).asksForHistory = true) :
    Twin σ f (w.doEngine act c).2 (w'.doEngine act c).2 := by
  cases c with
  | takeSubmitted =>
      obtain ⟨p, rfl⟩ := h.same
      exact ⟨⟨{ p with submitted := [] }, rfl⟩, h.bus, h.sessions, h.undoManagers, h.editor,
        h.quiet, h.frame, h.first⟩
  | ask query => exact h
  | _ => cases hhistory

/-! ## Subscribers -/

theorem Twin.addObserver (h : Twin σ f w w') (label : String) (times : Nat) :
    Twin σ f (w.addObserver label [] times) (w'.addObserver label [] times) := by
  have hnumbered := h.number
  have hquiet := quiet_addObserver h.quiet label times
  obtain ⟨p, rfl⟩ := h.same
  exact ⟨⟨p, rfl⟩, hnumbered.bus, hnumbered.sessions, hnumbered.undoManagers, hnumbered.editor,
    hquiet, hnumbered.frame, hnumbered.first⟩

theorem Twin.watchEngine (h : Twin σ f w w') (signal : EngineSignal) (label : String)
    (times : Nat) : Echo σ.engine σ f (w.watchEngine signal label [] times)
      (w'.watchEngine signal label [] times) := by
  unfold Workspace.watchEngine
  obtain ⟨cause, hw, hw'⟩ | ⟨id', engine, engine', hw, hw', hmade⟩ :=
    h.subscribeEngine signal (.observer w'.nextId) trivial
  · rw [← h.nextId] at hw
    rw [hw, hw']
    exact ⟨rfl, h⟩
  · rw [← h.nextId] at hw
    rw [hw, hw']
    exact ⟨rfl, hmade.addObserver label times⟩

theorem Twin.watchSession (h : Twin σ f w w') (signal : SessionSignal) (label : String)
    (times : Nat) {id : Nat} (hid : σ.first ≤ id) :
    Echo .same σ f (watchSession signal label [] times id w)
      (watchSession signal label [] times id w') := by
  unfold Workspace.watchSession
  rw [h.session hid, h.nextId]
  cases w'.sessions.get? id with
  | none => exact h.echo .absent
  | some s =>
      simp only [Option.map_some, Session.bus_renumber]
      cases s.bus.subscribe signal w'.nextId with
      | error cause => exact h.echo _
      | ok made =>
          have hbus : Twin σ f (w.modifySession id fun s => { s with bus := made.2 })
              (w'.modifySession id fun s => { s with bus := made.2 }) :=
            h.modifySession hid (fun _ => rfl) fun _ => rfl
          exact (hbus.addObserver label times).echo (.subscribed made.1)

theorem Twin.watchEditor (h : Twin σ f w w') (he : EditorTwin σ e e') (signal : EditorSignal)
    (label : String) (times : Nat) :
    Echo σ.editor σ f (watchEditor signal label [] times e w)
      (watchEditor signal label [] times e' w') := by
  unfold Workspace.watchEditor
  rw [h.nextId]
  obtain ⟨cause, hw, hw'⟩ | ⟨c, c', hw, hw', hcopied, -⟩ := he.bus.subscribe signal w'.nextId
  · rw [hw, hw']
    exact ⟨rfl, h⟩
  · rw [hw, hw']
    have hbus : Twin σ f (w.modifyEditor fun e => { e with bus := c })
        (w'.modifyEditor fun e => { e with bus := c' }) := by
      refine h.modifyEditor fun e e' he => ?_
      obtain ⟨bus, rfl⟩ := he.same
      exact ⟨⟨c, rfl⟩, hcopied, he.session, he.undoManager⟩
    exact ⟨rfl, hbus.addObserver label times⟩

/-! ## Commands to the session and its input controller -/

theorem Twin.doSession (h : Twin σ f w w') {id : Nat} (hid : σ.first ≤ id) (c : SessionCommand) :
    Echo .same σ f (w.doSession act id c) (w'.doSession act id c) := by
  cases c with
  | unsubscribe signal subscription =>
      have hbus : Twin σ f
          (w.modifySession id fun s => { s with bus := s.bus.unsubscribe signal subscription })
          (w'.modifySession id fun s => { s with bus := s.bus.unsubscribe signal subscription }) :=
        h.modifySession hid (fun _ => rfl) fun _ => rfl
      exact hbus.echo .done
  | ask query =>
      simp only [Workspace.doSession, h.session hid]
      cases hs : w'.sessions.get? id with
      | none => exact h.echo .absent
      | some s =>
          simp only [Option.map_some, h.askSession hs]
          exact h.echo _
  | edit e =>
      have hedited : Answers Eq σ f (w.edit act id e) (w'.edit act id e) := h.edit hid e
      simp only [Workspace.doSession]
      generalize w.edit act id e = r at hedited ⊢
      generalize w'.edit act id e = r' at hedited ⊢
      cases hedited with
      | ok hsame hw =>
          subst hsame
          exact hw.echo _
      | error hw => exact hw.echo _
  | undo => simpa [Workspace.doSession, UndoManager.undo] using h.echo (.flag false)
  | redo => simpa [Workspace.doSession, UndoManager.redo] using h.echo (.flag false)

theorem Twin.doInput (h : Twin σ f w w') {id : Nat} (hid : σ.first ≤ id) (c : InputCommand) :
    Echo .same σ f (w.doInput act id c) (w'.doInput act id c) := by
  cases c with
  | insertCursor => exact (h.submitFor hid .addCursor).reply
  | removeCursor => exact (h.submitFor hid .removeCursor).reply
  | setUndoManager =>
      have hset : Answers Eq σ f (w.createUndoManager.2.setUndoManager id w'.nextId)
          (w'.createUndoManager.2.setUndoManager id w'.nextId) :=
        h.createUndoManager.setUndoManager hid h.first (Nat.lt_succ_self _)
      show Echo .same σ f (reply .engine (w.createUndoManager.2.setUndoManager id w.nextId)) _
      rw [h.nextId]
      exact hset.reply
  | startEditing => exact (h.setEditing hid true).echo .done
  | endEditing => exact (h.setEditing hid false).echo .done

/-! ## Commands to the editor -/

theorem Twin.isModified (h : Twin σ f w w') (he : EditorTwin σ e e') :
    w.isModified e = w'.isModified e' := by
  obtain ⟨bus, rfl⟩ := he.same
  unfold Workspace.isModified
  show (e'.undoManager.bind w.undoManagers.get?).any (·.modified) = _
  cases hm : e'.undoManager with
  | none => rfl
  | some manager => simp only [Option.bind_some, h.manager (he.undoManager manager hm)]

theorem Twin.doEditor (h : Twin σ f w w') (he : EditorTwin σ e e') {c : EditorCommand}
    (hsubscribed : ∀ signal id, c ≠ .unsubscribe signal id) :
    Echo .same σ f (w.doEditor act e c) (w'.doEditor act e' c) := by
  cases c with
  | unsubscribe signal id => exact absurd rfl (hsubscribed signal id)
  | «open» url =>
      have hfiles : w.files = w'.files := by
        obtain ⟨p, rfl⟩ := h.same
        rfl
      simp only [Workspace.doEditor, hfiles]
      exact (parallel_openDocument he w'.files url w w' h).reply
  | close => exact (parallel_closeDocument he w w' h).reply
  | destroy => exact (parallel_destroyEditor he w w' h).reply
  | setUser user => exact (parallel_setUser he user w w' h).reply
  | setMetadata set removed => exact (parallel_setMetadata he set removed w w' h).reply
  | status =>
      have hmodified := h.isModified he
      obtain ⟨bus, rfl⟩ := he.same
      simp only [Workspace.doEditor, editorStatus, hmodified]
      exact h.echo _
  | profile =>
      obtain ⟨bus, rfl⟩ := he.same
      exact h.echo _
  | metadata property =>
      have hsame : w.metadata? e property = w'.metadata? e' property := by
        obtain ⟨bus, rfl⟩ := he.same
        obtain ⟨p, rfl⟩ := h.same
        rfl
      simp only [Workspace.doEditor, hsame]
      cases w'.metadata? e' property with
      | ok text => exact h.echo _
      | error cause => exact h.echo _
  | isModified =>
      simp only [Workspace.doEditor, h.isModified he]
      exact h.echo _
  | setModified modified =>
      have hsame : e.undoManager = e'.undoManager := by
        obtain ⟨bus, rfl⟩ := he.same
        rfl
      simp only [Workspace.doEditor, hsame]
      cases hm : e'.undoManager with
      | none => exact h.echo .done
      | some manager => exact (h.setModified (he.undoManager manager hm) modified).echo .done

theorem Twin.unsubscribeEditor (h : Twin σ f w w') (signal : EditorSignal) (id : Nat) :
    Echo .same σ f (w.doEditor act e (.unsubscribe signal (σ.editor.old id)))
      (w'.doEditor act e' (.unsubscribe signal id)) := by
  refine Twin.echo (h.modifyEditor fun e e' he => ?_) .done
  have hbus := he.bus.unsubscribe signal id
  obtain ⟨bus, rfl⟩ := he.same
  exact ⟨⟨_, rfl⟩, hbus, he.session, he.undoManager⟩

/-! ## Holding what a command needs -/

theorem Twin.withHolds (h : Twin σ f w w') (holds : List (Place × Access)) :
    Twin σ { f with holds } { w with holds } { w' with holds } := by
  obtain ⟨p, rfl⟩ := h.same
  refine ⟨⟨p, rfl⟩, h.bus, h.sessions, h.undoManagers, h.editor, h.quiet, ?_, h.first⟩
  rw [← h.frame]
  rfl

theorem Twin.holding {r : Renumbering} (h : Twin σ f w w') (place : Place) (access : Access)
    {job job' : Workspace → Reply × Workspace}
    (hjob : ∀ f v v', Twin σ f v v' → Echo r σ f (job v) (job' v')) :
    Echo r σ f (w.holding place access job) (w'.holding place access job') := by
  have hholds : w.holds = w'.holds := by
    obtain ⟨p, rfl⟩ := h.same
    rfl
  unfold Workspace.holding isFree
  simp only [hholds]
  split
  · have hdone := hjob _ _ _ (h.withHolds ((place, access) :: w'.holds))
    have hback := hdone.twin.withHolds w'.holds
    have hf : { { f with holds := (place, access) :: w'.holds } with holds := w'.holds } = f := by
      rw [← h.frame]
      rfl
    rw [hf] at hback
    exact ⟨hdone.reply, hback⟩
  · exact ⟨rfl, h⟩

theorem Twin.withEditor {r : Renumbering} (h : Twin σ f w w') (access : Access)
    {job job' : Editor → Workspace → Reply × Workspace}
    (hjob : ∀ f v v' e e', Twin σ f v v' → EditorTwin σ e e' →
      Echo r σ f (job e v) (job' e' v')) :
    Echo r σ f (w.withEditor access job) (w'.withEditor access job') := by
  obtain ⟨e, e', he, he', htwin⟩ := h.editor
  unfold Workspace.withEditor
  rw [he, he']
  exact h.holding .editor access fun f v v' hv => hjob f v v' e e' hv htwin

theorem Twin.withSession (h : Twin σ f w w') (access : Access)
    {job : Nat → Workspace → Reply × Workspace}
    (hjob : ∀ f v v' id, Twin σ f v v' → σ.first ≤ id → Echo .same σ f (job id v) (job id v')) :
    Echo .same σ f (w.withSession access job) (w'.withSession access job) := by
  obtain ⟨e, e', he, he', htwin⟩ := h.editor
  have hopen : openSession? e = openSession? e' := by
    obtain ⟨bus, rfl⟩ := htwin.same
    rfl
  unfold Workspace.withSession meantSession
  simp only [he, he', hopen]
  cases hs : openSession? e' with
  | none => exact h.holding .editor access fun f v v' hv => hv.echo _
  | some id =>
      exact h.holding .editor access fun f v v' hv =>
        hjob f v v' id hv (htwin.session id (session_of_openSession? hs))

/-! ## Any command -/

theorem Twin.unsubscribeEditor_stale (h : Twin σ f w w') (signal : EditorSignal) {id : Nat}
    (hid : σ.editor.new? id = none) :
    w.modifyEditor (fun e => { e with bus := e.bus.unsubscribe signal id }) = w := by
  obtain ⟨e, e', he, -, htwin⟩ := h.editor
  unfold Workspace.modifyEditor
  rw [he, Option.map_some, htwin.bus.unsubscribe_stale signal hid, ← he]

/-- A command that ends a subscription which is over in the twin does nothing. -/
theorem Twin.execute_stale (h : Twin σ f w w') (hfree : f.holds = []) {c : Command}
    (hc : c.translate? σ.engine σ.editor = none) : w.execute c = (.done, w) := by
  rw [execute_eq_step]
  unfold Command.translate? at hc
  split at hc
  · rename_i signal id
    exact congrArg (Prod.mk Reply.done)
      (h.unsubscribe_stale signal (Option.map_eq_none_iff.1 hc))
  · rename_i signal id
    obtain ⟨e, e', he, he', htwin⟩ := h.editor
    have hholds : w.holds = [] := by
      obtain ⟨p, rfl⟩ := h.same
      exact (congrArg Frame.holds h.frame).trans hfree
    have hsame := h.unsubscribeEditor_stale signal (Option.map_eq_none_iff.1 hc)
    simp only [step, withEditor_of_free he hholds]
    show (Reply.done, { w.modifyEditor (fun e => { e with bus := e.bus.unsubscribe signal id }) with
      holds := [] }) = _
    rw [hsame, ← hholds]
  · cases hc

theorem Twin.execute_same (h : Twin σ f w w') {c : Command} (hc : c.aroundEditor = true)
    (hhistory : c.asksForHistory = false)
    (hengine : ∀ signal id, c ≠ .engine (.unsubscribe signal id))
    (heditor : ∀ signal id, c ≠ .editor (.unsubscribe signal id)) :
    Echo (c.numbering σ.engine σ.editor) σ f (w.execute c) (w'.execute c) := by
  rw [execute_eq_step, execute_eq_step]
  cases c with
  | engine c =>
      exact h.doEngine hc hhistory fun signal id hsame => hengine signal id (congrArg _ hsame)
  | session c => exact h.withSession .shared fun f v v' id hv hid => hv.doSession hid c
  | input c => exact h.withSession .exclusive fun f v v' id hv hid => hv.doInput hid c
  | editor c =>
      have hsubscribed : ∀ signal id, c ≠ .unsubscribe signal id :=
        fun signal id hsame => heditor signal id (congrArg _ hsame)
      exact h.withEditor _ fun f v v' e e' hv he => hv.doEditor he hsubscribed
  | watchEngine signal label actions times =>
      obtain rfl := List.isEmpty_iff.1 hc
      exact h.watchEngine signal label times
  | watchSession signal label actions times =>
      obtain rfl := List.isEmpty_iff.1 hc
      exact h.withSession .shared fun f v v' id hv hid => hv.watchSession signal label times hid
  | watchEditor signal label actions times =>
      obtain rfl := List.isEmpty_iff.1 hc
      exact h.withEditor .shared fun f v v' e e' hv he => hv.watchEditor he signal label times
  | undecodable => exact h.echo .undecodable
  | newSession | destroySession | newEditor => cases hc

/-- Whatever asks for no history is answered alike, and twins remain twins. -/
theorem Twin.execute (h : Twin σ f w w') {c c' : Command} (hc : c.aroundEditor = true)
    (htranslate : c.translate? σ.engine σ.editor = some c') (hhistory : c.asksForHistory = false) :
    Echo (c.numbering σ.engine σ.editor) σ f (w.execute c) (w'.execute c') := by
  unfold Command.translate? at htranslate
  split at htranslate
  · rename_i signal id
    obtain ⟨id', hid, rfl⟩ := Option.map_eq_some_iff.1 htranslate
    rw [execute_eq_step, execute_eq_step, ← σ.engine.new?_eq_some.1 hid]
    exact (h.unsubscribe signal id').echo .done
  · rename_i signal id
    obtain ⟨id', hid, rfl⟩ := Option.map_eq_some_iff.1 htranslate
    rw [execute_eq_step, execute_eq_step, ← σ.editor.new?_eq_some.1 hid]
    exact h.withEditor .shared fun f v v' e e' hv _ => hv.unsubscribeEditor signal id'
  · rename_i hengine heditor
    obtain rfl := Option.some.inj htranslate
    exact h.execute_same hc hhistory (fun signal id => hengine signal id)
      fun signal id => heditor signal id

/-- Who asks for history does the same on both sides. -/
theorem Twin.execute_history (h : Twin σ f w w') {c c' : Command}
    (htranslate : c.translate? σ.engine σ.editor = some c') (hhistory : c.asksForHistory = true) :
    Twin σ f (w.execute c).2 (w'.execute c').2 := by
  obtain ⟨q, rfl⟩ : ∃ q, c = .engine q := by
    cases c with
    | engine q => exact ⟨q, rfl⟩
    | _ => cases hhistory
  have hsame : (Command.engine q).translate? σ.engine σ.editor = some (.engine q) := by
    cases q with
    | unsubscribe signal id => cases hhistory
    | _ => rfl
  obtain rfl := Option.some.inj (hsame.symm.trans htranslate)
  rw [execute_eq_step, execute_eq_step]
  exact h.doEngine_history hhistory

/-- After any command twins are twins, and unless history was asked for, the replies agree. -/
theorem Twin.answered (h : Twin σ f w w') {c c' : Command} (hc : c.aroundEditor = true)
    (htranslate : c.translate? σ.engine σ.editor = some c') :
    (c.asksForHistory = false →
      (w.execute c).1 = (w'.execute c').1.renumber (c.numbering σ.engine σ.editor)) ∧
      Twin σ f (w.execute c).2 (w'.execute c').2 := by
  cases hhistory : c.asksForHistory with
  | true => exact ⟨fun hno => (nomatch hno), h.execute_history htranslate hhistory⟩
  | false =>
      have hecho := h.execute hc htranslate hhistory
      exact ⟨fun _ => hecho.reply, hecho.twin⟩

end Echoes

end Workspace

end Coedit
