import Coedit.Proofs.Session.Alone
import Coedit.Proofs.Workspace.Upshot

/-!
# What lasts through deliveries

Deliveries change what is known, noted and queued. The editor, the subscriptions to the engine and
to sessions, what commands hold, and the commands that observers give change only where an observer
gives a command. So what depends on nothing else, and lasts through every command that an observer
may give, lasts through a flush, however deep the commands nest.
-/

namespace Coedit.Workspace

/-- The editor, the subscriptions to the engine and to sessions, what commands hold, the commands
that observers give, and the numbers that were given out are the same. -/
structure Passing (w w' : Workspace) : Prop where
  editor : w'.editor = w.editor
  bus : w'.engine.bus = w.engine.bus
  holds : w'.holds = w.holds
  actions : ∀ id, (w'.observers.get? id).map (·.actions) = (w.observers.get? id).map (·.actions)
  nextId : w'.nextId = w.nextId
  buses : ∀ id, (w'.sessions.get? id).map (·.bus) = (w.sessions.get? id).map (·.bus)

theorem Passing.refl (w : Workspace) : Passing w w :=
  ⟨rfl, rfl, rfl, fun _ => rfl, rfl, fun _ => rfl⟩

theorem Passing.trans {w w' w'' : Workspace} (h : Passing w w') (h' : Passing w' w'') :
    Passing w w'' :=
  ⟨h'.editor.trans h.editor, h'.bus.trans h.bus, h'.holds.trans h.holds,
    fun id => (h'.actions id).trans (h.actions id), h'.nextId.trans h.nextId,
    fun id => (h'.buses id).trans (h.buses id)⟩

/-- A change of a session that leaves its subscribers alone. -/
theorem buses_modifySession {w : Workspace} {other : Nat} {f : Session → Session}
    (hf : ∀ s, (f s).bus = s.bus) (id : Nat) :
    ((w.modifySession other f).sessions.get? id).map (·.bus) =
      (w.sessions.get? id).map (·.bus) :=
  Dict.map_get?_modify hf w.sessions other id

theorem passing_modifySession {w : Workspace} {id : Nat} {f : Session → Session}
    (hf : ∀ s, (f s).bus = s.bus) : Passing w (w.modifySession id f) :=
  ⟨rfl, rfl, rfl, fun _ => rfl, rfl, buses_modifySession hf⟩

theorem gives_of_actions {allowed : Command → Prop} {w w' : Workspace}
    (h : ∀ id, (w'.observers.get? id).map (·.actions) = (w.observers.get? id).map (·.actions))
    (hgives : Agenda.ObserversGive allowed w) : Agenda.ObserversGive allowed w' := by
  intro id o' ho' c hc
  have hsame := h id
  rw [ho'] at hsame
  obtain ⟨o, ho, hactions⟩ := Option.map_eq_some_iff.1 hsame.symm
  exact hgives id o ho c (hactions ▸ hc)

theorem Passing.gives {allowed : Command → Prop} {w w' : Workspace} (h : Passing w w')
    (hgives : Agenda.ObserversGive allowed w) : Agenda.ObserversGive allowed w' :=
  gives_of_actions h.actions hgives

/-- Nothing but the engine changed, and the engine kept its subscriptions. -/
theorem passing_engine {w : Workspace} {engine : Engine EngineListener}
    (h : engine.bus = w.engine.bus) : Passing w { w with engine } :=
  ⟨rfl, h, rfl, fun _ => rfl, rfl, fun _ => rfl⟩

theorem passing_interfaceNote (frontend : Frontend) (note : InterfaceNote) (w : Workspace) :
    Passing w (w.interfaceNote frontend note) := by
  cases frontend <;> exact ⟨rfl, rfl, rfl, fun _ => rfl, rfl, fun _ => rfl⟩

theorem passing_loadDocument (files : FileTree) (url : String) (w : Workspace) :
    Passing w (w.loadDocument files url).2 := by
  unfold loadDocument Engine.load
  cases w.engine.find files url with
  | error cause => exact .refl w
  | ok document => exact passing_engine rfl

theorem passing_finishClose (w : Workspace) :
    Passing w { w with engine := w.engine.finishClose.2 } := by
  refine passing_engine ?_
  unfold Engine.finishClose
  split <;> rfl

theorem passing_setEditing (id : Nat) (editing : Bool) (w : Workspace) :
    Passing w (w.setEditing id editing) := by
  unfold setEditing
  cases w.sessions.get? id with
  | none => exact .refl w
  | some s =>
      exact (passing_interfaceNote s.frontend
        (if editing then .startEditing else .endEditing) w).trans
          (passing_modifySession fun _ => rfl)

theorem passing_changeReservation (id : Nat) (p : Proposal)
    (change : SessionCore → StyleId → SessionCore) (w : Workspace) :
    Passing w (w.changeReservation id p change) := by
  unfold changeReservation
  split
  · exact passing_modifySession fun _ => rfl
  · exact .refl w

/-- A batch is queued; an identifier may be reserved, and released again. -/
theorem passing_queueEdit (id : Nat) (e : Edit) (w : Workspace) :
    Passing w (w.queueEdit id e).2 := by
  unfold queueEdit
  cases w.sessions.get? id with
  | none => exact .refl w
  | some s =>
      simp only
      cases s.core.propose w.engine.replica e with
      | error cause => exact .refl w
      | ok p =>
          have hreserve := passing_changeReservation id p .reserve w
          simp only
          split
          · exact .refl w
          · cases ht : (w.changeReservation id p .reserve).takeFrom p.batch with
            | error cause => exact hreserve.trans (passing_changeReservation id p .release _)
            | ok w' =>
                obtain rfl := takeFrom_eq ht
                exact hreserve.trans (passing_engine rfl)

/-! ## What a delivery does by itself -/

/-- What a delivery does from one moment to the next, apart from the commands of observers. -/
inductive Stir : Workspace → Workspace → Prop where
  | recorded (w : Workspace) (entry : LogEntry) : Stir w (w.record entry)
  | answered {w : Workspace} {id : Nat} {o : Observer Command}
      (ho : w.observers.get? id = some o) :
      Stir w { w with observers := w.observers.insert id o.answer.2 }
  | reporting (w : Workspace) (reporting : List Nat) : Stir w { w with reporting }
  | informed (w : Workspace) (informed : List Nat) : Stir w { w with informed }
  | managed {w : Workspace} {id : Nat} {m : UndoManager Nat}
      (hm : w.undoManagers.get? id = some m) (modified : Bool) :
      Stir w { w with undoManagers := w.undoManagers.insert id (m.setModified modified).1 }
  | reacting (w : Workspace) (id : Nat) (count : Nat → Nat) :
      Stir w (w.modifySession id fun s => { s with reacting := count s.reacting })
  | reacted {w : Workspace} {id : Nat} {s : Session} (hs : w.sessions.get? id = some s)
      (reaction : Reaction) :
      Stir w (w.modifySession id fun old =>
        { old with core := (s.core.react w.engine.replica reaction).1 })
  | applied {w : Workspace} {events : List EngineEvent} {engine : Engine EngineListener}
      (h : w.engine.applyNext? = some (events, engine)) : Stir w { w with engine }

theorem Stir.passing {w w' : Workspace} (h : Stir w w') : Passing w w' := by
  cases h with
  | recorded | reporting | informed | managed =>
      exact ⟨rfl, rfl, rfl, fun _ => rfl, rfl, fun _ => rfl⟩
  | answered ho =>
      refine ⟨rfl, rfl, rfl, fun other => ?_, rfl, fun _ => rfl⟩
      simp only [Dict.get?_insert]
      split
      · rename_i hsame
        subst hsame
        rw [ho, Option.map_some, Option.map_some, Observer.answer_actions]
      · rfl
  | reacting | reacted => exact passing_modifySession fun _ => rfl
  | applied h =>
      obtain ⟨-, hnone⟩ | ⟨batch, rest, -, hsome⟩ := Engine.applyNext?_cases w.engine
      · rw [hnone] at h
        cases h
      · rw [hsome] at h
        obtain ⟨-, rfl⟩ := Prod.mk.inj (Option.some.inj h)
        exact passing_engine rfl

/-- `P` abides while deliveries go on, and through the commands of observers, which are all
allowed. -/
structure Abiding (act : Conduct) (allowed : Command → Prop) (P : Workspace → Prop) : Prop where
  stirs : ∀ {w w'}, P w → Stir w w' → P w'
  gives : ∀ {w}, P w → Agenda.ObserversGive allowed w
  acts : ∀ {w c}, P w → allowed c → P (act c w).2

namespace Abiding

variable {act : Conduct} {allowed : Command → Prop} {P : Workspace → Prop} {w : Workspace}

/-! ## Telling observers -/

theorem carryOut (h : Abiding act allowed P) (label : String) {actions : List Command}
    (hactions : ∀ c ∈ actions, allowed c) (hw : P w) :
    P (Coedit.carryOut act (fun reply => record (.observer (.did label reply))) actions w) := by
  induction actions generalizing w with
  | nil => exact hw
  | cons c rest ih =>
      have hdone : P (act c w).2 := h.acts hw (hactions c List.mem_cons_self)
      exact ih (fun c' hc' => hactions c' (List.mem_cons_of_mem _ hc'))
        (h.stirs hdone (.recorded _ _))

theorem notify (h : Abiding act allowed P) (event : AnyEvent) (id : Nat) (hw : P w) :
    P (w.notify act event id) := by
  unfold Workspace.notify
  cases ho : w.observers.get? id with
  | none => exact hw
  | some o =>
      have hheard := h.stirs hw (.recorded w (.observer (.heard o.label event)))
      exact h.carryOut o.label (fun c hc => h.gives hw id o ho c (Observer.mem_answer hc))
        (h.stirs hheard (.answered ho))

theorem announce (h : Abiding act allowed P) (id : Nat) (event : SessionEvent) (hw : P w) :
    P (w.announce act id event) := by
  unfold Workspace.announce
  split
  · exact hw
  · exact List.foldlRecOn _ _ hw fun _ hw observer _ => h.notify _ observer hw

theorem report (h : Abiding act allowed P) (editor : Nat) (event : EditorEvent) (hw : P w) :
    P (w.report act editor event) := by
  unfold Workspace.report
  split
  · exact hw
  · exact h.stirs
      (List.foldlRecOn _ _ (h.stirs hw (.reporting w (editor :: w.reporting)))
        fun _ hw observer _ => h.notify _ observer hw)
      (.reporting _ _)

/-! ## Hearing of an event -/

theorem reactOnce (h : Abiding act allowed P) (id : Nat) (reaction : Reaction) (hw : P w) :
    P (w.reactOnce act id reaction) := by
  unfold Workspace.reactOnce
  split
  · exact hw
  · rename_i s hs
    have hcore := h.stirs hw (.reacted hs reaction)
    simp only
    split
    · exact h.announce id _ hcore
    · exact hcore

theorem sessionHears (h : Abiding act allowed P) (event : EngineEvent) (id : Nat) (hw : P w) :
    P (w.sessionHears act event id) := by
  unfold Workspace.sessionHears
  split
  · exact hw
  · simp only
    split
    · have hbegin := h.stirs hw (.reacting w id fun n => n + 1)
      exact h.stirs
        (List.foldlRecOn _ _ hbegin fun _ hw reaction _ => h.reactOnce id reaction hw)
        (.reacting _ id fun n => n - 1)
    · exact hw

theorem setModified (h : Abiding act allowed P) (id : Nat) (modified : Bool) (hw : P w) :
    P (w.setModified act id modified) := by
  unfold Workspace.setModified
  split
  · exact hw
  · rename_i m hm
    have hset := h.stirs hw (.managed hm modified)
    simp only
    split
    · exact List.foldlRecOn _ _ hset fun _ hw editor _ => h.report editor _ hw
    · exact hset

theorem inform (h : Abiding act allowed P) (id : Nat) (hw : P w) : P (w.inform act id) := by
  unfold Workspace.inform
  split
  · have hinformed := h.stirs hw (.informed w (id :: w.informed))
    exact h.stirs (h.setModified id true hinformed) (.informed _ _)
  · exact hw

theorem hear (h : Abiding act allowed P) (event : EngineEvent) (listener : EngineListener)
    (hw : P w) : P (w.hear act event listener) := by
  cases listener with
  | session id => exact h.sessionHears event id hw
  | undoManager id => exact h.inform id hw
  | metadataRelay editor =>
      cases event with
      | metadataChanged set removed => exact h.report editor _ hw
      | _ => exact hw
  | observer id => exact h.notify _ id hw

theorem publish (h : Abiding act allowed P) (event : EngineEvent) (hw : P w) :
    P (w.publish act event) :=
  List.foldlRecOn _ _ hw fun _ hw listener _ => h.hear event listener hw

/-! ## Applying the queue -/

theorem applyQueued (h : Abiding act allowed P) (count : Nat) (hw : P w) :
    P (w.applyQueued act count) := by
  induction count generalizing w with
  | zero => exact hw
  | succ count ih =>
      unfold Workspace.applyQueued
      cases hnext : w.engine.applyNext? with
      | none => exact hw
      | some next =>
          exact ih (List.foldlRecOn _ _ (h.stirs hw (.applied hnext))
            fun _ hw event _ => h.publish event hw)

theorem flush (h : Abiding act allowed P) (hw : P w) : P (w.flush act) := h.applyQueued _ hw

theorem followUp (h : Abiding act allowed P) (hw : P w) : P (w.followUp act) := by
  unfold Workspace.followUp
  split
  · exact h.flush hw
  · exact hw

end Abiding

/-! ## What lasts whatever is known, noted or queued -/

/-- `P` lasts while deliveries pass, and through the commands of observers, which are all
allowed. -/
structure Lasting (act : Conduct) (allowed : Command → Prop) (P : Workspace → Prop) : Prop where
  passing : ∀ {w w'}, P w → Passing w w' → P w'
  gives : ∀ {w}, P w → Agenda.ObserversGive allowed w
  acts : ∀ {w c}, P w → allowed c → P (act c w).2

namespace Lasting

variable {act : Conduct} {allowed : Command → Prop} {P : Workspace → Prop} {w : Workspace}

theorem abiding (h : Lasting act allowed P) : Abiding act allowed P :=
  ⟨fun hw hstir => h.passing hw hstir.passing, h.gives, h.acts⟩

theorem report (h : Lasting act allowed P) (editor : Nat) (event : EditorEvent) (hw : P w) :
    P (w.report act editor event) := h.abiding.report editor event hw

theorem setModified (h : Lasting act allowed P) (id : Nat) (modified : Bool) (hw : P w) :
    P (w.setModified act id modified) := h.abiding.setModified id modified hw

theorem flush (h : Lasting act allowed P) (hw : P w) : P (w.flush act) := h.abiding.flush hw

theorem followUp (h : Lasting act allowed P) (hw : P w) : P (w.followUp act) :=
  h.abiding.followUp hw

theorem enqueue (h : Lasting act allowed P) (batch : Batch) (hw : P w) :
    P (w.enqueue act batch).2 := by
  unfold Workspace.enqueue
  cases ht : w.take batch with
  | error cause => exact hw
  | ok w' =>
      obtain ⟨-, rfl⟩ := Agenda.engine_take ht
      exact h.followUp (h.passing hw (passing_engine rfl))

theorem submit (h : Lasting act allowed P) (batch : Batch) (hw : P w) :
    P (w.submit act batch).2 := by
  unfold Workspace.submit
  cases ht : w.takeFrom batch with
  | error cause => exact hw
  | ok w' =>
      obtain rfl := takeFrom_eq ht
      exact h.followUp (h.passing hw (passing_engine rfl))

theorem submitFor (h : Lasting act allowed P) (id : Nat) (operation : MemberId → Operation)
    (hw : P w) : P (w.submitFor act id operation).2 := by
  unfold Workspace.submitFor
  cases w.sessions.get? id with
  | none => exact hw
  | some s => exact h.submit _ hw

theorem closeEngine (h : Lasting act allowed P) (hw : P w) : P (w.closeEngine act).2 := by
  unfold Workspace.closeEngine
  split
  · exact h.passing (h.flush hw) (passing_finishClose _)
  · exact hw

theorem edit (h : Lasting act allowed P) (id : Nat) (e : Edit) (hw : P w) :
    P (w.edit act id e).2 :=
  of_edit (h.passing hw (passing_queueEdit id e w)) fun _ => h.followUp

end Lasting

end Coedit.Workspace

namespace Coedit.Agenda

open Workspace (Stir)

/-! ## From one moment to the next -/

/-- What is not changed by what a delivery does by itself is the same after each of its steps. -/
theorem stirred_begin {P : Workspace → Prop} (hstir : ∀ {w w'}, P w → Stir w w' → P w')
    (hholds : ∀ {w} holds, P w → P { w with holds }) {task : Task} (h : task.delivers = true)
    {w : Workspace} (hw : P w) (reply : Reply) : P (begin reply w task).workspace := by
  have hhears (event : EngineEvent) (id : Nat) :
      P (sessionHears reply w event id).workspace := by
    unfold sessionHears
    split
    · exact hw
    · split
      · exact hstir hw (.reacting w id fun n => n + 1)
      · exact hw
  have hinform (id : Nat) : P (inform reply w id).workspace := by
    unfold inform modification
    split
    · have hinformed := hstir hw (.informed w (id :: w.informed))
      simp only
      split
      · exact hinformed
      · rename_i m hm
        exact hstir hinformed (.managed (w := { w with informed := id :: w.informed }) hm true)
    · exact hw
  cases task with
  | perform | drain | shut => cases h
  | note label => exact hstir hw (.recorded w _)
  | answer | publish => exact hw
  | hear event listener =>
      cases listener with
      | session id => exact hhears event id
      | undoManager id => exact hinform id
      | metadataRelay editor => cases event <;> exact hw
      | observer id => exact hw
  | react id reaction =>
      simp only [begin, react]
      split
      · exact hw
      · rename_i s hs
        have hreacted := hstir hw (.reacted hs reaction)
        split <;> exact hreacted
  | settle id => exact hstir hw (.reacting w id fun n => n - 1)
  | tell event observer =>
      simp only [begin, tell]
      split
      · exact hw
      · rename_i o ho
        exact hstir (hstir hw (.recorded w (.observer (.heard o.label event)))) (.answered ho)
  | report editor event =>
      simp only [begin, report]
      split
      · exact hw
      · exact hstir hw (.reporting w (editor :: w.reporting))
  | reporting editors => exact hstir hw (.reporting w editors)
  | informed managers => exact hstir hw (.informed w managers)
  | holding holds => exact hholds holds hw

end Coedit.Agenda
