import Coedit.Proofs.Workspace.Hearing
import Coedit.Proofs.Workspace.Queue

/-!
# The time of flushing

As long as observers only listen, what anybody does about an event depends on the document and on
the subscriptions, and not on what is still queued (`publishAll_withEngine`). A batch therefore
comes to the same whenever it is applied: two runs that enqueue the same batches and end with a
flush end alike, wherever else they flush or switch to applying at once.
-/

namespace Coedit

/-- A batch, or a decision about when batches are applied. -/
inductive Turn where
  | enqueue (batch : Batch)
  | flush
  | immediate (on : Bool)

namespace Turn

def command : Turn → Command
  | enqueue batch => .engine (.enqueue batch)
  | flush => .engine .flush
  | immediate on => .engine (.setImmediate on)

def batch? : Turn → Option Batch
  | enqueue batch => some batch
  | _ => none

end Turn

namespace Workspace

/-! ## Another engine underneath -/

def withEngine (w : Workspace) (e : Engine EngineListener) : Workspace := { w with engine := e }

section Engines

variable {e : Engine EngineListener} {w : Workspace}

/-- Work that may be done on another engine first or last may also be done in many steps. -/
theorem foldl_withEngine {β : Type} {P : Workspace → Prop} {f : Workspace → β → Workspace}
    (keep : ∀ b w, P w → P (f w b))
    (step : ∀ b w, P w → f (w.withEngine e) b = (f w b).withEngine e) (l : List β) (h : P w) :
    l.foldl f (w.withEngine e) = (l.foldl f w).withEngine e := by
  induction l generalizing w with
  | nil => rfl
  | cons b rest ih =>
      rw [List.foldl_cons, List.foldl_cons, step b w h]
      exact ih (keep b w h)

theorem notify_withEngine (act : Conduct) (event : AnyEvent) (id : Nat) (h : w.Quiet) :
    (w.withEngine e).notify act event id = (w.notify act event id).withEngine e := by
  have hquiet : (w.withEngine e).Quiet := h
  cases ho : w.observers.get? id with
  | none =>
      have hnone : (w.withEngine e).observers.get? id = none := ho
      rw [notify_of_unknown act event ho, notify_of_unknown act event hnone]
  | some o =>
      rw [notify_of_quiet act event h ho, notify_of_quiet act event hquiet ho]
      rfl

theorem notifyAll_withEngine (act : Conduct) (event : AnyEvent) (observers : List Nat)
    (h : w.Quiet) :
    observers.foldl (fun w id => w.notify act event id) (w.withEngine e) =
      (observers.foldl (fun w id => w.notify act event id) w).withEngine e :=
  foldl_withEngine (f := fun w id => w.notify act event id)
    (fun id _ hw => (told_notify act event id hw).quiet)
    (fun id _ hw => notify_withEngine act event id hw) observers h

theorem announce_withEngine (act : Conduct) (id : Nat) (event : SessionEvent) (h : w.Quiet) :
    (w.withEngine e).announce act id event = (w.announce act id event).withEngine e := by
  unfold announce
  rw [show (w.withEngine e).sessions = w.sessions from rfl]
  split
  · rfl
  · exact notifyAll_withEngine act _ _ h

theorem report_withEngine (act : Conduct) (editor : Nat) (event : EditorEvent) (h : w.Quiet) :
    (w.withEngine e).report act editor event = (w.report act editor event).withEngine e := by
  unfold report
  rw [show (w.withEngine e).editor? editor = w.editor? editor from rfl]
  split
  · rfl
  · rename_i found _
    have hall := notifyAll_withEngine (e := e) act (.editor event) (found.bus.handlers event.signal)
      (show Quiet { w with reporting := editor :: w.reporting } from h)
    exact congrArg (fun w' : Workspace => { w' with reporting := w.reporting }) hall

theorem setModified_withEngine (act : Conduct) (id : Nat) (modified : Bool) (h : w.Quiet) :
    (w.withEngine e).setModified act id modified =
      (w.setModified act id modified).withEngine e := by
  unfold setModified
  rw [show (w.withEngine e).undoManagers = w.undoManagers from rfl]
  split
  · rfl
  · rename_i m _
    simp only
    split
    · exact foldl_withEngine
        (f := fun w editor => w.report act editor (.documentModifiedChanged modified))
        (fun editor _ hw => (told_report act editor _ hw).quiet)
        (fun editor _ hw => report_withEngine act editor _ hw) _
        (show Quiet { w with
          undoManagers := w.undoManagers.insert id (m.setModified modified).1 } from h)
    · rfl

theorem inform_withEngine (act : Conduct) (id : Nat) (h : w.Quiet) :
    (w.withEngine e).inform act id = (w.inform act id).withEngine e := by
  unfold inform
  rw [show (w.withEngine e).isUndoManagerUsed id = w.isUndoManagerUsed id from rfl]
  split
  · have hset := setModified_withEngine (e := e) act id true
      (show Quiet { w with informed := id :: w.informed } from h)
    exact congrArg (fun w' : Workspace => { w' with informed := w.informed }) hset
  · rfl

structure Shows (e : Engine EngineListener) (w : Workspace) : Prop where
  quiet : w.Quiet
  replica : e.replica = w.engine.replica

theorem Shows.after {w' : Workspace} (h : Shows e w) (hheard : Heard w w') : Shows e w' :=
  ⟨hheard.quiet, by rw [hheard.engine, h.replica]⟩

theorem reactOnce_withEngine (act : Conduct) (id : Nat) (reaction : Reaction) (h : Shows e w) :
    (w.withEngine e).reactOnce act id reaction = (w.reactOnce act id reaction).withEngine e := by
  unfold reactOnce
  rw [show (w.withEngine e).sessions = w.sessions from rfl]
  split
  · rfl
  · rename_i s _
    rw [show (w.withEngine e).engine.replica = w.engine.replica from h.replica]
    simp only
    split
    · exact announce_withEngine act id _
        (show Quiet (w.modifySession id fun old =>
          { old with core := (s.core.react w.engine.replica reaction).1 }) from h.quiet)
    · rfl

/-- A session asks the engine about the document only. -/
theorem sessionHears_withEngine (act : Conduct) (event : EngineEvent) (id : Nat)
    (h : Shows e w) :
    (w.withEngine e).sessionHears act event id = (w.sessionHears act event id).withEngine e := by
  unfold sessionHears
  rw [show (w.withEngine e).sessions = w.sessions from rfl]
  split
  · rfl
  · rename_i s _
    rw [show (w.withEngine e).engine.replica = w.engine.replica from h.replica]
    split
    · have hreact := foldl_withEngine (e := e) (f := reactOnce act id)
        (fun reaction _ hw => hw.after (heard_reactOnce act id reaction hw.quiet))
        (fun reaction _ hw => reactOnce_withEngine act id reaction hw)
        (s.core.reactions w.engine.replica event)
        (show Shows e (w.modifySession id fun s => { s with reacting := s.reacting + 1 }) from
          ⟨h.quiet, h.replica⟩)
      exact congrArg (modifySession id fun s => { s with reacting := s.reacting - 1 }) hreact
    · rfl

theorem hear_withEngine (act : Conduct) (event : EngineEvent) (listener : EngineListener)
    (h : Shows e w) :
    (w.withEngine e).hear act event listener = (w.hear act event listener).withEngine e := by
  cases listener with
  | session id => exact sessionHears_withEngine act event id h
  | undoManager id => exact inform_withEngine act id h.quiet
  | metadataRelay editor =>
      cases event with
      | metadataChanged set removed => exact report_withEngine act editor _ h.quiet
      | _ => rfl
  | observer id => exact notify_withEngine act (.engine event) id h.quiet

structure Speaks (e : Engine EngineListener) (w : Workspace) : Prop extends Shows e w where
  bus : e.bus = w.engine.bus

theorem publish_withEngine (act : Conduct) (event : EngineEvent) (h : Speaks e w) :
    (w.withEngine e).publish act event = (w.publish act event).withEngine e := by
  unfold publish
  rw [show (w.withEngine e).engine.bus = w.engine.bus from h.bus]
  exact foldl_withEngine (f := fun w listener => w.hear act event listener)
    (fun listener _ hw => hw.after (heard_hear act event listener hw.quiet))
    (fun listener _ hw => hear_withEngine act event listener hw) _ h.toShows

/-- What comes of events depends on nothing of the engine but its document and its
subscriptions. -/
theorem publishAll_withEngine (act : Conduct) (events : List EngineEvent) (h : Speaks e w) :
    events.foldl (publish act) (w.withEngine e) =
      (events.foldl (publish act) w).withEngine e := by
  refine foldl_withEngine (fun event w' hw => ?_)
    (fun event _ hw => publish_withEngine act event hw) events h
  have hheard := heard_publish act event hw.quiet
  exact ⟨hw.toShows.after hheard, by rw [hheard.engine, hw.bus]⟩

end Engines

/-! ## Batches out of turn -/

def withQueue (w : Workspace) (pending submitted : List Batch) (immediate : Bool) : Workspace :=
  w.withEngine { w.engine with pending, submitted, immediate }

def applyNow (w : Workspace) (batch : Batch) : Workspace :=
  (w.engine.replica.applyBatch batch).2.foldl (publish conduct)
    (w.withEngine { w.engine with replica := (w.engine.replica.applyBatch batch).1 })

variable {w : Workspace}

theorem heard_applyNow (h : w.Quiet) (batch : Batch) :
    Heard (w.withEngine { w.engine with replica := (w.engine.replica.applyBatch batch).1 })
      (w.applyNow batch) :=
  heard_publishAll conduct _ h

theorem engine_applyNow (h : w.Quiet) (batch : Batch) :
    (w.applyNow batch).engine =
      { w.engine with replica := (w.engine.replica.applyBatch batch).1 } :=
  (heard_applyNow h batch).engine

/-- What comes of a batch does not depend on the queue. -/
theorem applyNow_withQueue (h : w.Quiet) (batch : Batch) (pending submitted : List Batch)
    (immediate : Bool) :
    (w.withQueue pending submitted immediate).applyNow batch =
      (w.applyNow batch).withQueue pending submitted immediate := by
  have hspeaks : Speaks
      { w.engine with
        replica := (w.engine.replica.applyBatch batch).1, pending, submitted, immediate }
      (w.withEngine { w.engine with replica := (w.engine.replica.applyBatch batch).1 }) :=
    ⟨⟨h, rfl⟩, rfl⟩
  unfold withQueue
  rw [engine_applyNow h]
  exact publishAll_withEngine conduct _ hspeaks

theorem applyAll_withQueue (h : w.Quiet) (batches pending submitted : List Batch)
    (immediate : Bool) :
    batches.foldl applyNow (w.withQueue pending submitted immediate) =
      (batches.foldl applyNow w).withQueue pending submitted immediate := by
  induction batches generalizing w with
  | nil => rfl
  | cons batch rest ih =>
      rw [List.foldl_cons, List.foldl_cons, applyNow_withQueue h]
      exact ih (heard_applyNow h batch).quiet

def settled (w : Workspace) : Workspace :=
  w.engine.pending.foldl applyNow (w.withQueue [] w.engine.submitted false)

theorem flush_eq_applyAll (h : w.Quiet) :
    w.flush conduct =
      w.engine.pending.foldl applyNow (w.withQueue [] w.engine.submitted w.engine.immediate) := by
  generalize hb : w.engine.pending = batches
  induction batches generalizing w with
  | nil =>
      rw [flush_of_nil hb, List.foldl_nil, ← hb]
      rfl
  | cons batch rest ih =>
      let w₁ := w.withQueue rest w.engine.submitted w.engine.immediate
      have hnext : (w.engine.replica.applyBatch batch).2.foldl (publish conduct)
          (w.withApplied batch rest) = w₁.applyNow batch := rfl
      have hquiet₁ : w₁.Quiet := h
      have hengine := engine_applyNow hquiet₁ batch
      rw [flush_of_cons frugal_conduct hb, hnext,
        ih (heard_applyNow hquiet₁ batch).quiet (by rw [hengine]; rfl),
        List.foldl_cons, hengine]
      exact congrArg (rest.foldl applyNow) (applyNow_withQueue hquiet₁ batch _ _ _).symm

theorem engine_flush (h : w.Quiet) : (w.flush conduct).engine = drained w.engine :=
  (heard_flush h).engine

/-- A flush settles a workspace, but for whether it applies at once. -/
theorem settled_eq (h : w.Quiet) :
    w.settled = (w.flush conduct).withQueue [] w.engine.submitted false := by
  have hquiet : (w.withQueue [] w.engine.submitted w.engine.immediate).Quiet := h
  rw [flush_eq_applyAll h, ← applyAll_withQueue hquiet]
  rfl

theorem flush_eq_settled (h : w.Quiet) :
    w.flush conduct =
      w.settled.withEngine { w.settled.engine with immediate := w.engine.immediate } := by
  have hengine := engine_flush h
  rw [settled_eq h]
  unfold withQueue withEngine
  simp only
  rw [hengine]
  exact congrArg (fun e => { w.flush conduct with engine := e }) hengine

/-! ## Schedules -/

def absorb (w : Workspace) (batch : Batch) : Workspace :=
  (w.withQueue [] (w.engine.submitted ++ [batch]) false).applyNow batch

theorem settled_flush (h : w.Quiet) : (w.flush conduct).settled = w.settled := by
  have hengine := engine_flush h
  rw [settled_eq h]
  unfold settled
  rw [hengine]
  rfl

theorem settled_immediate (on : Bool) :
    (w.withEngine { w.engine with immediate := on }).settled = w.settled := rfl

/-- A batch that is queued behind others is applied to what these come to. -/
theorem settled_queued (h : w.Quiet) (batch : Batch) :
    (w.withEngine (Agenda.queued w.engine batch)).settled = w.settled.absorb batch := by
  have hsubmitted : w.settled.engine.submitted = w.engine.submitted := by
    rw [settled_eq h]
    rfl
  unfold absorb
  rw [hsubmitted]
  show (w.engine.pending ++ [batch]).foldl applyNow
    (w.withQueue [] (w.engine.submitted ++ [batch]) false) = _
  rw [List.foldl_append, List.foldl_cons, List.foldl_nil, applyAll_withQueue h]
  unfold settled
  rw [applyAll_withQueue h]
  rfl

/-- Observers only listen, and a document is open. -/
structure Receptive (w : Workspace) : Prop where
  quiet : w.Quiet
  opened : w.engine.phase = .opened

theorem receptive_flush (h : Receptive w) : Receptive (w.flush conduct) :=
  ⟨(heard_flush h.quiet).quiet, by rw [engine_flush h.quiet]; exact h.opened⟩

theorem execute_enqueue (h : Receptive w) (batch : Batch) :
    (w.execute (.engine (.enqueue batch))).2 =
      (w.withEngine (Agenda.queued w.engine batch)).followUp conduct := by
  have htake : w.take batch = .ok (w.withEngine (Agenda.queued w.engine batch)) := by
    cases htaken : w.take batch with
    | ok w' => exact congrArg Except.ok (Agenda.engine_take htaken).2
    | error cause => simp [Workspace.take, Engine.accept, h.opened] at htaken
  rw [execute_eq_step]
  simp only [step, doEngine, enqueue, htake, reply]

/-- Each turn settles as its batch says, or not at all. -/
theorem settled_turn (h : Receptive w) (turn : Turn) :
    Receptive (w.execute turn.command).2 ∧
      (w.execute turn.command).2.settled = turn.batch?.toList.foldl absorb w.settled := by
  cases turn with
  | enqueue batch =>
      have hqueued : Receptive (w.withEngine (Agenda.queued w.engine batch)) := ⟨h.quiet, h.opened⟩
      have hsettled := settled_queued h.quiet batch
      rw [Turn.command, execute_enqueue h]
      unfold followUp
      split
      · exact ⟨receptive_flush hqueued, (settled_flush hqueued.quiet).trans hsettled⟩
      · exact ⟨hqueued, hsettled⟩
  | flush =>
      rw [Turn.command, execute_eq_step]
      exact ⟨receptive_flush h, settled_flush h.quiet⟩
  | immediate on =>
      rw [Turn.command, execute_eq_step]
      exact ⟨⟨h.quiet, h.opened⟩, settled_immediate on⟩

/-- What a schedule settles to depends on its batches only. -/
theorem settled_turns (h : Receptive w) (turns : List Turn) :
    let w' := turns.foldl (fun w turn => (w.execute turn.command).2) w
    Receptive w' ∧ w'.settled = (turns.filterMap Turn.batch?).foldl absorb w.settled := by
  induction turns generalizing w with
  | nil => exact ⟨h, rfl⟩
  | cons turn rest ih =>
      obtain ⟨hreceptive, hfirst⟩ := settled_turn h turn
      obtain ⟨hreceptive', hrest⟩ := ih hreceptive
      refine ⟨hreceptive', hrest.trans ?_⟩
      rw [hfirst, ← List.foldl_append]
      cases turn <;> rfl

/-- Queueing batches one after the other is queueing them all. -/
theorem settled_queuedAll (h : w.Quiet) (batches : List Batch) (on : Bool) :
    (w.withQueue (w.engine.pending ++ batches) (w.engine.submitted ++ batches) on).settled =
      batches.foldl absorb w.settled := by
  induction batches generalizing w with
  | nil =>
      rw [List.append_nil, List.append_nil]
      rfl
  | cons batch rest ih =>
      rw [List.foldl_cons, ← settled_queued h, List.append_cons w.engine.pending,
        List.append_cons w.engine.submitted]
      exact ih (w := w.withEngine (Agenda.queued w.engine batch)) h

/-- Carries out a schedule, with a flush at its end. -/
def afterTurns (w : Workspace) (turns : List Turn) : Workspace :=
  ((turns ++ [Turn.flush]).map Turn.command).foldl (fun w c => (w.execute c).2) w

/-- A schedule comes to what one flush comes to when all the batches were queued before it. -/
theorem afterTurns_eq_flush (h : Receptive w) (turns : List Turn) :
    let batches := turns.filterMap Turn.batch?
    ∃ on, w.afterTurns turns =
      (w.withQueue (w.engine.pending ++ batches) (w.engine.submitted ++ batches) on).flush
        conduct := by
  intro batches
  obtain ⟨hreceptive, hsettled⟩ := settled_turns h turns
  let w₁ := turns.foldl (fun w turn => (w.execute turn.command).2) w
  let w₂ := w.withQueue (w.engine.pending ++ batches) (w.engine.submitted ++ batches)
    w₁.engine.immediate
  have hquiet₂ : w₂.Quiet := h.quiet
  have hlast : w.afterTurns turns = w₁.flush conduct := by
    unfold afterTurns
    rw [List.foldl_map, List.foldl_append, List.foldl_cons, List.foldl_nil, Turn.command,
      execute_eq_step]
    rfl
  have hsame : w₁.settled = w₂.settled :=
    hsettled.trans (settled_queuedAll h.quiet batches w₁.engine.immediate).symm
  refine ⟨w₁.engine.immediate, ?_⟩
  rw [hlast, flush_eq_settled hreceptive.quiet, flush_eq_settled hquiet₂, hsame]
  rfl

/-- Two schedules of the same batches end alike, except for whether the engine goes on to apply
batches at once. The log holds all that observers heard of the engine, of sessions and of
editors, in order. -/
theorem flush_times_unobservable (h : Receptive w) {turns turns' : List Turn}
    (same : turns.filterMap Turn.batch? = turns'.filterMap Turn.batch?) :
    let w₁ := w.afterTurns turns
    let w₂ := w.afterTurns turns'
    w₁.engine.replica = w₂.engine.replica ∧ w₁.log = w₂.log ∧ w₁.sessions = w₂.sessions ∧
      (∃ on, w₁ = w₂.withEngine { w₂.engine with immediate := on }) ∧
      let batches := w.engine.pending ++ turns.filterMap Turn.batch?
      w₁.engine.replica =
        batches.foldl (fun r batch => (r.applyBatch batch).1) w.engine.replica ∧
      ∀ {α : Type} {select : Selection α}, select.Direct →
        w₁.noted select =
          w.noted select ++ (w.engine.replica.history batches).flatMap (w.noticesOf select) := by
  intro w₁ w₂
  obtain ⟨on, hfirst⟩ := afterTurns_eq_flush h turns
  obtain ⟨on', hsecond⟩ := afterTurns_eq_flush h turns'
  rw [← same] at hsecond
  generalize turns.filterMap Turn.batch? = batches at hfirst hsecond ⊢
  let queued := fun on =>
    w.withQueue (w.engine.pending ++ batches) (w.engine.submitted ++ batches) on
  have hquiet : ∀ on, (queued on).Quiet := fun _ => h.quiet
  have hsettled : (queued on).settled = (queued on').settled := rfl
  have halike : w₁ = w₂.withEngine { w₂.engine with immediate := on } := by
    rw [show w₁ = _ from hfirst, show w₂ = _ from hsecond, flush_eq_settled (hquiet on),
      flush_eq_settled (hquiet on'), hsettled]
    rfl
  refine ⟨by rw [halike]; rfl, by rw [halike]; rfl, by rw [halike]; rfl, ⟨on, halike⟩, ?_, ?_⟩
  · rw [show w₁ = _ from hfirst, engine_flush (hquiet on)]
    rfl
  · intro α select hselect
    rw [show w₁ = _ from hfirst]
    exact (adds_flush hselect (hquiet on)).noted

/-- A session of `m` on one paragraph, with observers of what the engine says of paragraphs and
of what the session says of them. -/
def attentive : Workspace :=
  ([.engine (.register "doc" (.build [.commonStyle ⟨"Body"⟩ "Body", .paragraph "one" .default])),
    .engine (.load "doc"), .newSession { member := ⟨"m"⟩ },
    .watchEngine .paragraphChanged "engine" [] 0,
    .watchSession .paragraphChanged "session" [] 0] : List Command).foldl
    (fun w c => (w.execute c).2) {}

/-- The cursor enters the paragraph, and the paragraph is restyled. -/
def restyling : List Batch :=
  [[.addCursor ⟨"m"⟩], [.setParagraphStyle ⟨"m"⟩ 1 0 ⟨"Body"⟩]]

theorem flush_times_unobservable_of_restyling :
    let early := Turn.immediate true :: restyling.map Turn.enqueue
    let late := restyling.map Turn.enqueue
    (attentive.afterTurns early).log = (attentive.afterTurns late).log ∧
      (attentive.afterTurns late).log.length = 4 ∧
      (attentive.afterTurns early).sessions = (attentive.afterTurns late).sessions := by
  intro early late
  have hactions : ∀ e ∈ attentive.observers.toList, e.2.actions.isEmpty = true := by
    decide +kernel
  have hquiet : attentive.Quiet := fun id o ho =>
    List.isEmpty_iff.1 (hactions _ ((Dict.get?_eq_some_iff_mem _ _ _).1 ho))
  have h : Receptive attentive := ⟨hquiet, by decide +kernel⟩
  have hsame : early.filterMap Turn.batch? = late.filterMap Turn.batch? := rfl
  have hend := flush_times_unobservable h hsame
  exact ⟨hend.2.1, by decide +kernel, hend.2.2.1⟩

end Workspace

end Coedit
