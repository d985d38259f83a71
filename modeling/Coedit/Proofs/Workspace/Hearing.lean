import Coedit.Proofs.Engine.ChangeLog
import Coedit.Proofs.Workspace.Quiet

/-!
# What observers note

Every event that an observer hears is noted in the log, under the observer's label. With
observers that only listen, the notes that a flush adds are those of the events that it
publishes, in their order. A selection picks the notes of interest; whoever is interested neither
in what sessions announce nor in what editors pass on need not look into these.
-/

namespace Coedit

/-- Picks what is of interest from an event and the label of the observer that heard it. -/
abbrev Selection (α : Type) := String → AnyEvent → Option α

/-- The selection does not depend on what sessions announce, nor on what editors pass on. -/
structure Selection.Direct {α : Type} (select : Selection α) : Prop where
  session : ∀ label event, select label (.session event) = none
  metadata : ∀ label set removed, select label (.editor (.metadataChanged set removed)) = none
  modified : ∀ label modified, select label (.editor (.documentModifiedChanged modified)) = none

def EngineListener.observer? : EngineListener → Option Nat
  | .observer id => some id
  | _ => none

namespace Workspace

variable {α : Type} (select : Selection α)

def noted (w : Workspace) : List α :=
  w.log.filterMap fun
    | .observer (.heard label event) => select label event
    | _ => none

/-- What these observers will note of interest when they hear an event. -/
def notices (w : Workspace) (event : AnyEvent) (observers : List Nat) : List α :=
  observers.filterMap fun id => ((w.observers.get? id).map (·.label)).bind (select · event)

def noticesOf (w : Workspace) (event : EngineEvent) : List α :=
  w.notices select (.engine event)
    ((w.engine.bus.handlers event.signal).filterMap EngineListener.observer?)

/-- Observers stayed who they were and go on to listen only, and this was noted. -/
structure Adds (news : List α) (w w' : Workspace) : Prop where
  quiet : w'.Quiet
  labels : ∀ id, (w'.observers.get? id).map (·.label) = (w.observers.get? id).map (·.label)
  noted : w'.noted select = w.noted select ++ news

variable {select} {news later : List α} {w w' w'' : Workspace}

theorem Adds.refl (h : w.Quiet) : Adds select [] w w := ⟨h, fun _ => rfl, (List.append_nil _).symm⟩

theorem Adds.trans (h : Adds select news w w') (h' : Adds select later w' w'') :
    Adds select (news ++ later) w w'' where
  quiet := h'.quiet
  labels := fun id => (h'.labels id).trans (h.labels id)
  noted := by rw [h'.noted, h.noted, List.append_assoc]

theorem Adds.then (h : Adds select [] w w') (h' : Adds select news w' w'') :
    Adds select news w w'' := h.trans h'

/-- A change that is not to observers and not to what was noted. -/
theorem adds_of_unnoted (h : w.Quiet) (hobservers : w'.observers = w.observers)
    (hnoted : w'.noted select = w.noted select) : Adds select [] w w' where
  quiet := by
    unfold Quiet
    rw [hobservers]
    exact h
  labels := fun _ => by rw [hobservers]
  noted := by rw [hnoted, List.append_nil]

theorem Adds.notices (h : Adds select news w w') (event : AnyEvent) (observers : List Nat) :
    w'.notices select event observers = w.notices select event observers := by
  unfold Workspace.notices
  simp only [h.labels]

theorem Adds.foldl {β : Type} {f : Workspace → β → Workspace} {l : List β}
    (h : ∀ b w, Quiet w → Adds select [] w (f w b)) (hquiet : w.Quiet) :
    Adds select [] w (l.foldl f w) := by
  induction l generalizing w with
  | nil => exact Adds.refl hquiet
  | cons b rest ih =>
      have hfirst := h b w hquiet
      exact hfirst.then (ih hfirst.quiet)

/-! ## Observers -/

theorem notices_append (event : AnyEvent) (observers more : List Nat) :
    w.notices select event (observers ++ more) =
      w.notices select event observers ++ w.notices select event more := List.filterMap_append

theorem notices_of_known {id : Nat} {o : Observer Command} (event : AnyEvent)
    (h : w.observers.get? id = some o) :
    w.notices select event [id] = (select o.label event).toList := by
  unfold notices
  rw [List.filterMap_cons, h, Option.map_some, Option.bind_some]
  cases hnote : select o.label event <;> simp only [List.filterMap_nil, Option.toList]

theorem notices_of_unknown {id : Nat} (event : AnyEvent) (h : w.observers.get? id = none) :
    w.notices select event [id] = [] := by
  unfold notices
  rw [List.filterMap_cons, h]
  rfl

theorem noted_record (label : String) (event : AnyEvent) :
    (w.record (.observer (.heard label event))).noted select =
      w.noted select ++ (select label event).toList := by
  unfold noted record
  rw [List.filterMap_append, List.filterMap_cons]
  cases hnote : select label event <;> simp only [hnote, List.filterMap_nil, Option.toList]

theorem adds_notify (act : Conduct) (event : AnyEvent) (id : Nat) (h : w.Quiet) :
    Adds select (w.notices select event [id]) w (w.notify act event id) := by
  cases ho : w.observers.get? id with
  | none =>
      rw [notices_of_unknown event ho, notify_of_unknown act event ho]
      exact Adds.refl h
  | some o =>
      rw [notices_of_known event ho, notify_of_quiet act event h ho]
      refine ⟨h.noting ho event, fun other => ?_, noted_record o.label event⟩
      show (((w.observers.insert id o.answer.2).get? other).map (·.label)) = _
      rw [Dict.get?_insert]
      split
      · rename_i hid
        rw [← hid, ho, Option.map_some, Option.map_some, Observer.answer_label]
      · rfl

theorem adds_deliver (act : Conduct) (event : AnyEvent) (observers : List Nat) (h : w.Quiet) :
    Adds select (w.notices select event observers) w
      (observers.foldl (fun w id => w.notify act event id) w) := by
  induction observers generalizing w with
  | nil => exact Adds.refl h
  | cons id rest ih =>
      have hfirst : Adds select (w.notices select event [id]) w (w.notify act event id) :=
        adds_notify act event id h
      have hrest := ih hfirst.quiet
      rw [hfirst.notices] at hrest
      rw [← List.singleton_append, notices_append]
      exact hfirst.trans hrest

/-- Nothing of interest is noted of an event that is not of interest. -/
theorem notices_of_ignored {event : AnyEvent} (hignored : ∀ label, select label event = none)
    (observers : List Nat) : w.notices select event observers = [] := by
  refine List.filterMap_eq_nil_iff.2 fun id _ => ?_
  cases (w.observers.get? id).map (·.label) with
  | none => rfl
  | some label => exact hignored label

theorem adds_deliver_of_ignored (act : Conduct) {event : AnyEvent}
    (hignored : ∀ label, select label event = none) (observers : List Nat) (h : w.Quiet) :
    Adds select [] w (observers.foldl (fun w id => w.notify act event id) w) := by
  have hall : Adds select (w.notices select event observers) w _ :=
    adds_deliver act event observers h
  rw [notices_of_ignored hignored] at hall
  exact hall

/-! ## Editors, undo managers and sessions -/

/-- What is noted of an event on an editor's bus. -/
theorem adds_reportTo (act : Conduct) {editor : Nat} {e : Editor} (he : w.editor? editor = some e)
    (event : EditorEvent) (h : w.Quiet) :
    Adds select (w.notices select (.editor event) (e.bus.handlers event.signal)) w
      (w.report act editor event) := by
  have hquiet : Quiet { w with reporting := editor :: w.reporting } := h
  have hall : Adds select _ _ _ :=
    adds_deliver act (.editor event) (e.bus.handlers event.signal) hquiet
  unfold report
  rw [he]
  exact ⟨hall.quiet, hall.labels, hall.noted⟩

theorem adds_report (act : Conduct) (editor : Nat) {event : EditorEvent}
    (hignored : ∀ label, select label (.editor event) = none) (h : w.Quiet) :
    Adds select [] w (w.report act editor event) := by
  cases he : w.editor? editor with
  | none =>
      unfold report
      rw [he]
      exact Adds.refl h
  | some e =>
      have hreported : Adds select _ w (w.report act editor event) := adds_reportTo act he event h
      rw [notices_of_ignored hignored] at hreported
      exact hreported

theorem adds_setModified (act : Conduct) (id : Nat) (modified : Bool)
    (hignored : ∀ label modified, select label (.editor (.documentModifiedChanged modified)) = none)
    (h : w.Quiet) : Adds select [] w (w.setModified act id modified) := by
  unfold setModified
  split
  · exact Adds.refl h
  · rename_i m hm
    have hset : Adds select [] w { w with
        undoManagers := w.undoManagers.insert id (m.setModified modified).1 } :=
      adds_of_unnoted h rfl rfl
    simp only
    split
    · exact hset.then (Adds.foldl (fun editor _ hw =>
        adds_report act editor (hignored · modified) hw) h)
    · exact hset

theorem adds_inform (act : Conduct) (id : Nat)
    (hignored : ∀ label modified, select label (.editor (.documentModifiedChanged modified)) = none)
    (h : w.Quiet) : Adds select [] w (w.inform act id) := by
  unfold inform
  split
  · have hset := adds_setModified act id true hignored
      (show Quiet { w with informed := id :: w.informed } from h)
    exact ⟨hset.quiet, hset.labels, hset.noted⟩
  · exact Adds.refl h

section Session

variable (hsession : ∀ label event, select label (.session event) = none)
include hsession

theorem adds_announce (act : Conduct) (id : Nat) (event : SessionEvent) (h : w.Quiet) :
    Adds select [] w (w.announce act id event) := by
  unfold announce
  split
  · exact Adds.refl h
  · exact adds_deliver_of_ignored act (hsession · event) _ h

theorem adds_reactOnce (act : Conduct) (id : Nat) (reaction : Reaction) (h : w.Quiet) :
    Adds select [] w (w.reactOnce act id reaction) := by
  unfold reactOnce
  split
  · exact Adds.refl h
  · rename_i s hs
    have hcore : Adds select [] w (w.modifySession id fun old =>
        { old with core := (s.core.react w.engine.replica reaction).1 }) :=
      adds_of_unnoted h rfl rfl
    simp only
    split
    · exact hcore.then (adds_announce hsession act id _ hcore.quiet)
    · exact hcore

theorem adds_sessionHears (act : Conduct) (event : EngineEvent) (id : Nat) (h : w.Quiet) :
    Adds select [] w (w.sessionHears act event id) := by
  unfold sessionHears
  split
  · exact Adds.refl h
  · simp only
    split
    · rename_i s _ _
      have hbegin : Adds select [] w (w.modifySession id fun s =>
          { s with reacting := s.reacting + 1 }) := adds_of_unnoted h rfl rfl
      have hreact := Adds.foldl (f := reactOnce act id)
        (l := s.core.reactions w.engine.replica event)
        (fun reaction _ hw => adds_reactOnce hsession act id reaction hw) hbegin.quiet
      exact (hbegin.then hreact).then (adds_of_unnoted hreact.quiet rfl rfl)
    · exact Adds.refl h

end Session

/-! ## Publishing and flushing -/

section Direct

variable (hselect : select.Direct)
include hselect

theorem adds_hear (act : Conduct) (event : EngineEvent) (listener : EngineListener)
    (h : w.Quiet) :
    Adds select (w.notices select (.engine event) listener.observer?.toList) w
      (w.hear act event listener) := by
  cases listener with
  | session id => exact adds_sessionHears hselect.session act event id h
  | undoManager id => exact adds_inform act id hselect.modified h
  | metadataRelay editor =>
      cases event with
      | metadataChanged set removed =>
          exact adds_report act editor (hselect.metadata · set removed) h
      | _ => exact Adds.refl h
  | observer id => exact adds_notify act (.engine event) id h

theorem adds_hearAll (act : Conduct) (event : EngineEvent) (listeners : List EngineListener)
    (h : w.Quiet) :
    Adds select (w.notices select (.engine event) (listeners.filterMap EngineListener.observer?)) w
      (listeners.foldl (fun w listener => w.hear act event listener) w) := by
  induction listeners generalizing w with
  | nil => exact Adds.refl h
  | cons listener rest ih =>
      have hfirst := adds_hear hselect act event listener h
      have hrest := ih hfirst.quiet
      rw [hfirst.notices] at hrest
      have hall := hfirst.trans hrest
      rw [← notices_append] at hall
      cases listener <;> exact hall

theorem adds_publish (act : Conduct) (event : EngineEvent) (h : w.Quiet) :
    Adds select (w.noticesOf select event) w (w.publish act event) :=
  adds_hearAll hselect act event _ h

theorem adds_publishAll (act : Conduct) (events : List EngineEvent) (h : w.Quiet) :
    Adds select (events.flatMap (w.noticesOf select)) w (events.foldl (publish act) w) := by
  induction events generalizing w with
  | nil => exact Adds.refl h
  | cons event rest ih =>
      have hfirst := adds_publish hselect act event h
      have hrest := ih hfirst.quiet
      have hsame : (w.publish act event).noticesOf select = w.noticesOf select := by
        funext other
        unfold noticesOf
        rw [hfirst.notices, (heard_publish act event h).engine]
      rw [hsame] at hrest
      exact hfirst.trans hrest

/-- A flush notes, in order, what is of interest about all that happens to the document. -/
theorem adds_flush (h : w.Quiet) :
    Adds select ((w.engine.replica.history w.engine.pending).flatMap (w.noticesOf select)) w
      (w.flush conduct) := by
  generalize hb : w.engine.pending = batches
  induction batches generalizing w with
  | nil =>
      rw [flush_of_nil hb]
      exact Adds.refl h
  | cons batch rest ih =>
      have hquiet : (w.withApplied batch rest).Quiet := h
      have hfirst := adds_publishAll hselect conduct (w.engine.replica.applyBatch batch).2 hquiet
      have hengine := (heard_publishAll conduct (w.engine.replica.applyBatch batch).2 hquiet).engine
      have hrest := ih hfirst.quiet (by rw [hengine]; rfl)
      have hsame : noticesOf select ((w.engine.replica.applyBatch batch).2.foldl (publish conduct)
          (w.withApplied batch rest)) = w.noticesOf select := by
        funext other
        unfold noticesOf
        rw [hfirst.notices, hengine]
        rfl
      rw [hsame, hengine] at hrest
      rw [flush_of_cons frugal_conduct hb, Replica.history, List.flatMap_append]
      have hall := hfirst.trans hrest
      exact ⟨hall.quiet, hall.labels, hall.noted⟩

end Direct

end Workspace

end Coedit
