import Coedit.Proofs.Engine.Styles
import Coedit.Proofs.Workspace.Timing

/-!
# Flags of undo managers

A batch with a document edit ends with the news that the undo stack changed, which raises the
flag of every undo manager that hears of it. A batch without one leaves the document alone. No
delivery ever puts a flag down.
-/

namespace Coedit

namespace Replica

/-- Only document edits change the document. -/
theorem document_apply {op : Operation} (h : op.isDocumentEdit = false) (r : Replica) :
    (r.apply op).1.document = r.document := by
  cases op with
  | addMember | addCursor => rfl
  | removeMember member => simp only [apply, document_removeRecord, document_removeCursor]
  | removeCursor member => exact document_removeCursor r member
  | moveCursor member position anchor kind =>
      simp only [apply]
      split <;> rfl
  | _ => cases h

theorem document_applyAll {batch : Batch} (h : batch.any (·.isDocumentEdit) = false)
    (r : Replica) : (r.applyAll batch).1.document = r.document := by
  induction batch generalizing r with
  | nil => rfl
  | cons op rest ih =>
      rw [List.any_cons, Bool.or_eq_false_iff] at h
      exact (ih h.2 _).trans (document_apply h.1 r)

/-- A batch leaves the document alone, or ends with the news that the undo stack changed. -/
theorem applyBatch_cases (r : Replica) (batch : Batch) :
    (r.applyBatch batch).1.document = r.document ∨
      ∃ events, (r.applyBatch batch).2 = events ++ [.undoStackChanged] := by
  unfold applyBatch
  cases h : batch.any (·.isDocumentEdit) with
  | false => exact .inl (document_applyAll h r)
  | true => exact .inr ⟨(r.applyAll batch).2, rfl⟩

end Replica

namespace Workspace

/-! ## Flags -/

def modified? (w : Workspace) (manager : Nat) : Option Bool :=
  (w.undoManagers.get? manager).map (·.modified)

def Raised (w w' : Workspace) : Prop :=
  ∀ manager, w'.modified? manager = w.modified? manager ∨
    w.modified? manager = some false ∧ w'.modified? manager = some true

section Raised

variable {w w' w'' : Workspace} {manager : Nat}

theorem raised_of_same (h : w'.undoManagers = w.undoManagers) : Raised w w' := by
  intro manager
  unfold modified?
  rw [h]
  exact .inl rfl

theorem Raised.trans (h : Raised w w') (h' : Raised w' w'') : Raised w w'' := by
  intro manager
  rcases h manager with hsame | ⟨hdown, hup⟩
  · rcases h' manager with hsame' | ⟨hdown', hup'⟩
    · exact .inl (hsame'.trans hsame)
    · exact .inr ⟨hsame ▸ hdown', hup'⟩
  · rcases h' manager with hsame' | ⟨hdown', -⟩
    · exact .inr ⟨hdown, hsame'.trans hup⟩
    · exact absurd (hup.symm.trans hdown') (by decide)

theorem Raised.stays_up (h : Raised w w') (hup : w.modified? manager = some true) :
    w'.modified? manager = some true := by
  rcases h manager with hsame | ⟨-, hup'⟩
  · exact hsame.trans hup
  · exact hup'

theorem Raised.was_down (h : Raised w w') (hdown : w'.modified? manager = some false) :
    w.modified? manager = some false := by
  rcases h manager with hsame | ⟨hdown', -⟩
  · exact hsame.symm.trans hdown
  · exact hdown'

theorem Raised.isSome (h : Raised w w') (hsome : (w.modified? manager).isSome = true) :
    (w'.modified? manager).isSome = true := by
  rcases h manager with hsame | ⟨-, hup⟩
  · rw [hsame, hsome]
  · rw [hup]
    rfl

theorem raised_foldl {β : Type} {f : Workspace → β → Workspace} {l : List β}
    (hquiet : ∀ b w, Quiet w → Quiet (f w b)) (hf : ∀ b w, Quiet w → Raised w (f w b))
    (h : w.Quiet) : Raised w (l.foldl f w) := by
  induction l generalizing w with
  | nil => exact raised_of_same rfl
  | cons b rest ih => exact (hf b w h).trans (ih (hquiet b w h))

theorem undoManagers_notify (act : Conduct) (event : AnyEvent) (id : Nat) (h : w.Quiet) :
    (w.notify act event id).undoManagers = w.undoManagers := by
  cases ho : w.observers.get? id with
  | none => rw [notify_of_unknown act event ho]
  | some o =>
      rw [notify_of_quiet act event h ho]
      rfl

theorem undoManagers_foldl {β : Type} {f : Workspace → β → Workspace} {l : List β}
    (hquiet : ∀ b w, Quiet w → Quiet (f w b))
    (hf : ∀ b w, Quiet w → (f w b).undoManagers = w.undoManagers) (h : w.Quiet) :
    (l.foldl f w).undoManagers = w.undoManagers := by
  induction l generalizing w with
  | nil => rfl
  | cons b rest ih => exact (ih (hquiet b w h)).trans (hf b w h)

theorem undoManagers_notifyAll (act : Conduct) (event : AnyEvent) (observers : List Nat)
    (h : w.Quiet) :
    (observers.foldl (fun w id => w.notify act event id) w).undoManagers = w.undoManagers :=
  undoManagers_foldl (fun id _ hw => (told_notify act event id hw).quiet)
    (fun id _ hw => undoManagers_notify act event id hw) h

theorem undoManagers_announce (act : Conduct) (id : Nat) (event : SessionEvent) (h : w.Quiet) :
    (w.announce act id event).undoManagers = w.undoManagers := by
  unfold announce
  split
  · rfl
  · exact undoManagers_notifyAll act _ _ h

theorem undoManagers_report (act : Conduct) (editor : Nat) (event : EditorEvent) (h : w.Quiet) :
    (w.report act editor event).undoManagers = w.undoManagers := by
  unfold report
  split
  · rfl
  · exact undoManagers_notifyAll act (.editor event) _
      (show Quiet { w with reporting := editor :: w.reporting } from h)

theorem undoManagers_reactOnce (act : Conduct) (id : Nat) (reaction : Reaction) (h : w.Quiet) :
    (w.reactOnce act id reaction).undoManagers = w.undoManagers := by
  unfold reactOnce
  split
  · rfl
  · rename_i s _
    simp only
    split
    · exact undoManagers_announce act id _
        (show Quiet (w.modifySession id fun old =>
          { old with core := (s.core.react w.engine.replica reaction).1 }) from h)
    · rfl

theorem undoManagers_sessionHears (act : Conduct) (event : EngineEvent) (id : Nat)
    (h : w.Quiet) : (w.sessionHears act event id).undoManagers = w.undoManagers := by
  unfold sessionHears
  split
  · rfl
  · rename_i s _
    simp only
    split
    · exact undoManagers_foldl (f := reactOnce act id)
        (l := s.core.reactions w.engine.replica event)
        (w := w.modifySession id fun s => { s with reacting := s.reacting + 1 })
        (fun reaction _ hw => (heard_reactOnce act id reaction hw).quiet)
        (fun reaction _ hw => undoManagers_reactOnce act id reaction hw) h
    · rfl

/-- Setting a flag sets this flag, and no other. -/
theorem modified?_setModified (act : Conduct) (id manager : Nat) (modified : Bool)
    (h : w.Quiet) :
    (w.setModified act id modified).modified? manager =
      if id = manager then (w.modified? id).map fun _ => modified else w.modified? manager := by
  unfold setModified modified?
  cases hm : w.undoManagers.get? id with
  | none =>
      simp only [Option.map_none]
      split
      · rename_i hsame
        rw [← hsame, hm]
        rfl
      · rfl
  | some m =>
      have hset : (m.setModified modified).1.modified = modified := by
        unfold UndoManager.setModified
        split
        · rename_i hsame
          exact eq_of_beq hsame
        · rfl
      let set : Workspace :=
        { w with undoManagers := w.undoManagers.insert id (m.setModified modified).1 }
      have hreported (editors : List Nat) : (editors.foldl (fun w editor =>
          w.report act editor (.documentModifiedChanged modified)) set).undoManagers =
            set.undoManagers :=
        undoManagers_foldl (fun editor _ hw => (told_report act editor _ hw).quiet)
          (fun editor _ hw => undoManagers_report act editor _ hw) (show Quiet set from h)
      have hafter : ((if (m.setModified modified).2 then
          (m.setModified modified).1.bus.deliver .modifiedChanged
            (fun editor => report act editor (.documentModifiedChanged modified)) set
          else set).undoManagers.get? manager).map (·.modified) =
            (set.undoManagers.get? manager).map (·.modified) := by
        split
        · exact congrArg (fun d : Dict Nat (UndoManager Nat) =>
            (d.get? manager).map (·.modified)) (hreported _)
        · rfl
      refine hafter.trans ?_
      show ((w.undoManagers.insert id (m.setModified modified).1).get? manager).map _ = _
      rw [Dict.get?_insert]
      split
      · simp [hset]
      · rfl

theorem raised_setModified (act : Conduct) (id : Nat) (h : w.Quiet) :
    Raised w (w.setModified act id true) := by
  intro manager
  rw [modified?_setModified act id manager true h]
  split
  · rename_i hsame
    subst hsame
    cases w.modified? id with
    | none => exact .inl rfl
    | some b =>
        cases b with
        | false => exact .inr ⟨rfl, rfl⟩
        | true => exact .inl rfl
  · exact .inl rfl

theorem raised_inform (act : Conduct) (id : Nat) (h : w.Quiet) : Raised w (w.inform act id) := by
  unfold inform
  split
  · exact raised_setModified act id (show Quiet { w with informed := id :: w.informed } from h)
  · exact raised_of_same rfl

theorem raised_hear (act : Conduct) (event : EngineEvent) (listener : EngineListener)
    (h : w.Quiet) : Raised w (w.hear act event listener) := by
  cases listener with
  | session id => exact raised_of_same (undoManagers_sessionHears act event id h)
  | undoManager id => exact raised_inform act id h
  | metadataRelay editor =>
      cases event with
      | metadataChanged set removed => exact raised_of_same (undoManagers_report act editor _ h)
      | _ => exact raised_of_same rfl
  | observer id => exact raised_of_same (undoManagers_notify act (.engine event) id h)

theorem raised_hearAll (act : Conduct) (event : EngineEvent) (listeners : List EngineListener)
    (h : w.Quiet) :
    Raised w (listeners.foldl (fun w listener => w.hear act event listener) w) :=
  raised_foldl (fun listener _ hw => (heard_hear act event listener hw).quiet)
    (fun listener _ hw => raised_hear act event listener hw) h

theorem raised_publishAll (act : Conduct) (events : List EngineEvent) (h : w.Quiet) :
    Raised w (events.foldl (publish act) w) :=
  raised_foldl (fun event _ hw => (heard_publish act event hw).quiet)
    (fun event _ hw => raised_hearAll act event _ hw) h

end Raised

/-! ## The editor's undo manager -/

structure Wired (manager : Nat) (w : Workspace) : Prop where
  editor : ∃ e, w.editor = some e ∧ e.undoManager = some manager
  hears : .undoManager manager ∈ w.engine.bus.handlers .undoStackChanged
  managed : (w.modified? manager).isSome = true

section Wired

variable {w w' : Workspace} {manager : Nat}

theorem Wired.heard (h : Wired manager w) (hheard : Heard w w') (hraised : Raised w w') :
    Wired manager w' where
  editor := by
    obtain ⟨observers, log, undoManagers, sessions, rfl, -, -⟩ := hheard
    exact h.editor
  hears := by
    rw [hheard.engine]
    exact h.hears
  managed := hraised.isSome h.managed

/-- An undo manager that an editor uses lives, and so is informed. -/
theorem modified?_inform (act : Conduct) (h : Wired manager w) (hquiet : w.Quiet) :
    (w.inform act manager).modified? manager = some true := by
  have hused : w.isUndoManagerUsed manager = true := by
    obtain ⟨e, he, hmanager⟩ := h.editor
    simp [isUndoManagerUsed, he, hmanager]
  have hset := modified?_setModified act manager manager true
    (show Quiet { w with informed := manager :: w.informed } from hquiet)
  obtain ⟨b, hb⟩ := Option.isSome_iff_exists.1 h.managed
  have hflag : modified? { w with informed := manager :: w.informed } manager = some b := hb
  rw [if_pos rfl, hflag] at hset
  unfold inform
  rw [if_pos hused]
  exact hset

theorem modified?_publish_undoStackChanged (act : Conduct) (h : Wired manager w)
    (hquiet : w.Quiet) : (w.publish act .undoStackChanged).modified? manager = some true := by
  obtain ⟨before, after, hsplit⟩ := List.append_of_mem h.hears
  show ((w.engine.bus.handlers .undoStackChanged).foldl
    (fun w listener => w.hear act .undoStackChanged listener) w).modified? manager = _
  rw [hsplit, List.foldl_append, List.foldl_cons]
  have hbefore : Heard w
      (before.foldl (fun w listener => w.hear act .undoStackChanged listener) w) :=
    Heard.foldl (fun listener _ hw => heard_hear act _ listener hw) hquiet
  have hwired := h.heard hbefore (raised_hearAll act .undoStackChanged before hquiet)
  have hinformed := modified?_inform act hwired hbefore.quiet
  exact (raised_hearAll act .undoStackChanged after
    (told_inform act manager hbefore.quiet).quiet).stays_up hinformed

/-- After a batch the flag is down only if it was down before, and the document is the same. -/
theorem document_applyNow (h : Wired manager w) (hquiet : w.Quiet) (batch : Batch)
    (hdown : (w.applyNow batch).modified? manager = some false) :
    w.modified? manager = some false ∧ (w.applyNow batch).engine.document = w.engine.document := by
  let applied := w.withEngine { w.engine with replica := (w.engine.replica.applyBatch batch).1 }
  have hwired : Wired manager applied := ⟨h.editor, h.hears, h.managed⟩
  have hraised : Raised applied (w.applyNow batch) := raised_publishAll conduct _ hquiet
  have hengine := engine_applyNow hquiet batch
  refine ⟨hraised.was_down hdown, ?_⟩
  rcases w.engine.replica.applyBatch_cases batch with hsame | ⟨events, hevents⟩
  · rw [hengine]
    exact hsame
  · have hpublished : w.applyNow batch =
        (events.foldl (publish conduct) applied).publish conduct .undoStackChanged := by
      unfold applyNow
      rw [hevents, List.foldl_append]
      rfl
    have hheard : Heard applied (events.foldl (publish conduct) applied) :=
      heard_publishAll conduct events hquiet
    have hup := modified?_publish_undoStackChanged conduct
      (hwired.heard hheard (raised_publishAll conduct events hquiet)) hheard.quiet
    rw [hpublished, hup] at hdown
    cases hdown

end Wired

end Workspace

end Coedit
