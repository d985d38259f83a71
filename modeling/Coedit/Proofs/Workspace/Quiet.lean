import Coedit.Proofs.Workspace.Nesting

/-!
# Observers that only listen

As long as no observer gives commands, delivering events changes nothing but the sessions'
own state, the flags of undo managers and what the observers note. Flushing is then the same
as applying the queue batch by batch and letting every session react to the events of each.
-/

namespace Coedit

def Session.outline (s : Session) : Session :=
  { s with core := { member := s.core.member }, reacting := 0 }

namespace SessionCore

def hear (r : Replica) (s : SessionCore) (event : EngineEvent) : SessionCore :=
  (s.reactions r event).foldl (fun s reaction => (s.react r reaction).1) s

/-- Applies a batch and reacts to those of its events that are heard. -/
def follow (heard : List EngineEvent → List EngineEvent) (s : SessionCore × Replica)
    (batch : Batch) : SessionCore × Replica :=
  ((heard (s.2.applyBatch batch).2).foldl (hear (s.2.applyBatch batch).1) s.1,
    (s.2.applyBatch batch).1)

theorem member_react (s : SessionCore) (r : Replica) (reaction : Reaction) :
    (s.react r reaction).1.member = s.member := by
  cases reaction with
  | followCursor | recheck =>
      simp only [react]
      split <;> rfl
  | _ => rfl

end SessionCore

namespace Workspace

/-- No observer gives commands. -/
def Quiet (w : Workspace) : Prop := ∀ id o, w.observers.get? id = some o → o.actions = []

theorem quiet_of_unobserved {w : Workspace} (h : w.observers.toList = []) : w.Quiet := by
  intro id o ho
  have hmem := (Dict.get?_eq_some_iff_mem _ _ _).1 ho
  simp [h] at hmem

theorem quiet_addObserver {w : Workspace} (h : w.Quiet) (label : String) (times : Nat) :
    (w.addObserver label [] times).Quiet :=
  Dict.forall_insert rfl h

/-- Observers were told something, and undo managers may have changed their flags. -/
def Told (w w' : Workspace) : Prop :=
  ∃ observers log undoManagers, w' = { w with observers, log, undoManagers } ∧ w'.Quiet ∧
    ∀ id, (undoManagers.get? id).map (·.bus) = (w.undoManagers.get? id).map (·.bus)

theorem Told.refl {w : Workspace} (h : w.Quiet) : Told w w :=
  ⟨w.observers, w.log, w.undoManagers, rfl, h, fun _ => rfl⟩

theorem Told.trans {w w' w'' : Workspace} (h : Told w w') (h' : Told w' w'') : Told w w'' := by
  obtain ⟨observers, log, undoManagers, rfl, -, hbuses⟩ := h
  obtain ⟨observers', log', undoManagers', rfl, hquiet, hbuses'⟩ := h'
  exact ⟨observers', log', undoManagers', rfl, hquiet, fun id => (hbuses' id).trans (hbuses id)⟩

theorem Told.quiet {w w' : Workspace} (h : Told w w') : w'.Quiet := by
  obtain ⟨observers, log, undoManagers, rfl, hquiet, -⟩ := h
  exact hquiet

theorem Told.foldl {β : Type} {f : Workspace → β → Workspace} {l : List β}
    (h : ∀ b w, Quiet w → Told w (f w b)) {w : Workspace} (hquiet : w.Quiet) :
    Told w (l.foldl f w) := by
  induction l generalizing w with
  | nil => exact Told.refl hquiet
  | cons b rest ih =>
      have hfirst := h b w hquiet
      exact hfirst.trans (ih hfirst.quiet)

/-! ## Observers, editors and undo managers -/

def noting (w : Workspace) (id : Nat) (o : Observer Command) (event : AnyEvent) : Workspace :=
  { w with
    observers := w.observers.insert id o.answer.2
    log := w.log ++ [.observer (.heard o.label event)] }

theorem notify_of_unknown (act : Conduct) (event : AnyEvent) {id : Nat} {w : Workspace}
    (ho : w.observers.get? id = none) : w.notify act event id = w := by
  unfold notify
  rw [ho]

/-- An observer that gives no commands notes the event, and that is all. -/
theorem notify_of_quiet (act : Conduct) (event : AnyEvent) {id : Nat} {w : Workspace}
    {o : Observer Command} (h : w.Quiet) (ho : w.observers.get? id = some o) :
    w.notify act event id = w.noting id o event := by
  have hnone : o.answer.1 = [] :=
    List.eq_nil_iff_forall_not_mem.2 fun c hc => by
      have hmem := Observer.mem_answer hc
      rw [h id o ho] at hmem
      cases hmem
  unfold notify
  simp only [ho, hnone, carryOut]
  rfl

theorem Quiet.noting {w : Workspace} (h : w.Quiet) {id : Nat} {o : Observer Command}
    (ho : w.observers.get? id = some o) (event : AnyEvent) : (w.noting id o event).Quiet :=
  Dict.forall_insert ((Observer.answer_actions o).trans (h id o ho)) h

theorem told_notify (act : Conduct) (event : AnyEvent) (id : Nat) {w : Workspace}
    (h : w.Quiet) : Told w (w.notify act event id) := by
  cases ho : w.observers.get? id with
  | none =>
      rw [notify_of_unknown act event ho]
      exact Told.refl h
  | some o =>
      rw [notify_of_quiet act event h ho]
      exact ⟨_, _, w.undoManagers, rfl, h.noting ho event, fun _ => rfl⟩

theorem told_announce (act : Conduct) (id : Nat) (event : SessionEvent) {w : Workspace}
    (h : w.Quiet) : Told w (w.announce act id event) := by
  unfold announce
  split
  · exact Told.refl h
  · exact Told.foldl (fun observer _ hw => told_notify act _ observer hw) h

theorem told_report (act : Conduct) (editor : Nat) (event : EditorEvent) {w : Workspace}
    (h : w.Quiet) : Told w (w.report act editor event) := by
  unfold report
  split
  · exact Told.refl h
  · rename_i e he
    have htold : Told { w with reporting := editor :: w.reporting }
        (e.bus.deliver event.signal (notify act (.editor event))
          { w with reporting := editor :: w.reporting }) :=
      Told.foldl (fun observer _ hw => told_notify act _ observer hw) h
    obtain ⟨observers, log, undoManagers, heq, hquiet, hbuses⟩ := htold
    simp only
    rw [heq] at hquiet ⊢
    exact ⟨observers, log, undoManagers, rfl, hquiet, hbuses⟩

theorem told_setModified (act : Conduct) (id : Nat) (modified : Bool) {w : Workspace}
    (h : w.Quiet) : Told w (w.setModified act id modified) := by
  unfold setModified
  split
  · exact Told.refl h
  · rename_i m hm
    have hset : Told w { w with
        undoManagers := w.undoManagers.insert id (m.setModified modified).1 } := by
      refine ⟨w.observers, w.log, _, rfl, h, fun other => ?_⟩
      rw [Dict.get?_insert]
      split
      · rename_i hid
        rw [← hid, hm]
        exact congrArg some (UndoManager.bus_setModified m modified)
      · rfl
    simp only
    split
    · exact hset.trans (Told.foldl (fun editor _ hw => told_report act editor _ hw) h)
    · exact hset

theorem told_inform (act : Conduct) (id : Nat) {w : Workspace} (h : w.Quiet) :
    Told w (w.inform act id) := by
  unfold inform
  split
  · have htold : Told { w with informed := id :: w.informed }
        (setModified act id true { w with informed := id :: w.informed }) :=
      told_setModified act id true h
    obtain ⟨observers, log, undoManagers, heq, hquiet, hbuses⟩ := htold
    simp only
    rw [heq] at hquiet ⊢
    exact ⟨observers, log, undoManagers, rfl, hquiet, hbuses⟩
  · exact Told.refl h

/-! ## Sessions -/

/-- Sessions may have reacted, observers were told, and undo managers may have changed their
flags. -/
def Heard (w w' : Workspace) : Prop :=
  ∃ observers log undoManagers sessions,
    w' = { w with observers, log, undoManagers, sessions } ∧ w'.Quiet ∧
      (∀ id, (sessions.get? id).map Session.outline = (w.sessions.get? id).map Session.outline) ∧
      ∀ id, (undoManagers.get? id).map (·.bus) = (w.undoManagers.get? id).map (·.bus)

theorem Told.heard {w w' : Workspace} (h : Told w w') : Heard w w' := by
  obtain ⟨observers, log, undoManagers, rfl, hquiet, hbuses⟩ := h
  exact ⟨observers, log, undoManagers, w.sessions, rfl, hquiet, fun _ => rfl, hbuses⟩

theorem Heard.refl {w : Workspace} (h : w.Quiet) : Heard w w := (Told.refl h).heard

theorem Heard.trans {w w' w'' : Workspace} (h : Heard w w') (h' : Heard w' w'') :
    Heard w w'' := by
  obtain ⟨observers, log, undoManagers, sessions, rfl, -, hsame, hbuses⟩ := h
  obtain ⟨observers', log', undoManagers', sessions', rfl, hquiet, hsame', hbuses'⟩ := h'
  exact ⟨observers', log', undoManagers', sessions', rfl, hquiet,
    fun id => (hsame' id).trans (hsame id), fun id => (hbuses' id).trans (hbuses id)⟩

theorem Heard.quiet {w w' : Workspace} (h : Heard w w') : w'.Quiet := by
  obtain ⟨observers, log, undoManagers, sessions, rfl, hquiet, -⟩ := h
  exact hquiet

theorem Heard.engine {w w' : Workspace} (h : Heard w w') : w'.engine = w.engine := by
  obtain ⟨observers, log, undoManagers, sessions, rfl, -, -⟩ := h
  rfl

theorem Heard.foldl {β : Type} {f : Workspace → β → Workspace} {l : List β}
    (h : ∀ b w, Quiet w → Heard w (f w b)) {w : Workspace} (hquiet : w.Quiet) :
    Heard w (l.foldl f w) := by
  induction l generalizing w with
  | nil => exact Heard.refl hquiet
  | cons b rest ih =>
      have hfirst := h b w hquiet
      exact hfirst.trans (ih hfirst.quiet)

/-- Changing what a session knows, or counting its reactions, keeps its outline. -/
theorem heard_modifySession {id : Nat} {f : Session → Session} {w : Workspace} (h : w.Quiet)
    (hf : ∀ s, w.sessions.get? id = some s → (f s).outline = s.outline) :
    Heard w (w.modifySession id f) := by
  refine ⟨w.observers, w.log, w.undoManagers, _, rfl, h, fun other => ?_, fun _ => rfl⟩
  rw [Dict.get?_modify]
  split
  · rename_i hid
    subst hid
    cases hs : w.sessions.get? id with
    | none => rfl
    | some s => simp [hf s hs]
  · rfl

theorem heard_reactOnce (act : Conduct) (id : Nat) (reaction : Reaction) {w : Workspace}
    (h : w.Quiet) : Heard w (w.reactOnce act id reaction) := by
  unfold reactOnce
  split
  · exact Heard.refl h
  · rename_i s hs
    have hcore : Heard w (w.modifySession id fun old =>
        { old with core := (s.core.react w.engine.replica reaction).1 }) := by
      refine heard_modifySession h fun old hold => ?_
      obtain rfl := Option.some.inj (hs.symm.trans hold)
      simp only [Session.outline, SessionCore.member_react]
    simp only
    split
    · exact hcore.trans (told_announce act id _ hcore.quiet).heard
    · exact hcore

theorem heard_sessionHears (act : Conduct) (event : EngineEvent) (id : Nat) {w : Workspace}
    (h : w.Quiet) : Heard w (w.sessionHears act event id) := by
  unfold sessionHears
  split
  · exact Heard.refl h
  · simp only
    split
    · rename_i s _ _
      have hbegin : Heard w (w.modifySession id fun s => { s with reacting := s.reacting + 1 }) :=
        heard_modifySession h fun _ _ => rfl
      have hreact := Heard.foldl (f := reactOnce act id)
        (l := s.core.reactions w.engine.replica event)
        (fun reaction _ hw => heard_reactOnce act id reaction hw) hbegin.quiet
      exact (hbegin.trans hreact).trans (heard_modifySession hreact.quiet fun _ _ => rfl)
    · exact Heard.refl h

theorem heard_hear (act : Conduct) (event : EngineEvent) (listener : EngineListener)
    {w : Workspace} (h : w.Quiet) : Heard w (w.hear act event listener) := by
  cases listener with
  | session id => exact heard_sessionHears act event id h
  | undoManager id => exact (told_inform act id h).heard
  | metadataRelay editor =>
      cases event with
      | metadataChanged set removed =>
          exact (told_report act editor (.metadataChanged set removed) h).heard
      | _ => exact Heard.refl h
  | observer id => exact (told_notify act (.engine event) id h).heard

theorem heard_publish (act : Conduct) (event : EngineEvent) {w : Workspace} (h : w.Quiet) :
    Heard w (w.publish act event) :=
  Heard.foldl (fun listener _ hw => heard_hear act event listener hw) h

theorem heard_publishAll (act : Conduct) (events : List EngineEvent) {w : Workspace}
    (h : w.Quiet) : Heard w (events.foldl (publish act) w) :=
  Heard.foldl (fun event _ hw => heard_publish act event hw) h

/-! ## Flushing -/

def drained (e : Engine EngineListener) : Engine EngineListener :=
  { e with
    replica := e.pending.foldl (fun r batch => (r.applyBatch batch).1) e.replica
    pending := [] }

/-- Flushing applies the queue; beyond that nothing happens but what is heard of it. -/
theorem heard_flush {w : Workspace} (h : w.Quiet) :
    Heard { w with engine := drained w.engine } (w.flush conduct) := by
  generalize hb : w.engine.pending = batches
  induction batches generalizing w with
  | nil =>
      have hsame : drained w.engine = w.engine := by
        unfold drained
        rw [hb, List.foldl_nil, ← hb]
      rw [flush_of_nil hb, hsame]
      exact Heard.refl h
  | cons batch rest ih =>
      have hquiet : (w.withApplied batch rest).Quiet := h
      have hpublish := heard_publishAll conduct (w.engine.replica.applyBatch batch).2 hquiet
      rw [flush_of_cons frugal_conduct hb]
      have hrest := ih hpublish.quiet (by rw [hpublish.engine]; rfl)
      have hsame : drained w.engine = drained (w.withApplied batch rest).engine := by
        simp only [drained, withApplied, hb, List.foldl_cons]
      rw [hsame]
      obtain ⟨observers, log, undoManagers, sessions, heq, hquiet, houtline, hbuses⟩ := hpublish
      rw [heq] at hrest ⊢
      refine Heard.trans ?_ hrest
      exact ⟨observers, log, undoManagers, sessions, rfl, by rw [heq] at hquiet; exact hquiet,
        houtline, hbuses⟩

/-- Whether batches are applied at once or not, after a flush the queue has been applied. -/
theorem heard_flush_followUp {w : Workspace} (h : w.Quiet) :
    Heard { w with engine := drained w.engine } ((w.followUp conduct).flush conduct) := by
  unfold followUp
  split
  · have hheard := heard_flush h
    have hdone : (w.flush conduct).engine.pending = [] := by
      rw [hheard.engine]
      rfl
    rwa [flush_of_nil hdone]
  · exact heard_flush h

end Workspace

end Coedit
