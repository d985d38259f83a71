import Coedit.Proofs.Editor.Leaving

/-!
# What ends with a session

Taking down a session ends subscriptions to the engine, and nothing else happens to the engine.
Whichever subscriptions end were made since the editor was created, and not by observers. Whether
all parts can be taken down depends only on which of them refuse.
-/

namespace Coedit.Workspace

open Selection (unknownErrors)

structure Releases (spec : EditorSpec) (first : Nat) (w w' : Workspace) : Prop where
  keeps : Keeps spec first w w'
  silent : Silent w w'
  editor : w'.editor = w.editor
  engine : ∃ bus, w'.engine = { w.engine with bus }
  fewer : w'.engine.bus.subscriptions.Sublist w.engine.bus.subscriptions
  spared : ∀ s ∈ w.engine.bus.subscriptions, s.id < first ∨ s.handler.observer?.isSome →
    s ∈ w'.engine.bus.subscriptions

section Releases

variable {spec : EditorSpec} {first id : Nat} {w w' w'' : Workspace} {frontend : Frontend}

theorem Releases.trans (h : Releases spec first w w') (h' : Releases spec first w' w'') :
    Releases spec first w w'' where
  keeps := h.keeps.trans h'.keeps
  silent := h.silent.then h'.silent
  editor := h'.editor.trans h.editor
  engine := by
    obtain ⟨bus, heq⟩ := h.engine
    obtain ⟨bus', heq'⟩ := h'.engine
    exact ⟨bus', by rw [heq', heq]⟩
  fewer := h'.fewer.trans h.fewer
  spared := fun s hs hother => h'.spared s (h.spared s hs hother) hother

theorem Releases.quiet (h : Releases spec first w w') : w'.Quiet := h.silent.quiet

/-- Nothing happened to the engine. -/
theorem releases_of_same (hkeeps : Keeps spec first w w') (hsilent : Silent w w')
    (heditor : w'.editor = w.editor) (hengine : w'.engine = w.engine) :
    Releases spec first w w' := by
  refine ⟨hkeeps, hsilent, heditor, ⟨w.engine.bus, by rw [hengine]⟩, ?_, ?_⟩
  · rw [hengine]
  · rw [hengine]
    exact fun s hs _ => hs

theorem Releases.refl (h : w.Quiet) : Releases spec first w w :=
  releases_of_same (Keeps.refl h) (Adds.refl h) rfl rfl

theorem releases_interfaceNote (h : w.Quiet) (note : InterfaceNote) :
    Releases spec first w (w.interfaceNote frontend note) := by
  have hproceeds := proceeds_interfaceNote h frontend note
  exact releases_of_same hproceeds.keeps (silent_interfaceNote h frontend note) hproceeds.editor
    (engine_interfaceNote frontend note w)

/-- What ends has a number that is new and not an observer's. -/
theorem releases_unsubscribe (h : w.Quiet) (signal : EngineSignal) {number : Nat}
    (hfresh : Fresh first number w) : Releases spec first w (w.unsubscribe signal number) where
  keeps := keeps_unsubscribe h signal number
  silent := adds_of_unnoted h rfl rfl
  editor := rfl
  engine := ⟨_, rfl⟩
  fewer := List.filter_sublist
  spared := by
    intro s hs hother
    refine List.mem_filter.2 ⟨hs, ?_⟩
    have hdifferent : s.id ≠ number := by
      rintro rfl
      rcases hother with hold | hobserver
      · exact absurd hfresh.new (Nat.not_le.2 hold)
      · simp [hfresh.own s hs rfl] at hobserver
    simp [hdifferent]

theorem releases_modifySession (h : w.Quiet) (id : Nat) {f : Session → Session}
    (hmember : ∀ s, (f s).core.member = s.core.member)
    (hfrontend : ∀ s, (f s).frontend = s.frontend)
    (hrecords : ∀ s, ∀ record ∈ (f s).records, record ∈ s.records) :
    Releases spec first w (w.modifySession id f) :=
  releases_of_same (keeps_modifySession h id hmember hfrontend
    fun s record hrecord => .inl (hrecords s record hrecord)) (adds_of_unnoted h rfl rfl) rfl rfl

/-! ## The parts of a session -/

theorem releases_releaseInput (h : w.Quiet) (hpartner : Partner spec first id w) :
    Releases spec first w (w.releaseInput id) := by
  obtain ⟨s, hs, -, -, hrecords⟩ := hpartner
  have hdropped : Releases spec first w (w.dropUndoSubscription id) := by
    unfold dropUndoSubscription
    rw [hs, Option.bind_some]
    cases hundo : s.input.undoSubscription with
    | none => exact Releases.refl h
    | some subscription =>
        have hmem : (EngineSignal.undoStackChanged, subscription) ∈ s.records := by
          simp [Session.records, hundo]
        have hended : Releases spec first w (w.unsubscribe .undoStackChanged subscription) :=
          releases_unsubscribe h .undoStackChanged (hrecords _ hmem)
        refine hended.trans (releases_modifySession hended.quiet id ?_ ?_ ?_)
        · exact fun _ => rfl
        · exact fun _ => rfl
        · exact fun s record hrecord =>
            List.mem_append_left _ (by simpa [Session.records] using hrecord)
  refine hdropped.trans (releases_modifySession hdropped.quiet id ?_ ?_ ?_)
  · exact fun _ => rfl
  · exact fun _ => rfl
  · exact fun s record hrecord => hrecord

theorem releases_unsubscribeAll (h : w.Quiet) (hordered : Ordered first w)
    {made : List (EngineSignal × Nat)} (hmade : ∀ record ∈ made, Fresh first record.2 w) :
    Releases spec first w (made.foldl (fun w s => w.unsubscribe s.1 s.2) w) := by
  induction made generalizing w with
  | nil => exact Releases.refl h
  | cons record rest ih =>
      have hended : Releases spec first w (w.unsubscribe record.1 record.2) :=
        releases_unsubscribe h record.1 (hmade record List.mem_cons_self)
      refine hended.trans (ih hended.quiet (hended.keeps.ordered hordered) fun other hother => ?_)
      exact hended.keeps.fresh hordered _ (hmade other (List.mem_cons_of_mem _ hother))

theorem releases_releaseSignals (h : w.Quiet) (hordered : Ordered first w)
    (hpartner : Partner spec first id w) : Releases spec first w (w.releaseSignals id) := by
  obtain ⟨s, hs, -, -, hrecords⟩ := hpartner
  have hended : Releases spec first w
      (s.subscriptions.foldl (fun w s => w.unsubscribe s.1 s.2) w) :=
    releases_unsubscribeAll h hordered fun record hrecord =>
      hrecords record (List.mem_append_left _ hrecord)
  unfold releaseSignals
  rw [hs]
  refine hended.trans (releases_modifySession hended.quiet id ?_ ?_ ?_)
  · exact fun _ => rfl
  · exact fun _ => rfl
  · exact fun s record hrecord => hrecord

theorem releases_tearDownPart (h : w.Quiet) (part : String) {release : Workspace → Workspace}
    (hrelease : Releases spec first (w.interfaceNote frontend (.tornDown part))
      (release (w.interfaceNote frontend (.tornDown part)))) :
    Releases spec first w (tearDownPart frontend part release w).2 := by
  have hnoted : Releases spec first w (w.interfaceNote frontend (.tornDown part)) :=
    releases_interfaceNote h _
  unfold tearDownPart
  cases frontend with
  | headless => exact hnoted.trans hrelease
  | recording failing =>
      simp only
      split
      · exact hnoted
      · exact hnoted.trans hrelease

theorem releases_teardownAction (h : w.Quiet) (hordered : Ordered first w) (hid : id < w.nextId)
    (hpartner : Partner spec first id w) {action : TeardownAction Workspace}
    (haction : action ∈ sessionTeardown id frontend) : Releases spec first w (action w).2 := by
  rcases List.mem_append.1 haction with hpart | hlast
  · obtain ⟨part, -, rfl⟩ := List.mem_map.1 hpart
    have hnoted : Releases spec first w (w.interfaceNote frontend (.tornDown part)) :=
      releases_interfaceNote h (.tornDown part)
    refine releases_tearDownPart h part ?_
    split
    · exact releases_releaseInput hnoted.quiet (hnoted.keeps.partner hordered id hid hpartner)
    · exact Releases.refl hnoted.quiet
  · rw [List.mem_singleton.1 hlast]
    exact releases_releaseSignals h hordered hpartner

/-- Taking a session down, as far as this is possible. -/
theorem releases_sessionTeardown (h : w.Quiet) (hordered : Ordered first w) (hid : id < w.nextId)
    (hpartner : Partner spec first id w) :
    Releases spec first w (tearDownAll (sessionTeardown id frontend) w).2 := by
  refine tearDownAll_keeps (P := Releases spec first w) (fun action haction w' hw' => ?_)
    (Releases.refl h)
  exact hw'.trans (releases_teardownAction hw'.quiet (hw'.keeps.ordered hordered)
    (Nat.lt_of_lt_of_le hid hw'.keeps.nextId) (hw'.keeps.partner hordered id hid hpartner) haction)

/-! ## Whether a session can be taken down -/

theorem answer_tearDownPart (frontend : Frontend) (part : String) (release : Workspace → Workspace)
    (w : Workspace) : (tearDownPart frontend part release w).1 = if frontend.refuses part then
      .error (.component part "refused to stop") else .ok () := by
  unfold tearDownPart
  cases frontend with
  | headless => rfl
  | recording failing =>
      have hrefuses : (Frontend.recording failing).refuses part = failing.contains part := rfl
      rw [hrefuses]
      simp only
      cases failing.contains part <;> rfl

theorem tearDownAll_succeeds_iff (release : String → Workspace → Workspace)
    (last : Workspace → Workspace) (parts : List String) (w : Workspace) :
    (tearDownAll (parts.map (fun part => tearDownPart frontend part (release part)) ++
      [fun w => (.ok (), last w)]) w).1 = .ok () ↔
      ∀ part ∈ parts, frontend.refuses part = false := by
  induction parts generalizing w with
  | nil => exact ⟨fun _ part hpart => (List.not_mem_nil hpart).elim, fun _ => rfl⟩
  | cons part rest ih =>
      have hanswer := answer_tearDownPart frontend part (release part) w
      rw [List.forall_mem_cons, List.map_cons, List.cons_append]
      unfold tearDownAll
      cases hr : tearDownPart frontend part (release part) w with
      | mk answer w' =>
          rw [hr] at hanswer
          cases hrefuses : frontend.refuses part with
          | true =>
              rw [if_pos hrefuses] at hanswer
              subst hanswer
              simp
          | false =>
              rw [if_neg (by simp [hrefuses])] at hanswer
              subst hanswer
              simp only [ih w', true_and]

theorem destroySession_succeeds_iff (hpartner : Partner spec first id w) :
    (w.destroySession id).1 = .ok () ↔
      ∀ part ∈ sessionParts, spec.frontend.refuses part = false := by
  obtain ⟨s, hs, -, hfrontend, -⟩ := hpartner
  unfold destroySession
  rw [hs, ← hfrontend]
  exact tearDownAll_succeeds_iff (fun part => if part == "input controller" then releaseInput id
    else fun w => w) (releaseSignals id) sessionParts w

theorem releases_destroySession (h : w.Quiet) (hordered : Ordered first w) (hid : id < w.nextId)
    (hpartner : Partner spec first id w) : Releases spec first w (w.destroySession id).2 := by
  have htorn : ∀ frontend, Releases spec first w (tearDownAll (sessionTeardown id frontend) w).2 :=
    fun _ => releases_sessionTeardown h hordered hid hpartner
  obtain ⟨s, hs, -⟩ := hpartner
  unfold destroySession
  rw [hs]
  have htorn := htorn s.frontend
  refine htorn.trans (releases_modifySession htorn.quiet id ?_ ?_ ?_)
  · exact fun _ => rfl
  · exact fun _ => rfl
  · exact fun s record hrecord => hrecord

/-! ## The editor's own subscription -/

/-- After its subscriptions ended, the editor is silent. -/
theorem releases_detachRelays (h : w.Quiet) {e : Editor} (heditor : w.editor = some e)
    (hrelay : ∀ number, e.metadataSubscription = some number → Fresh first number w) :
    ∃ w', Releases spec first w w' ∧ w.detachRelays = w'.modifyEditor Editor.silent := by
  obtain ⟨undoManagers, heq⟩ := detachRelays_eq heditor
  have hended : Releases spec first w (w.withoutRelay e) := by
    unfold withoutRelay
    cases hnumber : e.metadataSubscription with
    | none => exact Releases.refl h
    | some number => exact releases_unsubscribe h .metadataChanged (hrelay number hnumber)
  have hmanaged : Releases spec first (w.withoutRelay e)
      { w.withoutRelay e with undoManagers } :=
    releases_of_same (keeps_of_same hended.quiet (Nat.le_refl _) rfl rfl)
      (adds_of_unnoted hended.quiet rfl rfl) rfl rfl
  exact ⟨_, hended.trans hmanaged, heq⟩

end Releases

end Coedit.Workspace
