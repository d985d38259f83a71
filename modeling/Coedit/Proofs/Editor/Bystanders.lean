import Coedit.Proofs.Editor.Readiness

/-!
# Bystanders of an opening

While the editor opens a document, observers may hear of its member and give commands. As long
as they neither make nor end subscriptions to the engine, nothing happens to the editor and to
the engine's bus but what the editor does itself, even if they load another document or close
the engine.
-/

namespace Coedit

/-- Commands that neither make nor end a subscription to the engine while the editor is held. -/
def Command.sparesEngine : Command → Bool
  | .engine (.unsubscribe _ _) | .watchEngine _ _ _ _ | .newSession _ | .destroySession => false
  | _ => true

namespace Workspace

/-- The editor is held, and as far as it is concerned nothing happens. -/
structure Standing (holds : List (Place × Access)) (e : Editor)
    (bus : SignalBus EngineSignal EngineListener) (w : Workspace) : Prop where
  under : w.holds = holds
  editor : w.editor = some e
  wired : w.engine.bus = bus
  gives : Agenda.ObserversGive (fun c => c.sparesEngine = true) w

section Standing

variable {holds : List (Place × Access)} {e e' : Editor}
  {bus : SignalBus EngineSignal EngineListener} {w w' : Workspace} {act : Conduct}

theorem Standing.passing (h : Standing holds e bus w) (hpassing : Passing w w') :
    Standing holds e bus w' :=
  ⟨hpassing.holds.trans h.under, hpassing.editor.trans h.editor, hpassing.bus.trans h.wired,
    hpassing.gives h.gives⟩

theorem Standing.modifyEditor (h : Standing holds e bus w) (f : Editor → Editor) :
    Standing holds (f e) bus (w.modifyEditor f) :=
  ⟨h.under, by simp [Workspace.modifyEditor, h.editor], h.wired, h.gives⟩

theorem holding_of_held (h : (.editor, .exclusive) ∈ w.holds) (access : Access)
    (job : Workspace → Reply × Workspace) : w.holding .editor access job = (.busy, w) := by
  unfold holding
  rw [if_neg fun hfree => not_held_of_isFree hfree h]

theorem withEditor_of_held (h : (.editor, .exclusive) ∈ w.holds) (he : w.editor = some e)
    (access : Access) (job : Editor → Workspace → Reply × Workspace) :
    w.withEditor access job = (.busy, w) := by
  unfold withEditor
  rw [he]
  exact holding_of_held h access (job e)

/-- The session of an editor that is held is out of reach too. -/
theorem withSession_of_held (h : (.editor, .exclusive) ∈ w.holds) (he : w.editor = some e)
    (access : Access) (job : Nat → Workspace → Reply × Workspace) :
    w.withSession access job = (.busy, w) := by
  have hmeant : w.meantSession = some (.editor, openSession? e) := by
    unfold meantSession
    rw [he]
  unfold withSession
  rw [hmeant]
  cases openSession? e with
  | none => exact holding_of_held h access _
  | some id => exact holding_of_held h access (job id)

theorem standing_doEngine (h : Lasting act (fun c => c.sparesEngine = true) (Standing holds e bus))
    (hw : Standing holds e bus w) {c : EngineCommand}
    (hc : (Command.engine c).sparesEngine = true) :
    Standing holds e bus (w.doEngine act c).2 := by
  cases c with
  | load url =>
      rw [doEngine, reply_snd]
      exact hw.passing (passing_loadDocument w.files url w)
  | close =>
      rw [doEngine, reply_snd]
      exact h.closeEngine hw
  | flush => exact h.flush hw
  | enqueue batch =>
      rw [doEngine, reply_snd]
      exact h.enqueue batch hw
  | unsubscribe signal id => cases hc
  | ask query => exact hw
  | _ => exact hw.passing ⟨rfl, rfl, rfl, fun _ => rfl, rfl, fun _ => rfl⟩

theorem standing_step (hheld : (.editor, .exclusive) ∈ holds)
    (h : Lasting act (fun c => c.sparesEngine = true) (Standing holds e bus))
    (hw : Standing holds e bus w) {c : Command} (hc : c.sparesEngine = true) :
    Standing holds e bus (step act c w).2 := by
  have hthis : (.editor, .exclusive) ∈ w.holds := by
    rw [hw.under]
    exact hheld
  cases c with
  | engine c => exact standing_doEngine h hw hc
  | session c | input c | watchSession =>
      rw [step, withSession_of_held hthis hw.editor]
      exact hw
  | editor c | watchEditor =>
      rw [step, withEditor_of_held hthis hw.editor]
      exact hw
  | newEditor spec =>
      rw [step, newEditor, holding_of_held hthis]
      exact hw
  | undecodable => exact hw
  | newSession | destroySession | watchEngine => cases hc

theorem lasting_standing (hheld : (.editor, .exclusive) ∈ holds) :
    Lasting conduct (fun c => c.sparesEngine = true) (Standing holds e bus) := by
  have hperform : ∀ depth,
      Lasting (perform depth) (fun c => c.sparesEngine = true) (Standing holds e bus) := by
    intro depth
    induction depth with
    | zero => exact ⟨Standing.passing, Standing.gives, fun hw _ => hw⟩
    | succ depth ih =>
        exact ⟨Standing.passing, Standing.gives, fun hw hc => standing_step hheld ih hw hc⟩
  exact ⟨Standing.passing, Standing.gives, fun hw hc => (hperform _).acts hw hc⟩

/-! ## Giving up -/

def unrelayed (e : Editor) (bus : SignalBus EngineSignal EngineListener) :
    SignalBus EngineSignal EngineListener :=
  match e.metadataSubscription with
  | some id => bus.unsubscribe .metadataChanged id
  | none => bus

theorem standing_abandonOpening (hheld : (.editor, .exclusive) ∈ holds)
    (h : Standing holds e bus w) :
    Standing holds { e.silent with session := none } (unrelayed e bus)
      (w.abandonOpening conduct) := by
  have hrelay : Standing holds e (unrelayed e bus) (w.withoutRelay e) := by
    unfold withoutRelay unrelayed
    cases e.metadataSubscription with
    | none => exact h
    | some id =>
        refine ⟨h.under, h.editor, ?_, h.gives⟩
        show w.engine.bus.unsubscribe .metadataChanged id = _
        rw [h.wired]
  obtain ⟨undoManagers, heq⟩ := detachRelays_eq h.editor
  have hdetached : Standing holds e.silent (unrelayed e bus) w.detachRelays := by
    have hmanaged : Standing holds e (unrelayed e bus) { w.withoutRelay e with undoManagers } :=
      hrelay.passing ⟨rfl, rfl, rfl, fun _ => rfl, rfl, fun _ => rfl⟩
    rw [heq]
    exact hmanaged.modifyEditor Editor.silent
  have habandoned : Standing holds { e.silent with session := none } (unrelayed e bus)
      w.detachRelays.abandonSession := by
    unfold abandonSession
    rw [hdetached.editor, Option.bind_some]
    cases hsession : e.silent.session with
    | none =>
        rw [show { e.silent with session := none } = e.silent by rw [← hsession]]
        exact hdetached
    | some id =>
        have hdropped : Standing holds e.silent (unrelayed e bus) (w.detachRelays.dropSession id) :=
          hdetached.passing (passing_modifySession fun _ => rfl)
        exact hdropped.modifyEditor fun e => { e with session := none }
  exact (lasting_standing hheld).closeEngine habandoned

end Standing

end Workspace

end Coedit
