import Coedit.Proofs.Editor.Upkeep
import Coedit.Proofs.Workspace.Numbers

/-!
# News from opening to closing

An opened document gets an undo manager of its own, whose flag is down, and the editor listens to
that one until the document is closed. So what a listener hears between an opening and the next
closing starts with the flag going up, tells each time the opposite of what was told before, and
ends where the flag is; it hears nothing otherwise.
-/

namespace Coedit.Workspace

open Attempt (Triple Preserves)
open Selection (modifications)

def documentModified (w : Workspace) : Bool := w.editor.any w.isModified

structure Engaged (label : String) (e : Editor) (w : Workspace) (stand : Stand) (v : Workspace) :
    Prop where
  quiet : v.Quiet
  holds : v.holds = w.holds
  editor : ∃ e', Attuned label e' v ∧ e'.id = e.id ∧ e'.options = e.options ∧ e'.stand = stand

/-- The listener heard each change of the flag. -/
structure Mirroring (label : String) (e : Editor) (w : Workspace) (stand : Stand) (v : Workspace) :
    Prop extends Engaged label e w stand v where
  news : ∃ news, v.noted (modifications label) = w.noted (modifications label) ++ news ∧
    Swings (w.isModified e) news v.documentModified ∧ (stand.manager = none → news = [])

/-- The editor has let go of its undo manager; until then the listener heard each change. -/
structure Severed (label : String) (e : Editor) (w : Workspace) (state : EditorState)
    (v : Workspace) : Prop where
  engaged : ∃ seated, Engaged label e w ⟨state, none, seated⟩ v
  news : ∃ news, v.noted (modifications label) = w.noted (modifications label) ++ news ∧
    (w.isModified e :: news).IsChain (· ≠ ·) ∧
      (e.options.features.undoRedo = false → news = [])

section Periods

variable {label : String} {w v v' : Workspace} {e : Editor} {stand : Stand} {state : EditorState}

theorem Attuned.documentModified (h : Attuned label e w) :
    w.documentModified = w.isModified e := by
  unfold Workspace.documentModified
  rw [h.editor]
  rfl

/-! ## Steps that mirror the flag -/

theorem Engaged.mirrors (h : Engaged label e w stand v) (hmirrors : Mirrors label v v') :
    Engaged label e w stand v' ∧ ∃ news,
      v'.noted (modifications label) = v.noted (modifications label) ++ news ∧
        Swings v.documentModified news v'.documentModified ∧
          (stand.manager = none → news = []) := by
  obtain ⟨e', he', hid, hoptions, rfl⟩ := h.editor
  obtain ⟨e'', he'', halike, news, hnews⟩ := hmirrors.editor e' he'
  refine ⟨⟨hmirrors.quiet, hmirrors.holds.trans h.holds, e'', he'', halike.id.trans hid,
    halike.options.trans hoptions, halike.stand⟩, news, hnews.noted, ?_, hnews.unmanaged⟩
  rw [he'.documentModified, he''.documentModified]
  exact hnews.swings

theorem Mirroring.mirrors (h : Mirroring label e w stand v) (hmirrors : Mirrors label v v') :
    Mirroring label e w stand v' := by
  obtain ⟨hengaged, more, hmore, hswings', hsilent'⟩ := h.toEngaged.mirrors hmirrors
  obtain ⟨news, hnoted, hswings, hsilent⟩ := h.news
  refine ⟨hengaged, news ++ more, ?_, hswings.append hswings', fun hnone => ?_⟩
  · rw [hmore, hnoted, List.append_assoc]
  · rw [hsilent hnone, hsilent' hnone]
    rfl

theorem Severed.mirrors (h : Severed label e w state v) (hmirrors : Mirrors label v v') :
    Severed label e w state v' := by
  obtain ⟨seated, hengaged⟩ := h.engaged
  obtain ⟨hengaged', more, hmore, -, hsilent⟩ := hengaged.mirrors hmirrors
  obtain ⟨news, hnoted, hnews⟩ := h.news
  refine ⟨⟨seated, hengaged'⟩, news, ?_, hnews⟩
  rw [hmore, hsilent rfl, List.append_nil, hnoted]

theorem Severed.quiet (h : Severed label e w state v) : v.Quiet := by
  obtain ⟨seated, hengaged⟩ := h.engaged
  exact hengaged.quiet

theorem Mirroring.refl (he : Attuned label e w) (hquiet : w.Quiet) :
    Mirroring label e w e.stand w :=
  ⟨⟨hquiet, rfl, e, he, rfl, rfl, rfl⟩, [], (List.append_nil _).symm, he.documentModified,
    fun _ => rfl⟩

/-- Without an undo manager there is nothing to let go. -/
theorem Mirroring.severed {seated : Bool} (h : Mirroring label e w ⟨state, none, seated⟩ v) :
    Severed label e w state v := by
  obtain ⟨news, hnoted, hswings, hsilent⟩ := h.news
  exact ⟨⟨seated, h.toEngaged⟩, news, hnoted, hswings.isChain, fun _ => hsilent rfl⟩

/-! ## Steps of the editor -/

/-- The editor goes to another state, or gets another session. -/
theorem Engaged.modifyEditor (h : Engaged label e w stand v) (stand' : Stand)
    {f : Editor → Editor} (hid : ∀ e, (f e).id = e.id) (hoptions : ∀ e, (f e).options = e.options)
    (hrecord : ∀ e, (f e).modifiedSubscription = e.modifiedSubscription)
    (hbus : ∀ e, (f e).bus.subscriptions ⊆ e.bus.subscriptions)
    (hlistens : stand'.state ≠ .destroyed → stand.state ≠ .destroyed ∧ ∀ e, (f e).bus = e.bus)
    (hstand : ∀ e : Editor, e.stand = stand → (f e).stand = stand')
    (hmanager : stand'.manager = stand.manager)
    (hseated : stand'.state = .editing → stand'.seated = true)
    (hlive : stand'.state = .destroyed → stand.manager = none) :
    Engaged label e w stand' (v.modifyEditor f) ∧
      (v.modifyEditor f).documentModified = v.documentModified := by
  obtain ⟨e', he', hid', hoptions', rfl⟩ := h.editor
  have hstand' : (f e').stand = stand' := hstand e' rfl
  have hown : (f e').undoManager = e'.undoManager := (congrArg Stand.manager hstand').trans hmanager
  have hstate : (f e').state = stand'.state := congrArg Stand.state hstand'
  have hattuned : Attuned label (f e') (v.modifyEditor f) :=
    he'.modifyEditor (hid e') hown (hrecord e')
      (fun hediting => (congrArg Stand.seated hstand').trans (hseated (hstate.symm.trans hediting)))
      (hbus e')
      (fun hstays => by
        obtain ⟨hlives, hsame⟩ := hlistens (hstate ▸ hstays)
        exact ⟨hlives, by rw [hsame e']⟩)
      fun hdestroyed => hlive (hstate.symm.trans hdestroyed)
  refine ⟨⟨h.quiet, h.holds, f e', hattuned, (hid e').trans hid', (hoptions e').trans hoptions',
    hstand'⟩, ?_⟩
  rw [hattuned.documentModified, he'.documentModified]
  unfold isModified
  rw [hown]
  rfl

/-- The step of the lifecycle is taken, and nothing is heard of it. -/
theorem Engaged.advance (h : Engaged label e w stand v) (action : EditorAction)
    (state : EditorState) (hnext : stand.state.next? action = some state)
    (hseated : state = .editing → stand.seated = true)
    (hlive : state = .destroyed → stand.manager = none) :
    ∃ v', (advance action).result v = (.ok (), v') ∧
      Engaged label e w { stand with state } v' ∧
        v'.noted (modifications label) = v.noted (modifications label) ∧
          v'.documentModified = v.documentModified := by
  obtain ⟨e', he', -, -, rfl⟩ := h.editor
  have hgoes : (advance action).result v =
      (.ok (), v.modifyEditor fun e => { e with state }) := result_advance_of_legal he'.editor hnext
  have hlives : e'.stand.state ≠ .destroyed := by
    intro hdestroyed
    rw [hdestroyed] at hnext
    cases action <;> cases hnext
  obtain ⟨hengaged, hflag⟩ := h.modifyEditor { e'.stand with state }
    (f := fun e => { e with state }) (fun _ => rfl) (fun _ => rfl) (fun _ => rfl)
    (fun _ => List.Subset.refl _)
    (fun _ => ⟨hlives, fun _ => rfl⟩)
    (fun e hstand => by
      obtain ⟨-, hmanager, hsession⟩ := Stand.mk.inj hstand
      simp only [Editor.stand, hmanager, hsession])
    rfl hseated hlive
  exact ⟨_, hgoes, hengaged, rfl, hflag⟩

theorem Mirroring.advance (h : Mirroring label e w stand v) (action : EditorAction)
    (state : EditorState) (hnext : stand.state.next? action = some state)
    (hseated : state = .editing → stand.seated = true)
    (hlive : state = .destroyed → stand.manager = none) :
    ∃ v', (Workspace.advance action).result v = (.ok (), v') ∧
      Mirroring label e w { stand with state } v' := by
  obtain ⟨v', hgoes, hengaged, hnoted, hflag⟩ := h.toEngaged.advance action state hnext hseated hlive
  exact ⟨v', hgoes, hengaged, by rw [hnoted, hflag]; exact h.news⟩

theorem Severed.advance (h : Severed label e w state v) (action : EditorAction)
    {state' : EditorState} (hnext : state.next? action = some state')
    (hediting : state' ≠ .editing) :
    ∃ v', (Workspace.advance action).result v = (.ok (), v') ∧ Severed label e w state' v' := by
  obtain ⟨seated, hengaged⟩ := h.engaged
  obtain ⟨v', hgoes, hengaged', hnoted, -⟩ :=
    hengaged.advance action state' hnext (fun h => absurd h hediting) fun _ => rfl
  exact ⟨v', hgoes, ⟨seated, hengaged'⟩, by rw [hnoted]; exact h.news⟩

/-- The editor takes a session, or gives it up. -/
theorem Engaged.seat {manager : Option Nat} {seated : Bool}
    (h : Engaged label e w ⟨state, manager, seated⟩ v) (session : Option Nat)
    (hlive : state ≠ .destroyed) (hediting : state ≠ .editing) :
    Engaged label e w ⟨state, manager, session.isSome⟩
        (v.modifyEditor fun e => { e with session }) ∧
      (v.modifyEditor fun e => { e with session }).documentModified = v.documentModified :=
  h.modifyEditor ⟨state, manager, session.isSome⟩ (fun _ => rfl) (fun _ => rfl)
    (fun _ => rfl) (fun _ => List.Subset.refl _) (fun _ => ⟨hlive, fun _ => rfl⟩)
    (fun e hstand => by
      obtain ⟨hstate, hmanager, -⟩ := Stand.mk.inj hstand
      simp only [Editor.stand, hstate, hmanager])
    rfl (fun h => absurd h hediting) fun h => absurd h hlive

theorem Mirroring.seat {manager : Option Nat} {seated : Bool}
    (h : Mirroring label e w ⟨state, manager, seated⟩ v) (session : Option Nat)
    (hlive : state ≠ .destroyed) (hediting : state ≠ .editing) :
    Mirroring label e w ⟨state, manager, session.isSome⟩
      (v.modifyEditor fun e => { e with session }) := by
  obtain ⟨hengaged, hflag⟩ := h.toEngaged.seat session hlive hediting
  exact ⟨hengaged, by rw [hflag]; exact h.news⟩

/-- A new undo manager, whose flag is down, becomes the editor's. -/
theorem Mirroring.relayModified {seated : Bool}
    (h : Mirroring label e w ⟨state, none, seated⟩ v) {manager : Nat}
    (hmanager : v.undoManagers.get? manager = some {}) (hlt : manager < v.nextId)
    (hlive : state ≠ .destroyed) :
    Mirroring label e w ⟨state, some manager, seated⟩ (v.relayModified e manager) := by
  obtain ⟨e', he', hid, hoptions, hstand⟩ := h.editor
  obtain ⟨hstate, hnone, hseated⟩ := Stand.mk.inj hstand
  have hrelayed := relayModified_of_new hmanager e
  let after : Editor := { e' with undoManager := some manager, modifiedSubscription := some 0 }
  have hattuned : Attuned label after (v.relayModified e manager) := by
    rw [hrelayed]
    refine ⟨by simp [Workspace.modifyEditor, he'.editor, after], he'.seated, he'.unreported,
      he'.numbered, he'.listens, fun other m hm htold => ?_, fun other hother => ?_⟩
    · obtain ⟨rfl, -⟩ | ⟨-, hm⟩ := Dict.insert_cases hm
      · rfl
      · have hold := he'.told other m hm htold
        rw [hnone] at hold
        cases hold
    · obtain rfl := Option.some.inj hother
      refine ⟨hlt, fun hdestroyed => hlive (hstate.symm.trans hdestroyed), rfl, ?_⟩
      simp [Workspace.modifyEditor, relayingManager, after, hid]
  have hbefore : v.documentModified = false := by
    rw [he'.documentModified, isModified_of_unmanaged hnone]
  have hafter : (v.relayModified e manager).documentModified = false := by
    rw [hattuned.documentModified]
    refine isModified_of_manager (m := relayingManager e.id) rfl ?_
    rw [hrelayed]
    simp [Workspace.modifyEditor]
  obtain ⟨news, hnoted, hswings, -⟩ := h.news
  rw [hbefore] at hswings
  refine ⟨⟨?_, ?_, after, hattuned, hid, hoptions, ?_⟩, news, ?_, ?_, fun hnone' => by cases hnone'⟩
  · rw [hrelayed]
    exact h.quiet
  · rw [hrelayed]
    exact h.holds
  · simp only [Editor.stand, after, hstate, ← hseated]
  · rw [hrelayed]
    exact hnoted
  · rw [hafter]
    exact hswings

/-- The editor lets go of its undo manager, and is told of none any more. -/
theorem Attuned.untold (h : Attuned label e v) {manager : Nat} {m : UndoManager Nat}
    (hm : v.detachRelays.undoManagers.get? manager = some m) :
    e.id ∉ m.bus.handlers .modifiedChanged := by
  have hkept : (v.withoutRelay e).undoManagers = v.undoManagers := by
    unfold withoutRelay
    split <;> rfl
  intro htold
  cases hown : e.undoManager with
  | none =>
      have hsame : v.detachRelays.undoManagers = (v.withoutRelay e).undoManagers := by
        unfold Workspace.detachRelays
        rw [h.editor]
        simp only [hown]
        rfl
      have htells := h.told manager m (by rw [← hkept, ← hsame]; exact hm) htold
      rw [hown] at htells
      cases htells
  | some own =>
      obtain ⟨-, -, hrecord, hsubscriptions⟩ := h.managed own hown
      have hsame : v.detachRelays.undoManagers =
          (v.withoutRelay e).undoManagers.modify own (·.unsubscribe 0) := by
        unfold Workspace.detachRelays
        rw [h.editor]
        simp only [hown, hrecord]
        rfl
      rw [hsame, hkept] at hm
      obtain ⟨m', hm', ⟨hother, rfl⟩ | ⟨rfl, rfl⟩⟩ := Dict.modify_cases hm
      · have htells := h.told manager m hm' htold
        rw [hown] at htells
        exact hother (Option.some.inj htells)
      · rw [hm'] at hsubscriptions
        have hleft : (m'.unsubscribe 0).bus.subscriptions = [] := by
          simp only [UndoManager.unsubscribe, SignalBus.unsubscribe,
            Option.some.inj hsubscriptions]
          rfl
        unfold SignalBus.handlers at htold
        rw [hleft] at htold
        exact List.not_mem_nil htold

theorem Engaged.detachRelays (h : Engaged label e w stand v) :
    Engaged label e w { stand with manager := none } v.detachRelays ∧
      v.detachRelays.noted (modifications label) = v.noted (modifications label) := by
  obtain ⟨e', he', hid, hoptions, rfl⟩ := h.editor
  obtain ⟨undoManagers, heq⟩ := detachRelays_eq he'.editor
  have hrelay : Aside label v (v.withoutRelay e') := by
    unfold withoutRelay
    split
    · exact (aside_unwinding label).unsubscribe v _ _
    · exact .refl v
  have hattuned := hrelay.attuned he'
  have hsilent : Attuned label e'.silent v.detachRelays := by
    refine ⟨?_, he'.seated, ?_, ?_, ?_, fun manager m hm htold => ?_, fun _ h => by cases h⟩
    · rw [heq]
      simp [Workspace.modifyEditor, hattuned.editor]
    · rw [heq]
      exact hattuned.unreported
    · rw [heq]
      exact hattuned.numbered
    · rw [heq]
      exact hattuned.listens
    · exact absurd htold (he'.untold hm)
  refine ⟨⟨?_, ?_, e'.silent, hsilent, hid, hoptions, rfl⟩, ?_⟩
  · rw [heq]
    exact hrelay.quiet h.quiet
  · rw [heq]
    exact hrelay.holds.trans h.holds
  · rw [heq]
    exact hrelay.noted

theorem Mirroring.detachRelays (h : Mirroring label e w stand v)
    (hundo : e.options.features.undoRedo = false → stand.manager = none) :
    Severed label e w stand.state v.detachRelays := by
  obtain ⟨hengaged, hnoted⟩ := h.toEngaged.detachRelays
  obtain ⟨news, hnews, hswings, hsilent⟩ := h.news
  exact ⟨⟨stand.seated, hengaged⟩, news, hnoted.trans hnews, hswings.isChain,
    fun hoff => hsilent (hundo hoff)⟩

theorem Severed.detachRelays (h : Severed label e w state v) :
    Severed label e w state v.detachRelays := by
  obtain ⟨seated, hengaged⟩ := h.engaged
  obtain ⟨hengaged', hnoted⟩ := hengaged.detachRelays
  exact ⟨⟨seated, hengaged'⟩, by rw [hnoted]; exact h.news⟩

/-! ## Opening a document -/

variable {ε α : Type} {ι : Type} {P : Workspace → Prop}

theorem preserves_byEngine_mirrors {f : Workspace → Except EngineError α × Workspace}
    (h : ∀ v, Quiet v → Mirrors label v (f v).2) :
    Preserves (Mirroring label e w stand) (byEngine f) :=
  triple_byEngine_of_lasting fun v hv => hv.mirrors (h v hv.quiet)

theorem mirrors_attachToolbar (h : v.Quiet) (e : Editor) (attached : Bool) :
    Mirrors label v (attachToolbar e attached v) := by
  have hnote : Mirrors label v (v.interfaceNote e.frontend (.attached attached)) :=
    (aside_interfaceNote e.frontend (.attached attached) v).mirrors h
  exact hnote.trans
    (mirrors_detail hnote.quiet (fun _ => ⟨rfl, rfl, rfl⟩) (fun _ => rfl) fun _ => rfl)

theorem preserves_enterDocument_mirrors (e' : Editor) (session : Nat) :
    Preserves (Mirroring label e w stand) (enterDocument conduct e' session) := by
  exact enterDocument_rule
    (preserves_byEngine_mirrors fun v hv => ((aside_handling label).subscribe _ _ v).mirrors hv)
    (fun _ v hv => hv.mirrors
      (mirrors_detail hv.quiet (fun _ => ⟨rfl, rfl, rfl⟩) (fun _ => rfl) fun _ => rfl))
    (fun _ => preserves_byEngine_mirrors fun v hv => (mirrors_submission label).submit hv _)
    (fun _ v hv => hv.mirrors (mirrors_attachToolbar hv.quiet e' true))
    (fun _ => preserves_byEngine_mirrors fun v hv => mirrors_submitFor hv session .addCursor)
    fun _ v hv => hv.mirrors (((aside_handling label).setEditing session true v).mirrors hv.quiet)

/-- The editor gets the undo manager that was created for it. -/
theorem triple_startUndo_mirrors {seated : Bool} (hlive : state ≠ .destroyed) (session : Nat) :
    Triple (Mirroring label e w ⟨state, none, seated⟩) (startUndo e session)
      (fun _ v => ∃ manager, Mirroring label e w ⟨state, some manager, seated⟩ v)
      (fun _ => Mirroring label e w ⟨state, none, seated⟩) := by
  let Created (manager : Nat) (v : Workspace) : Prop :=
    Mirroring label e w ⟨state, none, seated⟩ v ∧ v.undoManagers.get? manager = some {} ∧
      manager < v.nextId
  have hset (manager : Nat) (v : Workspace) (hv : Created manager v) :
      Created manager (v.setUndoManager session manager).2 := by
    have hset := (aside_handling label).setUndoManager session manager v
    exact ⟨hv.1.mirrors (hset.mirrors hv.1.quiet), (hset.managers manager).trans hv.2.1,
      hv.2.2.trans_le hset.nextId⟩
  refine startUndo_rule (B := Created) (C := Created)
    (fun v hv => hv.mirrors ((aside_interfaceNote e.frontend .undoManager v).mirrors hv.quiet))
    (fun v hv => ?_) (fun manager => ?_)
    fun manager v hv => ⟨manager, hv.1.relayModified hv.2.1 hv.2.2 hlive⟩
  · exact ⟨hv.mirrors (mirrors_createUndoManager hv.quiet), by simp [createUndoManager],
      Nat.lt_succ_self _⟩
  · exact (triple_byEngine_of_lasting (hset manager)).mono (fun _ hv => hv) (fun _ _ hv => hv)
      fun _ _ hv => hv.1

def Starting (label : String) (e : Editor) (w v : Workspace) : Prop :=
  ∃ stand, Mirroring label e w stand v ∧ stand.state = .loading ∧
    (e.options.features.undoRedo = false → stand.manager = none)

theorem triple_startSession_mirrors {seated : Bool} :
    Triple (Mirroring label e w ⟨.loading, none, seated⟩) (startSession conduct e)
      (fun _ v => ∃ manager, Mirroring label e w ⟨.loading, manager, true⟩ v ∧
        (e.options.features.undoRedo = false → manager = none))
      (fun _ => Starting label e w) := by
  have hunmanaged {seated : Bool} (v : Workspace)
      (hv : Mirroring label e w ⟨.loading, none, seated⟩ v) : Starting label e w v :=
    ⟨_, hv, rfl, fun _ => rfl⟩
  have hcreate (spec : SessionSpec) (features : FeatureSet) :
      Preserves (Mirroring label e w ⟨.loading, none, seated⟩)
        (bySession (createSession spec features)) :=
    triple_bySession_of_lasting fun v hv =>
      hv.mirrors ((aside_createSession spec features v).mirrors hv.quiet)
  let Provided (v : Workspace) : Prop := ∃ manager,
    Mirroring label e w ⟨.loading, manager, seated⟩ v ∧
      (e.options.features.undoRedo = false → manager = none)
  have henter (session : Nat) (manager : Option Nat)
      (hundo : e.options.features.undoRedo = false → manager = none) :
      Triple (Mirroring label e w ⟨.loading, manager, seated⟩) (enterDocument conduct e session)
        (fun _ => Provided) (fun _ => Starting label e w) :=
    (preserves_enterDocument_mirrors e session).mono (fun _ hv => hv)
      (fun _ _ hv => ⟨manager, hv, hundo⟩) fun _ _ hv => ⟨_, hv, rfl, hundo⟩
  have hequip (session : Nat) : Triple (Mirroring label e w ⟨.loading, none, seated⟩)
      (equipSession conduct e session) (fun _ => Provided) (fun _ => Starting label e w) := by
    refine equipSession_rule (A := Provided) (fun hfeature => ?_)
      (fun _ _ hv => ⟨none, hv, fun _ => rfl⟩)
      (.exists fun manager v hv => henter session manager hv.2 v hv.1)
    refine (triple_startUndo_mirrors (by decide) session).mono (fun _ hv => hv) ?_
      fun _ => hunmanaged
    rintro _ v ⟨manager, hv⟩
    exact ⟨some manager, hv, fun hoff => by rw [hfeature] at hoff; cases hoff⟩
  refine startSession_rule (F := fun _ _ => Starting label e w)
    ((hcreate _ _).mono (fun _ hv => hv) (fun _ _ hv => hv) fun _ => hunmanaged) hequip ?_ ?_
  · rintro session - v ⟨stand, hv, hloading, hundo⟩
    exact ⟨stand, hv.mirrors (((aside_unwinding label).dropSession session v).mirrors hv.quiet),
      hloading, hundo⟩
  · rintro session v ⟨manager, hv, hundo⟩
    exact ⟨manager, hv.seat (some session) (by decide) (by decide), hundo⟩

theorem Starting.abandon (h : Starting label e w v) :
    Severed label e w .loading (abandonOpening conduct v) := by
  obtain ⟨stand, hv, hloading, hundo⟩ := h
  have hdetached := hv.detachRelays hundo
  rw [hloading] at hdetached
  have habandoned : Severed label e w .loading v.detachRelays.abandonSession := by
    unfold abandonSession
    split
    · exact hdetached
    · rename_i id _
      have hdropped := hdetached.mirrors
        (((aside_unwinding label).dropSession id v.detachRelays).mirrors hdetached.quiet)
      obtain ⟨seated, hengaged⟩ := hdropped.engaged
      obtain ⟨hengaged', -⟩ := hengaged.seat none (by decide) (by decide)
      exact ⟨⟨false, hengaged'⟩, hdropped.news⟩
  exact habandoned.mirrors (mirrors_closeEngine habandoned.quiet)

/-- A document that was opened has been watched from the start; if it could not be opened, nobody
is told of anything any more. -/
theorem triple_openDocument_mirrors (he : Attuned label e w) (hquiet : w.Quiet)
    (hnone : e.undoManager = none) (hstate : e.state ≠ .editing) (files : FileTree)
    (url : String) :
    Triple (fun v => v = w) (openDocument conduct files e url)
      (fun _ v => ∃ manager, Mirroring label e w ⟨.editing, manager, true⟩ v ∧
        (e.options.features.undoRedo = false → manager = none))
      (fun _ v => ∃ state, state ≠ .editing ∧ Severed label e w state v) := by
  have hstand : e.stand = ⟨e.state, none, e.session.isSome⟩ := by rw [← hnone]; rfl
  have hstart : Mirroring label e w ⟨e.state, none, e.session.isSome⟩ w :=
    hstand ▸ Mirroring.refl he hquiet
  have hadvance : Triple (fun v => v = w) (advance .open)
      (fun _ => Mirroring label e w ⟨.loading, none, e.session.isSome⟩)
      (fun _ v => ∃ state, state ≠ .editing ∧ Severed label e w state v) := by
    rintro v rfl
    cases hnext : e.state.next? .open with
    | none =>
        rw [result_advance_of_illegal he.editor hnext]
        exact ⟨e.state, hstate, hstart.severed⟩
    | some state =>
        obtain ⟨rfl, -⟩ := state_of_open hnext
        obtain ⟨v', hgoes, hv'⟩ := hstart.advance _ _ hnext (fun h => by cases h) fun h => by cases h
        rw [hgoes]
        exact hv'
  have hfailed : Triple (Severed label e w .loading) (advance .loadFailed)
      (fun _ v => ∃ state, state ≠ .editing ∧ Severed label e w state v)
      (fun _ v => ∃ state, state ≠ .editing ∧ Severed label e w state v) := by
    intro v hv
    obtain ⟨v', hgoes, hv'⟩ := hv.advance .loadFailed rfl (by decide)
    rw [hgoes]
    exact ⟨.closed, by decide, hv'⟩
  have hload : Triple (Mirroring label e w ⟨.loading, none, e.session.isSome⟩)
      (byEngine (loadDocument files url))
      (fun _ => Mirroring label e w ⟨.loading, none, e.session.isSome⟩)
      (fun _ => Severed label e w .loading) :=
    Triple.mono (preserves_byEngine_mirrors fun v hv => mirrors_loadDocument hv files url)
      (fun _ hv => hv) (fun _ _ hv => hv) fun _ _ hv => hv.severed
  refine openDocument_rule hadvance hload triple_startSession_mirrors (fun _ hv => hv.abandon)
    (fun _ => hfailed) ?_
  rintro v ⟨manager, hv, hundo⟩
  obtain ⟨v', hgoes, hv'⟩ := hv.advance .ready .editing rfl (fun _ => rfl)
    fun h => by cases h
  rw [hgoes]
  exact ⟨manager, hv', hundo⟩

/-! ## Closing it -/

/-- The editor is told of every change until the engine was closed. -/
theorem triple_leaveDocument_mirrors {manager : Option Nat} {seated : Bool}
    (hundo : e.options.features.undoRedo = false → manager = none) (session : Nat) :
    Triple (Mirroring label e w ⟨.closing, manager, seated⟩) (leaveDocument conduct e session)
      (fun _ => Severed label e w .closing)
      (fun _ v => Severed label e w .closing v.detachRelays) := by
  have hfailed (v : Workspace) (hv : Mirroring label e w ⟨.closing, manager, seated⟩ v) :
      Severed label e w .closing v.detachRelays := hv.detachRelays hundo
  have hstep {f : Workspace → Except EngineError Unit × Workspace}
      (hf : ∀ v, Quiet v → Mirrors label v (f v).2) :
      Triple (Mirroring label e w ⟨.closing, manager, seated⟩) (byEngine f)
        (fun _ => Mirroring label e w ⟨.closing, manager, seated⟩)
        (fun _ v => Severed label e w .closing v.detachRelays) :=
    (preserves_byEngine_mirrors hf).mono (fun _ hv => hv) (fun _ _ hv => hv) fun _ => hfailed
  refine leaveDocument_rule (D := Severed label e w .closing)
    (hstep fun v hv => mirrors_submitFor hv session .removeCursor)
    (hstep fun v hv => (mirrors_submission label).submit hv _)
    (hstep fun v hv => mirrors_closeEngine hv) hfailed fun v hv => ?_
  have hdestroyed := hv.mirrors
    (((aside_unwinding label).destroySession session v).mirrors hv.quiet)
  cases hr : v.destroySession session with
  | mk answer v' =>
      rw [hr] at hdestroyed
      cases answer with
      | ok _ => exact hdestroyed
      | error cause => exact hdestroyed.detachRelays

/-- From then on nobody is told of anything, whether or not all went well. -/
theorem triple_closeDocument_mirrors (he : Attuned label e w) (hquiet : w.Quiet)
    (hediting : e.state = .editing)
    (hundo : e.options.features.undoRedo = false → e.undoManager = none) :
    Triple (fun v => v = w) (closeDocument conduct e) (fun _ => Severed label e w .closed)
      (fun _ => Severed label e w .closing) := by
  obtain ⟨session, hsession⟩ := Option.isSome_iff_exists.1 (he.seated hediting)
  have hstart : Mirroring label e w ⟨.editing, e.undoManager, true⟩ w := by
    have hstand : e.stand = ⟨.editing, e.undoManager, true⟩ := by
      rw [Editor.stand, hediting, hsession, Option.isSome_some]
    exact hstand ▸ Mirroring.refl he hquiet
  have hadvance : Triple (fun v => v = w) (advance .close)
      (fun _ => Mirroring label e w ⟨.closing, e.undoManager, true⟩)
      (fun _ => Severed label e w .closing) := by
    rintro v rfl
    obtain ⟨v', hgoes, hv'⟩ := hstart.advance .close .closing rfl
      (fun h => by cases h) fun h => by cases h
    rw [hgoes]
    exact hv'
  have habort (cause : EditorError) (v : Workspace)
      (hv : Severed label e w .closing v.detachRelays) : Severed label e w .closing
        ((v.detachRelays.report conduct e.id (.unknownError cause.message)).dropSession session) := by
    have hreported : Severed label e w .closing
        (v.detachRelays.report conduct e.id (.unknownError cause.message)) :=
      hv.mirrors (mirrors_report conduct e.id (fun _ => rfl) hv.quiet)
    exact hreported.mirrors
      (((aside_unwinding label).dropSession session _).mirrors hreported.quiet)
  have hend : Triple (Severed label e w .closing) (advance .closed)
      (fun _ => Severed label e w .closed) (fun _ => Severed label e w .closing) := by
    intro v hv
    obtain ⟨v', hgoes, hv'⟩ := hv.advance .closed rfl (by decide)
    rw [hgoes]
    exact hv'
  exact closeDocument_rule (B := Mirroring label e w ⟨.closing, e.undoManager, false⟩) hsession
    hadvance (fun v hv => hv.seat none (by decide) (by decide))
    (fun v hv => hv.mirrors (((aside_handling label).setEditing session false v).mirrors hv.quiet))
    (fun v hv => hv.mirrors (mirrors_attachToolbar hv.quiet e false))
    (triple_leaveDocument_mirrors hundo session) habort hend

/-- An editor that is destroyed has no undo manager, and tells nobody of anything. -/
theorem triple_destroyEditor_mirrors (he : Attuned label e w) (hquiet : w.Quiet)
    (hnone : e.undoManager = none) :
    Triple (fun v => v = w) (destroyEditor e)
      (fun _ v => ∃ state seated, Mirroring label e w ⟨state, none, seated⟩ v)
      (fun _ v => ∃ state seated, Mirroring label e w ⟨state, none, seated⟩ v) := by
  have hstand : e.stand = ⟨e.state, none, e.session.isSome⟩ := by rw [← hnone]; rfl
  have hstart : Mirroring label e w ⟨e.state, none, e.session.isSome⟩ w :=
    hstand ▸ Mirroring.refl he hquiet
  have hadvance : Triple (fun v => v = w) (advance .destroy)
      (fun _ => Mirroring label e w ⟨.destroyed, none, e.session.isSome⟩)
      (fun _ v => ∃ state seated, Mirroring label e w ⟨state, none, seated⟩ v) := by
    rintro v rfl
    cases hnext : e.state.next? .destroy with
    | none =>
        rw [result_advance_of_illegal he.editor hnext]
        exact ⟨_, _, hstart⟩
    | some state =>
        obtain ⟨rfl, -⟩ := state_of_destroy hnext
        obtain ⟨v', hgoes, hv'⟩ := hstart.advance _ _ hnext (fun h => by cases h) fun _ => rfl
        rw [hgoes]
        exact hv'
  have hclear (v : Workspace)
      (hv : Mirroring label e w ⟨.destroyed, none, e.session.isSome⟩ v) :
      Mirroring label e w ⟨.destroyed, none, e.session.isSome⟩
        (v.modifyEditor fun e => { e with bus := e.bus.clear }) := by
    obtain ⟨hengaged, hflag⟩ := hv.toEngaged.modifyEditor
      ⟨.destroyed, none, e.session.isSome⟩
      (f := fun e => { e with bus := e.bus.clear }) (fun _ => rfl) (fun _ => rfl) (fun _ => rfl)
      (fun _ => List.nil_subset _) (fun h => absurd rfl h) (fun _ hstand => hstand) rfl
      (fun h => by cases h) fun _ => rfl
    exact ⟨hengaged, by rw [hflag]; exact hv.news⟩
  exact destroyEditor_rule hadvance
    (fun part v hv => hv.mirrors
      ((aside_interfaceNote e.frontend (.tornDown part) v).mirrors hv.quiet))
    (fun v hv => ⟨_, _, hclear v hv⟩) fun _ _ hv => hv

end Periods

end Coedit.Workspace
