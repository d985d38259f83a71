import Coedit.Proofs.Editor.Readiness
import Coedit.Proofs.Session.Proposals
import Coedit.Proofs.Workspace.Presence

/-!
# What leaves the local member's record alone

The editor introduces its member to the engine with an operation that is queued like any other. From
then on the member's record is, or will be when the queue is applied, what the editor said
(`Enrolled`), as long as nobody else introduces or removes the member and the engine is neither
closed nor loaded again. Here this is shown of everything that commands do beside that.
-/

namespace Coedit

structure MemberProperties.Filled (p : MemberProperties) : Prop where
  displayName : p.displayName ≠ ""
  color : p.color ≠ ""
  imageRef : p.imageRef ≠ ""

theorem MemberProperties.filled_withDefaults (p : MemberProperties) : p.withDefaults.Filled := by
  have hfill (value : String) {default : String} (hdefault : default ≠ "") :
      (if value = "" then default else value) ≠ "" := by
    split
    · exact hdefault
    · assumption
  exact ⟨hfill p.displayName (by decide), hfill p.color (by decide), hfill p.imageRef (by decide)⟩

/-! ## Operations -/

/-- Neither introduces nor removes the member. -/
def Operation.sparesRecord (m : MemberId) : Operation → Bool
  | .addMember member _ | .removeMember member => member ≠ m
  | _ => true

namespace Replica

variable {m : MemberId}

theorem record_apply_of_spares {op : Operation} (h : op.sparesRecord m = true) (r : Replica) :
    (r.apply op).1.members.get? m = r.members.get? m := by
  have hpresence := congrArg Presence.record (presence_apply r op m)
  by_cases hop : op.member = m
  · rw [if_pos hop] at hpresence
    cases op with
    | addMember member _ | removeMember member =>
        have hother : member ≠ m := by simpa [Operation.sparesRecord] using h
        exact absurd hop hother
    | _ => exact hpresence
  · rw [if_neg hop] at hpresence
    exact hpresence

theorem record_applyBatch_of_spares {batch : Batch} (h : batch.all (·.sparesRecord m) = true)
    (r : Replica) : (r.applyBatch batch).1.members.get? m = r.members.get? m := by
  show (r.applyAll batch).1.members.get? m = _
  induction batch generalizing r with
  | nil => rfl
  | cons op rest ih =>
      obtain ⟨hop, hrest⟩ := Bool.and_eq_true_iff.1 h
      exact (ih hrest _).trans (record_apply_of_spares hop r)

theorem record_applyBatch_addMember (r : Replica) (u : MemberProperties) :
    (r.applyBatch [.addMember m u]).1.members.get? m = some (.ofProperties m u) :=
  Dict.get?_insert_self _ _ _

end Replica

/-- The edits of a session that are not about its member leave all records alone. -/
theorem SessionCore.spares_of_propose {s : SessionCore} {r : Replica} {e : Edit} {p : Proposal}
    (h : s.propose r e = .ok p) (he : ∀ properties, e ≠ .updateMember properties) (m : MemberId) :
    p.batch.all (·.sparesRecord m) = true := by
  cases e with
  | updateMember properties => exact absurd rfl (he properties)
  | moveCursor | updateParagraphStyle | deleteStyle =>
      obtain rfl := Except.ok.inj h
      rfl
  | setParagraphStyle style =>
      obtain rfl := Except.ok.inj h
      simp [proposeRestyle, Operation.sparesRecord]
  | cloneStyle source displayName =>
      obtain ⟨definition, style, -, -, rfl⟩ := proposeClone_spec h
      rfl
  | insertContent content =>
      obtain ⟨cursor, -, -, rfl⟩ := proposeInsert_spec h
      rfl

/-! ## Commands -/

mutual

/-- Commands that leave it to the editor to introduce and to remove the member, to load documents
and to close them, and that make the engine refuse no operation. Other editors are for the same
member. -/
def Command.sparesRecord (m : MemberId) : Command → Bool
  | .engine (.load _) | .engine .close | .session (.edit (.updateMember _)) => false
  | .engine (.enqueue batch) => batch.all (·.sparesRecord m)
  | .engine (.refuse _ operations) => operations.isEmpty
  | .newEditor spec => spec.member = m
  | .watchEngine _ _ actions _ | .watchSession _ _ actions _ | .watchEditor _ _ actions _ =>
    Command.allSpareRecord m actions
  | _ => true

def Command.allSpareRecord (m : MemberId) : List Command → Bool
  | [] => true
  | c :: rest => c.sparesRecord m && Command.allSpareRecord m rest

end

theorem Command.allSpareRecord_iff {m : MemberId} {l : List Command} :
    Command.allSpareRecord m l = true ↔ ∀ c ∈ l, c.sparesRecord m = true := by
  induction l with
  | nil => simp [Command.allSpareRecord]
  | cons c rest ih => simp [Command.allSpareRecord, ih]

namespace Workspace

/-! ## Engines -/

/-- A document is open, and the member's record has these properties when the queue is applied. -/
structure Enrolled (m : MemberId) (u : MemberProperties) (e : Engine EngineListener) : Prop where
  opened : e.phase = .opened
  record : (drained e).replica.members.get? m = some (.ofProperties m u)

section Enrolled

variable {m : MemberId} {u : MemberProperties} {e e' : Engine EngineListener}

theorem Enrolled.congr (h : Enrolled m u e) (hphase : e'.phase = e.phase)
    (hreplica : e'.replica = e.replica) (hpending : e'.pending = e.pending) : Enrolled m u e' where
  opened := hphase.trans h.opened
  record := by
    unfold drained
    rw [hreplica, hpending]
    exact h.record

theorem drained_queued (e : Engine EngineListener) (batch : Batch) :
    (drained (Agenda.queued e batch)).replica = ((drained e).replica.applyBatch batch).1 := by
  simp [drained, Agenda.queued, List.foldl_append]

theorem Enrolled.queued (h : Enrolled m u e) {batch : Batch}
    (hbatch : batch.all (·.sparesRecord m) = true) : Enrolled m u (Agenda.queued e batch) where
  opened := h.opened
  record := by
    rw [drained_queued, Replica.record_applyBatch_of_spares hbatch]
    exact h.record

theorem enrolled_queued (hopened : e.phase = .opened) :
    Enrolled m u (Agenda.queued e [.addMember m u]) where
  opened := hopened
  record := by
    rw [drained_queued]
    exact Replica.record_applyBatch_addMember _ u

theorem phase_applyNext? {events : List EngineEvent} (h : e.applyNext? = some (events, e')) :
    e'.phase = e.phase ∧ (drained e').replica = (drained e).replica := by
  obtain ⟨-, hnone⟩ | ⟨batch, rest, hpending, hsome⟩ := Engine.applyNext?_cases e
  · rw [hnone] at h
    cases h
  · rw [hsome] at h
    obtain ⟨-, rfl⟩ := Prod.mk.inj (Option.some.inj h)
    refine ⟨rfl, ?_⟩
    simp only [drained, hpending, List.foldl_cons]

end Enrolled

/-! ## Workspaces -/

def SessionsNumbered (w : Workspace) : Prop :=
  ∀ id s, w.sessions.get? id = some s → id < w.nextId

/-- The editor is left alone, and so are all records; the sessions stay with their members, and the
engine stays open and as welcoming as it was. -/
structure Harmless (m : MemberId) (w w' : Workspace) : Prop extends Apart w w' where
  operations : w.refusals.operations = [] → w'.refusals.operations = []
  nextId : w.nextId ≤ w'.nextId
  sessionsNumbered : SessionsNumbered w → SessionsNumbered w'
  sessions : ∀ id s, id < w.nextId → w.sessions.get? id = some s →
    ∃ s', w'.sessions.get? id = some s' ∧ s'.core.member = s.core.member
  opened : w.engine.phase = .opened → w'.engine.phase = .opened
  record : ∀ u, Enrolled m u w.engine → Enrolled m u w'.engine

section Harmless

variable {m : MemberId} {w w' w'' : Workspace}

theorem Harmless.refl (w : Workspace) : Harmless m w w :=
  ⟨.refl w, id, Nat.le_refl _, id, fun _ s _ hs => ⟨s, hs, rfl⟩, id, fun _ => id⟩

theorem Harmless.trans (h : Harmless m w w') (h' : Harmless m w' w'') : Harmless m w w'' where
  toApart := h.toApart.trans h'.toApart
  operations := h'.operations ∘ h.operations
  nextId := h.nextId.trans h'.nextId
  sessionsNumbered := h'.sessionsNumbered ∘ h.sessionsNumbered
  sessions := by
    intro id s hid hs
    obtain ⟨s', hs', hmember⟩ := h.sessions id s hid hs
    obtain ⟨s'', hs'', hmember'⟩ := h'.sessions id s' (hid.trans_le h.nextId) hs'
    exact ⟨s'', hs'', hmember'.trans hmember⟩
  opened := h'.opened ∘ h.opened
  record := fun u => h'.record u ∘ h.record u

/-- What touches neither the sessions nor the engine's document and queue. -/
theorem harmless_of_same (hapart : Apart w w') (hrefusals : w'.refusals = w.refusals)
    (hnextId : w'.nextId = w.nextId) (hsessions : w'.sessions = w.sessions)
    (hphase : w'.engine.phase = w.engine.phase)
    (hreplica : w'.engine.replica = w.engine.replica)
    (hpending : w'.engine.pending = w.engine.pending) : Harmless m w w' where
  toApart := hapart
  operations := by
    rw [hrefusals]
    exact id
  nextId := hnextId.ge
  sessionsNumbered := by
    unfold SessionsNumbered
    rw [hsessions, hnextId]
    exact id
  sessions := by
    rw [hsessions]
    exact fun _ s _ hs => ⟨s, hs, rfl⟩
  opened := by
    rw [hphase]
    exact id
  record := fun _ h => h.congr hphase hreplica hpending

theorem harmless_modifySession {id : Nat} {f : Session → Session}
    (hapart : Apart w (w.modifySession id f))
    (hf : ∀ s, w.sessions.get? id = some s → (f s).core.member = s.core.member) :
    Harmless m w (w.modifySession id f) where
  toApart := hapart
  operations := fun h => h
  nextId := Nat.le_refl _
  sessionsNumbered := by
    intro hnumbered other s' hs'
    obtain ⟨s, hs, -⟩ := Dict.modify_cases hs'
    exact hnumbered other s hs
  sessions := by
    intro other s _ hs
    simp only [modifySession, Dict.get?_modify]
    split
    · rename_i hid
      subst hid
      exact ⟨f s, by rw [hs]; rfl, hf s hs⟩
    · exact ⟨s, hs, rfl⟩
  opened := fun h => h
  record := fun _ h => h

theorem harmless_interfaceNote (frontend : Frontend) (note : InterfaceNote) (w : Workspace) :
    Harmless m w (w.interfaceNote frontend note) := by
  have happart := (passing_interfaceNote frontend note w).apart
  cases frontend <;> exact harmless_of_same happart rfl rfl rfl rfl rfl rfl

theorem harmless_unwinding : Unwinding (Harmless m) where
  refl := .refl
  trans := .trans
  note := fun w frontend note => harmless_interfaceNote frontend note w
  unsubscribe := fun w signal id =>
    harmless_of_same (apart_unwinding.unsubscribe w signal id) rfl rfl rfl rfl rfl rfl
  session := fun hbus hmember =>
    harmless_modifySession (apart_unwinding.session hbus hmember) fun s _ => hmember s

theorem Stir.harmless (h : Stir w w') : Harmless m w w' := by
  have happart := h.passing.apart
  cases h with
  | recorded | answered | reporting | informed | managed =>
      exact harmless_of_same happart rfl rfl rfl rfl rfl rfl
  | reacting => exact harmless_modifySession happart fun _ _ => rfl
  | @reacted id s hs reaction =>
      refine harmless_modifySession happart fun s' hs' => ?_
      obtain rfl := Option.some.inj (hs.symm.trans hs')
      exact SessionCore.member_react s.core w.engine.replica reaction
  | applied hnext =>
      obtain ⟨hphase, hreplica⟩ := phase_applyNext? hnext
      exact { Harmless.refl (m := m) w with
        toApart := happart
        opened := hphase.trans
        record := fun _ h => ⟨hphase.trans h.opened, hreplica ▸ h.record⟩ }

/-! ## Sessions -/

theorem harmless_subscribed (signal : EngineSignal) (listener : EngineListener) (w : Workspace) :
    Harmless m w { w with engine := subscribed w.engine signal listener } :=
  harmless_of_same (apart_subscribed signal listener w) rfl rfl rfl rfl rfl rfl

theorem harmless_handling : Handling (Harmless m) where
  toUnwinding := harmless_unwinding
  subscribed := fun w signal listener => harmless_subscribed signal listener w
  installed := fun _ _ => harmless_of_same (apart_of_same rfl rfl rfl rfl) rfl rfl rfl rfl rfl rfl

theorem harmless_next (w : Workspace) {log : List LogEntry} :
    Harmless m w { w with log, nextId := w.nextId + 1 } :=
  { Harmless.refl (m := m) w with
    toApart := apart_of_same rfl rfl rfl rfl
    nextId := Nat.le_succ _
    sessionsNumbered := fun h id s hs => Nat.lt_succ_of_lt (h id s hs) }

/-- A new session has a new number, and belongs to the member for whom it was made. -/
theorem harmless_createSession (spec : SessionSpec) (features : FeatureSet) (w : Workspace) :
    Harmless m w (w.createSession spec features).2 ∧
      ∀ id w', w.createSession spec features = (.ok id, w') →
        ∃ s, w'.sessions.get? id = some s ∧ s.core.member = spec.member := by
  obtain ⟨log, hlog⟩ := interfaceNote_eq spec.frontend (.components spec.member features) w
  unfold createSession
  simp only [hlog]
  cases hs : subscribeSession w.nextId [] relayedSignals { w with log, nextId := w.nextId + 1 } with
  | mk result w' =>
      cases result with
      | error cause =>
          have hmade := (harmless_handling (m := m)).subscribeSession w.nextId [] relayedSignals
            { w with log, nextId := w.nextId + 1 }
          rw [hs] at hmade
          exact ⟨(harmless_next w).trans hmade, fun _ _ h => by cases h⟩
      | ok made =>
          obtain ⟨engine, rfl, -⟩ := subscribeSession_spec hs
          have hmade := (harmless_handling (m := m)).subscribeSession w.nextId [] relayedSignals
            { w with log, nextId := w.nextId + 1 }
          rw [hs] at hmade
          refine ⟨{ (harmless_next w).trans hmade with
            toApart := ((harmless_next (m := m) w).trans hmade).toApart.trans
              (apart_of_same rfl rfl rfl rfl)
            sessionsNumbered := fun hnumbered =>
              Dict.forall_insert (Nat.lt_succ_self _) fun id s hs =>
                Nat.lt_succ_of_lt (hnumbered id s hs)
            sessions := fun id s hid hs => ⟨s, ?_, rfl⟩ }, fun id w' h => ?_⟩
          · rw [Dict.get?_insert, if_neg (Nat.ne_of_lt hid).symm]
            exact hs
          · obtain ⟨hid, rfl⟩ := Prod.mk.inj h
            obtain rfl := Except.ok.inj hid
            exact ⟨_, Dict.get?_insert_self _ _ _, rfl⟩

theorem harmless_createUndoManager (w : Workspace) : Harmless m w w.createUndoManager.2 :=
  { Harmless.refl (m := m) w with
    toApart := apart_of_same rfl rfl rfl rfl
    nextId := Nat.le_succ _
    sessionsNumbered := fun h id s hs => Nat.lt_succ_of_lt (h id s hs) }

/-! ## Queueing -/

theorem harmless_queued {batch : Batch} (hbatch : batch.all (·.sparesRecord m) = true)
    (w : Workspace) : Harmless m w { w with engine := Agenda.queued w.engine batch } :=
  { Harmless.refl (m := m) w with
    toApart := Passing.apart (passing_engine rfl)
    record := fun _ h => h.queued hbatch }

theorem harmless_changeReservation (id : Nat) (p : Proposal)
    (change : SessionCore → StyleId → SessionCore)
    (hchange : ∀ core style, (change core style).member = core.member) (w : Workspace) :
    Harmless m w (w.changeReservation id p change) := by
  unfold changeReservation
  split
  · exact harmless_unwinding.holding (fun _ => by rfl) fun s => hchange s.core _
  · exact .refl w

theorem member_reserve (core : SessionCore) (style : StyleId) :
    (core.reserve style).member = core.member := by
  unfold SessionCore.reserve
  split <;> rfl

theorem harmless_queueEdit {e : Edit} (he : ∀ properties, e ≠ .updateMember properties) (id : Nat)
    (w : Workspace) : Harmless m w (w.queueEdit id e).2 := by
  unfold queueEdit
  cases w.sessions.get? id with
  | none => exact .refl w
  | some s =>
      simp only
      cases hproposed : s.core.propose w.engine.replica e with
      | error cause => exact .refl w
      | ok p =>
          have hreserve := harmless_changeReservation (m := m) id p .reserve member_reserve w
          simp only
          split
          · exact .refl w
          · cases ht : (w.changeReservation id p .reserve).takeFrom p.batch with
            | error cause =>
                exact hreserve.trans
                  (harmless_changeReservation id p .release (fun _ _ => rfl) _)
            | ok w' =>
                obtain rfl := takeFrom_eq ht
                exact hreserve.trans
                  (harmless_queued (SessionCore.spares_of_propose hproposed he m) _)

end Harmless

end Workspace

end Coedit
