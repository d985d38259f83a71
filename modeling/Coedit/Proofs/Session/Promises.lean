import Coedit.Proofs.Session.Creation
import Coedit.Proofs.Session.Following
import Coedit.Proofs.Session.Occasions
import Coedit.Proofs.Session.Outcome
import Coedit.Proofs.Session.Position

/-!
# Promised styles

A session that clones a style answers its identifier at once, while the style is created only when
its batch is applied. Until then the identifier is reserved. As long as observers only listen, a
queue is applied as a whole, so that between calls the reservations are the identifiers promised in
the batches that wait, and no others.
-/

namespace Coedit

/-- A style whose identifier was answered, and the number of its batch among all that were ever
submitted. -/
structure Promise where
  style : StyleId
  batch : Nat
  deriving DecidableEq

namespace Promise

/-- Whether the batch is still in the queue, which holds the latest of the batches submitted. -/
def waits (e : Engine EngineListener) (p : Promise) : Bool :=
  e.submitted.length ≤ p.batch + e.pending.length

def place (e : Engine EngineListener) (p : Promise) : Nat :=
  p.batch + e.pending.length - e.submitted.length

theorem waits_queued (e : Engine EngineListener) (batch : Batch) (p : Promise) :
    p.waits (Agenda.queued e batch) = p.waits e := by
  unfold waits Agenda.queued
  simp only [List.length_append, List.length_singleton, decide_eq_decide]
  omega

theorem place_queued (e : Engine EngineListener) (batch : Batch) (p : Promise) :
    p.place (Agenda.queued e batch) = p.place e := by
  unfold place Agenda.queued
  simp only [List.length_append, List.length_singleton]
  omega

end Promise

namespace SessionCore

/-! ## Hearing of new styles -/

variable {s : SessionCore} {style : StyleId}

theorem mem_reserved_reactions {r : Replica} {reactions : List Reaction}
    (h : style ∈ (reactions.foldl (fun s reaction => (s.react r reaction).1) s).reserved) :
    style ∈ s.reserved ∧ .release style ∉ reactions := by
  induction reactions generalizing s with
  | nil => exact ⟨h, List.not_mem_nil⟩
  | cons reaction rest ih =>
      obtain ⟨hfirst, hrest⟩ := ih h
      rw [Workspace.reserved_react] at hfirst
      cases reaction with
      | release other =>
          simp only [List.mem_filter, decide_eq_true_eq] at hfirst
          simp [hfirst.1, hfirst.2, hrest]
      | _ => simp [hfirst, hrest]

/-- A session that hears of a new style gives up its reservation. -/
theorem mem_reserved_hear {r : Replica} {event : EngineEvent}
    (h : style ∈ (s.hear r event).reserved) :
    style ∈ s.reserved ∧ event ≠ .styleCreated style := by
  obtain ⟨hmem, hrelease⟩ := mem_reserved_reactions h
  refine ⟨hmem, ?_⟩
  rintro rfl
  exact hrelease (by simp [reactions])

theorem mem_reserved_hearAll {r : Replica} {events : List EngineEvent}
    (h : style ∈ (events.foldl (hear r) s).reserved) :
    style ∈ s.reserved ∧ .styleCreated style ∉ events := by
  induction events generalizing s with
  | nil => exact ⟨h, List.not_mem_nil⟩
  | cons event rest ih =>
      obtain ⟨hfirst, hrest⟩ := ih h
      obtain ⟨hmem, hne⟩ := mem_reserved_hear hfirst
      exact ⟨hmem, by simp [hrest, hne.symm]⟩

/-- What is still reserved after some batches was not created by any of them. -/
theorem mem_reserved_follow {heard : List EngineEvent → List EngineEvent} {r : Replica}
    {batches : List Batch} (h : style ∈ (batches.foldl (follow heard) (s, r)).1.reserved) :
    style ∈ s.reserved ∧
      ∀ member family definition, [.addStyle member style family definition] ∈ batches →
        .styleCreated style ∉ heard [.styleCreated style, .undoStackChanged] := by
  induction batches generalizing s r with
  | nil => exact ⟨h, fun _ _ _ hmem => (List.not_mem_nil hmem).elim⟩
  | cons batch rest ih =>
      obtain ⟨hfirst, hrest⟩ := ih h
      obtain ⟨hmem, hheard⟩ := mem_reserved_hearAll hfirst
      refine ⟨hmem, fun member family definition hbatch => ?_⟩
      rcases List.mem_cons.1 hbatch with rfl | hbatch
      · exact hheard
      · exact hrest member family definition hbatch

theorem member_follow (heard : List EngineEvent → List EngineEvent) (s : SessionCore) (r : Replica)
    (batches : List Batch) : (batches.foldl (follow heard) (s, r)).1.member = s.member := by
  induction batches generalizing s r with
  | nil => rfl
  | cons batch rest ih => exact (ih _ _).trans (member_hearAll _ s _)

end SessionCore

namespace Workspace

theorem mem_heardBy {bus : SignalBus EngineSignal EngineListener} {id : Nat}
    {events : List EngineEvent} {event : EngineEvent} :
    event ∈ heardBy bus id events ↔
      event ∈ events ∧ .session id ∈ bus.handlers event.signal := by
  simp only [heardBy, List.mem_flatMap, List.mem_map, List.mem_filter, decide_eq_true_eq]
  constructor
  · rintro ⟨found, hmem, -, ⟨hlistener, rfl⟩, rfl⟩
    exact ⟨hmem, hlistener⟩
  · rintro ⟨hmem, hlistener⟩
    exact ⟨event, hmem, .session id, ⟨hlistener, rfl⟩, rfl⟩

/-! ## Promises -/

/-- What is promised on an occasion, if a session clones a style. -/
def promise? (w : Workspace) (id : Nat) : Occasion → Option Promise
  | .edit session e =>
    match (w.edit conduct session e).1 with
    | .ok (.created style) =>
      if session = id then some { style, batch := w.engine.submitted.length } else none
    | _ => none
  | .turn _ => none

/-- All that a session promises in a run. -/
def promises (id : Nat) : Workspace → List Occasion → List Promise
  | _, [] => []
  | w, o :: rest => (w.promise? id o).toList ++ promises id (o.run w) rest

def waiting (w : Workspace) (made : List Promise) : List Promise :=
  made.filter (·.waits w.engine)

/-- What a session has promised accounts for what it has reserved. -/
structure Accounted (id : Nat) (member : MemberId) (made : List Promise) (w : Workspace) :
    Prop where
  quiet : w.Quiet
  hears : .session id ∈ w.engine.bus.handlers .styleCreated
  reserved : ∃ core, Knows id core w ∧ core.member = member ∧
    core.reserved = ((w.waiting made).map (·.style)).reverse
  past : ∀ p ∈ made, p.batch < w.engine.submitted.length
  queued : ∀ p ∈ w.waiting made, ∃ definition,
    w.engine.pending[p.place w.engine]? = some [.addStyle member p.style .paragraph definition]
  distinct : ((w.waiting made).map (·.style)).Nodup
  absent : ∀ p ∈ w.waiting made, w.engine.document.styles.contains p.style = false

variable {id : Nat} {member : MemberId} {made : List Promise} {w : Workspace}

theorem Accounted.reservedStyles_eq (h : Accounted id member made w) :
    w.reservedStyles id = ((w.waiting made).map (·.style)).reverse := by
  obtain ⟨core, ⟨s, hs, -, rfl⟩, -, hreserved⟩ := h.reserved
  rw [reservedStyles_of_get? hs, hreserved]

theorem waiting_of_drained (h : ∀ p ∈ made, p.batch < w.engine.submitted.length)
    (hempty : w.engine.pending = []) : w.waiting made = [] := by
  refine List.filter_eq_nil_iff.2 fun p hp => ?_
  have hpast := h p hp
  unfold Promise.waits
  rw [hempty, List.length_nil, decide_eq_true_eq]
  omega

theorem waiting_queued (batch : Batch) (sessions : Dict Nat Session) :
    waiting { w with sessions, engine := Agenda.queued w.engine batch } made = w.waiting made := by
  unfold waiting
  simp only [Promise.waits_queued]

/-- Flushing keeps every promise that waits. -/
theorem Accounted.flush (h : Accounted id member made w) :
    Accounted id member made (w.flush conduct) := by
  have hengine := engine_flush h.quiet
  have hpast : ∀ p ∈ made, p.batch < (w.flush conduct).engine.submitted.length := by
    rw [hengine]
    exact h.past
  have hnone : (w.flush conduct).waiting made = [] :=
    waiting_of_drained hpast (by rw [hengine]; rfl)
  obtain ⟨core, hknows, hmember, hreserved⟩ := h.reserved
  have hknows' := knows_flush h.quiet hknows
  have hreleased : (w.engine.pending.foldl (SessionCore.follow (heardBy w.engine.bus id))
      (core, w.engine.replica)).1.reserved = [] := by
    refine List.eq_nil_iff_forall_not_mem.2 fun style hstyle => ?_
    obtain ⟨hmem, hunheard⟩ := SessionCore.mem_reserved_follow hstyle
    rw [hreserved, List.mem_reverse] at hmem
    obtain ⟨p, hp, rfl⟩ := List.mem_map.1 hmem
    obtain ⟨definition, hqueued⟩ := h.queued p hp
    exact hunheard member .paragraph definition (List.mem_of_getElem? hqueued)
      (mem_heardBy.2 ⟨List.mem_cons_self, h.hears⟩)
  refine ⟨(heard_flush h.quiet).quiet, ?_, ⟨_, hknows', ?_, ?_⟩, hpast, ?_, ?_, ?_⟩
  · rw [hengine]
    exact h.hears
  · exact (SessionCore.member_follow _ core _ _).trans hmember
  · rw [hreleased, hnone]
    rfl
  · rw [hnone]
    exact nofun
  · rw [hnone]
    exact List.nodup_nil
  · rw [hnone]
    exact nofun

/-- A batch that is not the session's promise leaves the promises as they are. -/
theorem Accounted.queued_other (h : Accounted id member made w) (sessions : Dict Nat Session)
    (hsessions : sessions.get? id = w.sessions.get? id) (batch : Batch) :
    Accounted id member made { w with sessions, engine := Agenda.queued w.engine batch } where
  quiet := h.quiet
  hears := h.hears
  reserved := by
    obtain ⟨core, ⟨s, hs, hattached, hcore⟩, hmember, hreserved⟩ := h.reserved
    rw [waiting_queued]
    exact ⟨core, ⟨s, hsessions.trans hs, hattached, hcore⟩, hmember, hreserved⟩
  past := by
    intro p hp
    have hpast := h.past p hp
    simp only [Agenda.queued, List.length_append]
    omega
  queued := by
    intro p hp
    rw [waiting_queued] at hp
    obtain ⟨definition, hqueued⟩ := h.queued p hp
    refine ⟨definition, ?_⟩
    rw [Promise.place_queued]
    exact (List.getElem?_append_left (List.getElem?_eq_some_iff.1 hqueued).1).trans hqueued
  distinct := by
    rw [waiting_queued]
    exact h.distinct
  absent := by
    intro p hp
    rw [waiting_queued] at hp
    exact h.absent p hp

/-- The promise that an accepted clone makes waits behind all others. -/
theorem waiting_promised (w : Workspace) (id : Nat) (made : List Promise) (style : StyleId)
    (p : Proposal) :
    (w.promised id p).waiting (made ++ [{ style, batch := w.engine.submitted.length }]) =
      w.waiting made ++ [{ style, batch := w.engine.submitted.length }] := by
  have hnew : Promise.waits w.engine { style, batch := w.engine.submitted.length } = true := by
    simp [Promise.waits]
  unfold waiting promised
  simp only [Promise.waits_queued, List.filter_append, List.filter_singleton, hnew, cond_true]

theorem Accounted.promised (h : Accounted id member made w) {s : Session} {style : StyleId}
    {p : Proposal} (hs : w.sessions.get? id = some s)
    (hadds : s.core.Adds w.engine.replica style p) :
    Accounted id member (made ++ [{ style, batch := w.engine.submitted.length }])
      (w.promised id p) := by
  obtain ⟨core, ⟨s', hs', hattached, rfl⟩, hmember, hreserved⟩ := h.reserved
  obtain rfl : s = s' := Option.some.inj (hs.symm.trans hs')
  obtain ⟨definition, hbatch⟩ := hadds.batch
  have hnew : (w.promised id p).sessions.get? id =
      some { s with core := s.core.reserve style } := by
    have hchanged := get?_changeReservation hs p .reserve
    rw [hadds.reserve] at hchanged
    exact hchanged
  have hunpromised : style ∉ (w.waiting made).map (·.style) := by
    have hunreserved := hadds.unreserved
    rw [hreserved, List.mem_reverse] at hunreserved
    exact hunreserved
  have hold := h.queued_other w.sessions rfl p.batch
  have hwaiting := waiting_promised w id made style p
  refine ⟨quiet_promised h.quiet id p, h.hears, ⟨_, ⟨_, hnew, hattached, rfl⟩, ?_, ?_⟩, ?_, ?_, ?_,
    ?_⟩
  · exact (alike_reserve s.core style).member.trans hmember
  · rw [hwaiting]
    unfold SessionCore.reserve
    rw [if_neg hadds.unreserved, hreserved]
    simp
  · intro other hother
    rcases List.mem_append.1 hother with hother | hother
    · exact hold.past other hother
    · rw [List.mem_singleton.1 hother]
      simp [Workspace.promised, Agenda.queued]
  · intro other hother
    rw [hwaiting] at hother
    rcases List.mem_append.1 hother with hother | hother
    · exact hold.queued other (by rwa [waiting_queued])
    · rw [List.mem_singleton.1 hother]
      have hplace : Promise.place w.engine { style, batch := w.engine.submitted.length } =
          w.engine.pending.length := Nat.add_sub_cancel_left _ _
      refine ⟨definition, ?_⟩
      rw [← hmember, ← hbatch]
      show (w.engine.pending ++ [p.batch])[Promise.place (Agenda.queued w.engine p.batch) _]? = _
      rw [Promise.place_queued, hplace, List.getElem?_concat_length]
  · rw [hwaiting, List.map_append, List.map_singleton]
    exact List.nodup_append.2 ⟨h.distinct, by simp, by simpa using hunpromised⟩
  · intro other hother
    rw [hwaiting] at hother
    rcases List.mem_append.1 hother with hother | hother
    · exact h.absent other hother
    · rw [List.mem_singleton.1 hother]
      exact hadds.absent

/-! ## Runs -/

theorem Accounted.followUp (h : Accounted id member made w) :
    Accounted id member made (w.followUp conduct) := by
  unfold Workspace.followUp
  split
  · exact h.flush
  · exact h

theorem Accounted.turn (h : Accounted id member made w) (t : Turn) :
    Accounted id member made (w.execute t.command).2 := by
  rw [execute_turn]
  cases t with
  | enqueue batch =>
      simp only [enqueue]
      cases ht : w.take batch with
      | error cause => exact h
      | ok w' =>
          obtain ⟨-, rfl⟩ := Agenda.engine_take ht
          exact (h.queued_other w.sessions rfl batch).followUp
  | flush => exact h.flush
  | immediate on => exact ⟨h.quiet, h.hears, h.reserved, h.past, h.queued, h.distinct, h.absent⟩

/-- Another session that reserves a style does not concern this one. -/
theorem Accounted.promised_other (h : Accounted id member made w) (session : Nat) {p : Proposal}
    (hother : session ≠ id ∨ p.reserve = none) :
    Accounted id member made (w.promised session p) := by
  have hsessions : (w.changeReservation session p .reserve).sessions.get? id =
      w.sessions.get? id := by
    unfold changeReservation
    cases hreserve : p.reserve with
    | none => rfl
    | some style =>
        have hne : session ≠ id := hother.resolve_right (by simp [hreserve])
        simp [modifySession, Dict.get?_modify, hne]
  obtain ⟨sessions, heq⟩ := changeReservation_eq session p .reserve w
  unfold Workspace.promised
  rw [heq] at hsessions ⊢
  exact h.queued_other sessions hsessions p.batch

theorem Accounted.edit (h : Accounted id member made w) (session : Nat) (e : Edit) :
    Accounted id member (made ++ (w.promise? id (.edit session e)).toList)
      (w.edit conduct session e).2 := by
  cases hs : w.sessions.get? session with
  | none => simpa [promise?, Workspace.edit, queueEdit, hs] using h
  | some s =>
      have hedited := edited_edit hs e
      cases hmade : w.edit conduct session e with
      | mk result w' =>
          rw [hmade] at hedited
          simp only [promise?, hmade]
          cases hedited with
          | refused cause => simpa using h
          | idle style hstyle => simpa using h
          | accepted p hp hbatch =>
              rcases SessionCore.propose_cases hp with ⟨-, -, -, style, hadds⟩ | hnone
              · simp only [hadds.answer]
                by_cases hid : session = id
                · subst hid
                  rw [if_pos rfl]
                  exact (h.promised hs hadds).followUp
                · rw [if_neg hid, Option.toList_none, List.append_nil]
                  exact (h.promised_other session (.inl hid)).followUp
              · have hkept := (h.promised_other session (.inr hnone.reserve)).followUp
                have hanswer := hnone.answer
                cases hdone : p.answer with
                | created style => exact (hanswer style hdone).elim
                | done | restyled => simpa using hkept

theorem Accounted.live (h : Accounted id member made w) (run : List Occasion) :
    Accounted id member (made ++ promises id w run) (w.live run) := by
  induction run generalizing made w with
  | nil => simpa [promises, Workspace.live] using h
  | cons o rest ih =>
      have hfirst : Accounted id member (made ++ (w.promise? id o).toList) (o.run w) := by
        cases o with
        | edit session e => exact h.edit session e
        | turn t => simpa [promise?, Occasion.run] using h.turn t
      have hrest := ih hfirst
      rw [List.append_assoc] at hrest
      exact hrest

/-- A new session has promised nothing. -/
theorem accounted_createSession {w₀ : Workspace} {spec : SessionSpec} {features : FeatureSet}
    (hquiet : w₀.Quiet) (hcreate : w₀.createSession spec features = (.ok id, w)) :
    Accounted id spec.member [] w := by
  obtain ⟨engine, made, log, rfl, rfl, hsubscribed⟩ := createSession_spec hcreate
  refine ⟨hquiet, hsubscribed.hears _ (by decide), ⟨_, ⟨_, Dict.get?_insert_self _ _ _, rfl, rfl⟩,
    rfl, rfl⟩, ?_, ?_, List.nodup_nil, ?_⟩
  all_goals exact nofun

/-- Whatever is edited, submitted and flushed after a session was created, its reservations are the
styles it promised in batches that wait in the queue, each in one batch only. None of them is in the
document, and none is left after a flush. -/
theorem reservations_exact {w₀ : Workspace} {spec : SessionSpec} {features : FeatureSet}
    (hquiet : w₀.Quiet) (hcreate : w₀.createSession spec features = (.ok id, w))
    (run : List Occasion) :
    let w' := w.live run
    let waiting := (promises id w run).filter (·.waits w'.engine)
    (∀ style, style ∈ w'.reservedStyles id ↔ ∃ p ∈ waiting, p.style = style) ∧
      (waiting.map (·.style)).Nodup ∧
      (∀ p ∈ waiting, ∃ definition, w'.engine.pending[p.place w'.engine]? =
        some [.addStyle spec.member p.style .paragraph definition]) ∧
      (∀ style ∈ w'.reservedStyles id, w'.engine.document.styles.contains style = false) ∧
      (w'.execute (.engine .flush)).2.reservedStyles id = [] := by
  intro w' waiting
  have haccounted : Accounted id spec.member (promises id w run) w' :=
    (accounted_createSession hquiet hcreate).live run
  have hmem (style : StyleId) :
      style ∈ w'.reservedStyles id ↔ ∃ p ∈ waiting, p.style = style := by
    rw [haccounted.reservedStyles_eq, List.mem_reverse]
    exact List.mem_map
  refine ⟨hmem, haccounted.distinct, haccounted.queued, fun style hstyle => ?_, ?_⟩
  · obtain ⟨p, hp, rfl⟩ := (hmem style).1 hstyle
    exact haccounted.absent p hp
  · have hflushed := haccounted.turn .flush
    have hnone := waiting_of_drained hflushed.past (by
      rw [execute_turn]
      exact congrArg Engine.pending (engine_flush haccounted.quiet))
    have hreserved := hflushed.reservedStyles_eq
    rw [hnone] at hreserved
    exact hreserved

/-- `Body` is cloned; its clone is created, and the deletion of it queued by somebody else, when
`Body` is cloned under the same name again. -/
def clonedTwice : List Occasion :=
  [.edit 0 (.cloneStyle ⟨"Body"⟩ "My"), .turn .flush,
    .turn (.enqueue [.removeStyle ⟨"n"⟩ ⟨"My_m"⟩ .paragraph]),
    .edit 0 (.cloneStyle ⟨"Body"⟩ "My")]

theorem second_clone_reserved :
    let w := withBody.live clonedTwice
    (∀ style, style ∈ w.reservedStyles 0 ↔ style = ⟨"My_0_m"⟩) ∧
      (w.execute (.engine .flush)).2.reservedStyles 0 = [] := by
  have hquiet : bodyOnly.Quiet := fun _ _ h => by cases h
  have hcreate : bodyOnly.createSession { member := ⟨"m"⟩ } .all = (.ok 0, withBody) :=
    Prod.ext rfl rfl
  have hwaiting : (promises 0 withBody clonedTwice).filter
      (·.waits (withBody.live clonedTwice).engine) = [{ style := ⟨"My_0_m"⟩, batch := 2 }] := by
    decide +kernel
  obtain ⟨hmem, -, -, -, hflushed⟩ := reservations_exact hquiet hcreate clonedTwice
  rw [hwaiting] at hmem
  refine ⟨fun style => (hmem style).trans ?_, hflushed⟩
  simp [eq_comm]

end Workspace

end Coedit
