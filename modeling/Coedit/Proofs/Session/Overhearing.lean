import Coedit.Proofs.Session.Occasions
import Coedit.Proofs.Session.Relay
import Coedit.Proofs.Workspace.Chronicle
import Coedit.Proofs.Workspace.Numbers

/-!
# Listening to a session

A listener that is subscribed to every signal of a session notes all that the session says, and
from the notes of such a listener and of one that listens to the engine it can be told how the one
makes the other: the session repeats what happens, in order, and adds nothing but news of styles.
-/

namespace Coedit

/-- The session events that were noted under a label. -/
def Selection.saidAs (label : String) : Selection SessionEvent := fun other event =>
  match event with
  | .session event => if other = label then some event else none
  | _ => none

namespace Workspace

open Selection (saidAs)

variable {label : String} {id : Nat} {core : SessionCore} {w w' : Workspace}

def overheard (label : String) (w : Workspace) (id : Nat) (event : SessionEvent) :
    List SessionEvent :=
  match w.sessions.get? id with
  | none => []
  | some s => w.notices (saidAs label) (.session event) (s.bus.handlers event.signal)

structure Overhears (label : String) (id : Nat) (w : Workspace) : Prop where
  own : ∀ event, w.overheard label id event = [event]
  others : ∀ other, other ≠ id → ∀ event, w.overheard label other event = []

/-- What is noted of sessions depends on their subscribers and on the labels of these. -/
theorem overheard_congr (hbuses : ∀ id, (w'.sessions.get? id).map (·.bus) =
      (w.sessions.get? id).map (·.bus))
    (hlabels : ∀ id, (w'.observers.get? id).map (·.label) = (w.observers.get? id).map (·.label)) :
    w'.overheard label = w.overheard label := by
  funext id event
  have hbus := hbuses id
  unfold overheard notices
  simp only [hlabels]
  cases hs : w.sessions.get? id with
  | none =>
      rw [hs, Option.map_none, Option.map_eq_none_iff] at hbus
      rw [hbus]
  | some s =>
      rw [hs, Option.map_some] at hbus
      obtain ⟨s', hs', hsame⟩ := Option.map_eq_some_iff.1 hbus
      rw [hs']
      simp only [hsame]

theorem Overhears.congr (h : Overhears label id w)
    (hsame : w'.overheard label = w.overheard label) : Overhears label id w' :=
  ⟨by rw [hsame]; exact h.own, by rw [hsame]; exact h.others⟩

theorem Heard.buses (h : Heard w w') (id : Nat) :
    (w'.sessions.get? id).map (·.bus) = (w.sessions.get? id).map (·.bus) := by
  obtain ⟨observers, log, undoManagers, sessions, rfl, -, hsame, -⟩ := h
  have hbus := congrArg (Option.map Session.bus) (hsame id)
  rw [Option.map_map, Option.map_map] at hbus
  exact hbus

theorem Overhears.heard {news : List SessionEvent} (h : Overhears label id w) (hheard : Heard w w')
    (hadds : Adds (saidAs label) news w w') : Overhears label id w' :=
  h.congr (overheard_congr hheard.buses hadds.labels)

/-! ## One reaction -/

theorem adds_announcement (act : Conduct) (id : Nat) (event : SessionEvent) (h : w.Quiet) :
    Adds (saidAs label) (w.overheard label id event) w (w.announce act id event) := by
  unfold announce overheard
  cases w.sessions.get? id with
  | none => exact Adds.refl h
  | some s => exact adds_deliver act (.session event) (s.bus.handlers event.signal) h

/-- A reaction is noted as whatever it announces is noted. -/
theorem adds_reaction (act : Conduct) (reaction : Reaction) (h : w.Quiet) {s : Session}
    (hs : w.sessions.get? id = some s) :
    Adds (saidAs label)
      ((s.core.react w.engine.replica reaction).2.toList.flatMap (w.overheard label id)) w
      (w.reactOnce act id reaction) := by
  let w' := w.modifySession id fun old =>
    { old with core := (s.core.react w.engine.replica reaction).1 }
  have hcore : Adds (saidAs label) [] w w' := adds_of_unnoted h rfl rfl
  have hsame : w'.overheard label = w.overheard label :=
    overheard_congr (buses_modifySession fun _ => rfl) hcore.labels
  unfold reactOnce
  rw [hs]
  simp only
  cases (s.core.react w.engine.replica reaction).2 with
  | none => exact hcore
  | some event =>
      have hannounced : Adds (saidAs label) (w'.overheard label id event) w' _ :=
        adds_announcement act id event h
      rw [hsame] at hannounced
      simpa using hcore.then hannounced

theorem get?_reactOnce (act : Conduct) (reaction : Reaction) (h : w.Quiet) {s : Session}
    (hs : w.sessions.get? id = some s) :
    (w.reactOnce act id reaction).sessions.get? id =
      some { s with core := (s.core.react w.engine.replica reaction).1 } := by
  have hchanged : (w.modifySession id fun old =>
      { old with core := (s.core.react w.engine.replica reaction).1 }).sessions.get? id =
        some { s with core := (s.core.react w.engine.replica reaction).1 } := by
    simp [modifySession, Dict.get?_modify, hs]
  unfold reactOnce
  rw [hs]
  simp only
  cases (s.core.react w.engine.replica reaction).2 with
  | none => exact hchanged
  | some event =>
      obtain ⟨observers, log, undoManagers, heq, -⟩ := told_announce act id event
        (show Quiet (w.modifySession id fun old =>
          { old with core := (s.core.react w.engine.replica reaction).1 }) from h)
      simp only [heq]
      exact hchanged

theorem adds_reactions (act : Conduct) (reactions : List Reaction) (h : w.Quiet) {s : Session}
    (hs : w.sessions.get? id = some s) :
    Adds (saidAs label)
      ((SessionCore.sayAll w.engine.replica reactions s.core).flatMap (w.overheard label id)) w
      (reactions.foldl (reactOnce act id) w) := by
  induction reactions generalizing w s with
  | nil => exact Adds.refl h
  | cons reaction rest ih =>
      have hfirst : Adds (saidAs label) _ w _ := adds_reaction act reaction h hs
      have hheard := heard_reactOnce act id reaction h
      have hrest := ih hheard.quiet (get?_reactOnce act reaction h hs)
      rw [overheard_congr hheard.buses hfirst.labels, hheard.engine] at hrest
      rw [SessionCore.sayAll, List.flatMap_append]
      exact hfirst.trans hrest

/-- What a session says of an event that reaches it is noted as it says it. -/
theorem adds_sessionHears_of_reached (act : Conduct) (event : EngineEvent) (h : w.Quiet)
    {s : Session} (hs : w.sessions.get? id = some s)
    (hreached : (s.attached || decide (0 < s.reacting)) = true) :
    Adds (saidAs label) ((s.core.say w.engine.replica event).flatMap (w.overheard label id)) w
      (w.sessionHears act event id) := by
  have hbegin : Adds (saidAs label) [] w (w.modifySession id fun s =>
      { s with reacting := s.reacting + 1 }) := adds_of_unnoted h rfl rfl
  have hheard : Heard w (w.modifySession id fun s => { s with reacting := s.reacting + 1 }) :=
    heard_modifySession h fun s _ => rfl
  have hs' : (w.modifySession id fun s => { s with reacting := s.reacting + 1 }).sessions.get? id =
      some { s with reacting := s.reacting + 1 } := by
    simp [modifySession, Dict.get?_modify, hs]
  have hreact : Adds (saidAs label) _ _ _ :=
    adds_reactions act (s.core.reactions w.engine.replica event) hheard.quiet hs'
  rw [overheard_congr hheard.buses hbegin.labels] at hreact
  have hall := hbegin.then hreact
  unfold sessionHears
  rw [hs]
  simp only [hreached, if_true]
  exact ⟨hall.quiet, hall.labels, hall.noted⟩

theorem Overhears.flatMap_own (h : Overhears label id w) (said : List SessionEvent) :
    said.flatMap (w.overheard label id) = said := by
  rw [funext h.own]
  exact List.flatMap_singleton' said

theorem Overhears.flatMap_other (h : Overhears label id w) {other : Nat} (hid : other ≠ id)
    (said : List SessionEvent) : said.flatMap (w.overheard label other) = [] :=
  List.flatMap_eq_nil_iff.2 fun event _ => h.others other hid event

theorem adds_sessionHears_own (act : Conduct) (event : EngineEvent) (h : w.Quiet)
    (ho : Overhears label id w) (hk : Knows id core w) :
    Adds (saidAs label) (core.say w.engine.replica event) w (w.sessionHears act event id) := by
  obtain ⟨s, hs, hattached, rfl⟩ := hk
  have hsaid : Adds (saidAs label) _ w _ :=
    adds_sessionHears_of_reached act event h hs (by rw [hattached, Bool.true_or])
  rw [ho.flatMap_own] at hsaid
  exact hsaid

theorem adds_sessionHears_of_ne (act : Conduct) (event : EngineEvent) {other : Nat} (h : w.Quiet)
    (ho : Overhears label id w) (hid : other ≠ id) :
    Adds (saidAs label) [] w (w.sessionHears act event other) := by
  cases hs : w.sessions.get? other with
  | none =>
      unfold sessionHears
      rw [hs]
      exact Adds.refl h
  | some s =>
      by_cases hreached : (s.attached || decide (0 < s.reacting)) = true
      · have hsaid : Adds (saidAs label) _ w _ :=
          adds_sessionHears_of_reached act event h hs hreached
        rw [ho.flatMap_other hid] at hsaid
        exact hsaid
      · unfold sessionHears
        rw [hs]
        simp only [hreached]
        exact Adds.refl h

/-! ## Events, batches and flushes -/

theorem adds_hear_of_ne (act : Conduct) (event : EngineEvent) {listener : EngineListener}
    (h : w.Quiet) (ho : Overhears label id w) (hid : listener ≠ .session id) :
    Adds (saidAs label) [] w (w.hear act event listener) := by
  cases listener with
  | session other =>
      have hne : other ≠ id := by
        rintro rfl
        exact hid rfl
      exact adds_sessionHears_of_ne act event h ho hne
  | undoManager other => exact adds_inform act other (fun _ _ => rfl) h
  | metadataRelay editor =>
      cases event with
      | metadataChanged set removed => exact adds_report act editor (fun _ => rfl) h
      | _ => exact Adds.refl h
  | observer other =>
      have hnoted : Adds (saidAs label) _ w _ := adds_notify act (.engine event) other h
      rw [notices_of_ignored fun _ => rfl] at hnoted
      exact hnoted

/-- What a session says of an event for each of its subscriptions is noted. -/
theorem adds_listeners (act : Conduct) (event : EngineEvent) (listeners : List EngineListener)
    (h : w.Quiet) (ho : Overhears label id w) (hk : Knows id core w) :
    Adds (saidAs label) ((core.deliveries w.engine.replica
        ((listeners.filter (· = .session id)).map fun _ => event)).flatMap (·.said)) w
      (listeners.foldl (fun w listener => w.hear act event listener) w) := by
  induction listeners generalizing core w with
  | nil => exact Adds.refl h
  | cons listener rest ih =>
      have hheard := heard_hear act event listener h
      by_cases hid : listener = .session id
      · subst hid
        have hfirst := adds_sessionHears_own act event h ho hk
        have hrest := ih hheard.quiet (ho.heard hheard hfirst) (knows_sessionHears act event h hk)
        rw [hheard.engine] at hrest
        have hall := hfirst.trans hrest
        simpa [SessionCore.deliveries, Delivery.said] using hall
      · have hfirst := adds_hear_of_ne act event h ho hid
        have hrest := ih hheard.quiet (ho.heard hheard hfirst)
          (knows_hear_of_ne hid act event h hk)
        rw [hheard.engine] at hrest
        simpa [hid] using hfirst.then hrest

theorem adds_publishedAll (act : Conduct) (events : List EngineEvent) (h : w.Quiet)
    (ho : Overhears label id w) (hk : Knows id core w) :
    Adds (saidAs label)
      ((core.deliveries w.engine.replica (heardBy w.engine.bus id events)).flatMap (·.said)) w
      (events.foldl (publish act) w) := by
  induction events generalizing core w with
  | nil => exact Adds.refl h
  | cons event rest ih =>
      have hheard := heard_publish act event h
      have hfirst := adds_listeners act event (w.engine.bus.handlers event.signal) h ho hk
      have hknows := knows_listeners act event (w.engine.bus.handlers event.signal) h hk
      have hrest := ih hheard.quiet (ho.heard hheard hfirst) hknows
      rw [hheard.engine] at hrest
      unfold heardBy at hrest ⊢
      rw [List.flatMap_cons, SessionCore.deliveries_append, List.flatMap_append]
      exact hfirst.trans hrest

/-- What a session says during a flush is what it says of the deliveries of the queued batches. -/
theorem adds_flushed (h : w.Quiet) (ho : Overhears label id w) (hk : Knows id core w) :
    Adds (saidAs label) ((SessionCore.relays (heardBy w.engine.bus id) (core, w.engine.replica)
        w.engine.pending).flatMap (·.said)) w (w.flush conduct) := by
  generalize hb : w.engine.pending = batches
  induction batches generalizing core w with
  | nil =>
      rw [flush_of_nil hb]
      exact Adds.refl h
  | cons batch rest ih =>
      let w₁ := w.withApplied batch rest
      have hquiet₁ : w₁.Quiet := h
      have hoverhears₁ : Overhears label id w₁ := ho.congr rfl
      have hknows₁ : Knows id core w₁ := hk
      have hheard := heard_publishAll conduct (w.engine.replica.applyBatch batch).2 hquiet₁
      have hfirst := adds_publishedAll conduct (w.engine.replica.applyBatch batch).2 hquiet₁
        hoverhears₁ hknows₁
      have hknows := knows_publishAll conduct (w.engine.replica.applyBatch batch).2 hquiet₁ hknows₁
      have hrest := ih hheard.quiet (hoverhears₁.heard hheard hfirst) hknows
        (by rw [hheard.engine]; rfl)
      rw [hheard.engine] at hrest
      rw [flush_of_cons frugal_conduct hb, SessionCore.relays, List.flatMap_append]
      have hall := hfirst.trans hrest
      exact ⟨hall.quiet, hall.labels, hall.noted⟩

/-! ## Runs -/

/-- Batches were accepted and applied, and what a session says of those that were applied was noted
by whoever listens to it. -/
def Tells (label : String) (id : Nat) (w w' : Workspace) : Prop :=
  ∃ accepted applied, Progress accepted applied w w' ∧
    (Overhears label id w → Overhears label id w' ∧ ∀ v, Follows id v w →
      w'.noted (saidAs label) = w.noted (saidAs label) ++
        (SessionCore.relays (heardBy w.engine.bus id) (v.core, v.replica) applied).flatMap (·.said))

theorem Tells.trans {w'' : Workspace} (h : Tells label id w w') (h' : Tells label id w' w'') :
    Tells label id w w'' := by
  obtain ⟨accepted, applied, hprogress, htold⟩ := h
  obtain ⟨accepted', applied', hprogress', htold'⟩ := h'
  refine ⟨accepted ++ accepted', applied ++ applied', hprogress.trans hprogress', fun ho => ?_⟩
  obtain ⟨ho', hfirst⟩ := htold ho
  obtain ⟨ho'', hsecond⟩ := htold' ho'
  refine ⟨ho'', fun v hv => ?_⟩
  have hlater := hsecond _ (hprogress.follows id v hv)
  rw [hprogress.bus, Sight.pair_run] at hlater
  rw [hlater, hfirst v hv, SessionCore.relays_append, List.flatMap_append, List.append_assoc]

/-- What applies no batch, is not noted and leaves all subscribers as they are. -/
theorem tells_of_progress {accepted : List Batch} (h : Progress accepted [] w w')
    (hsame : w'.overheard label = w.overheard label) (hlog : w'.log = w.log) :
    Tells label id w w' := by
  refine ⟨accepted, [], h, fun ho => ⟨ho.congr hsame, fun v _ => ?_⟩⟩
  unfold noted
  rw [hlog]
  exact (List.append_nil _).symm

theorem tells_flush (h : w.Quiet) : Tells label id w (w.flush conduct) := by
  have hlabels := (adds_flush (Selection.direct_heardAs label) h).labels
  refine ⟨[], _, progress_flush h, fun ho => ⟨?_, fun v hv => ?_⟩⟩
  · exact ho.congr (overheard_congr (heard_flush h).buses hlabels)
  · obtain ⟨core, hknows, halike⟩ := hv.known
    rw [(adds_flushed h ho hknows).noted, halike.relays, hv.replica]

theorem tells_changeReservation (h : w.Quiet) (other : Nat) (p : Proposal)
    {change : SessionCore → StyleId → SessionCore}
    (hchange : ∀ s style, SessionCore.Alike s (change s style)) :
    Tells label id w (w.changeReservation other p change) := by
  have hbuses := (passing_changeReservation other p change w).buses
  have hprogress := progress_changeReservation h other p hchange
  obtain ⟨sessions, heq⟩ := changeReservation_eq other p change w
  rw [heq] at hbuses hprogress ⊢
  exact tells_of_progress hprogress (overheard_congr hbuses fun _ => rfl) rfl

theorem tells_routine (label : String) (id : Nat) : Routine (Tells label id) where
  quiet := by
    rintro w w' ⟨accepted, applied, hprogress, -⟩
    exact hprogress.quiet
  refl := fun h => tells_of_progress (Progress.refl h) rfl rfl
  trans := Tells.trans
  flush := tells_flush
  queued := fun h batch => tells_of_progress (progress_queued h batch) rfl rfl
  reserve := fun h other p => tells_changeReservation h other p alike_reserve
  release := fun h other p => tells_changeReservation h other p alike_release
  immediate := fun h on => tells_of_progress (progress_immediate h on) rfl rfl

theorem chronicles_routine (label : String) : Routine (Chronicles label) where
  toSubmission := (chronicles_execution label).toSubmission
  immediate := fun h on => (chronicles_execution label).immediate h on

/-! ## Subscribing -/

/-- What observers of the past note depends on their labels. -/
theorem notices_of_past {α : Type} {select : Selection α} {event : AnyEvent} {observers : List Nat}
    (hpast : ∀ n ∈ observers, n < w.nextId)
    (hlabels : ∀ n < w.nextId,
      (w'.observers.get? n).map (·.label) = (w.observers.get? n).map (·.label)) :
    w'.notices select event observers = w.notices select event observers := by
  unfold notices
  exact List.filterMap_congr fun n hn => by rw [hlabels n (hpast n hn)]

theorem handler_lt_nextId (h : w.Issued) {s : Session} (hs : w.sessions.get? id = some s)
    {signal : SessionSignal} : ∀ n ∈ s.bus.handlers signal, n < w.nextId := by
  intro n hn
  obtain ⟨sub, hsub, rfl⟩ := List.mem_map.1 hn
  exact (h.sessions id s hs).2 sub (List.mem_filter.1 hsub).1

def withListener (w : Workspace) (id : Nat) (s : Session) (signal : SessionSignal) (label : String)
    (times : Nat) : Workspace :=
  (w.modifySession id fun old => { old with
    bus := { s.bus with
      subscriptions := s.bus.subscriptions ++
        [{ id := s.bus.nextId, kind := signal, handler := w.nextId }]
      nextId := s.bus.nextId + 1 } }).addObserver label [] times

variable {s : Session} {signal : SessionSignal} {times : Nat}

theorem watchSession_eq (hs : w.sessions.get? id = some s)
    (hdeclared : s.bus.isDeclared signal = true) :
    (watchSession signal label [] times id w).2 = w.withListener id s signal label times := by
  unfold watchSession
  rw [hs]
  simp only [SignalBus.subscribe, SignalBus.checkDeclared, hdeclared, if_true]
  rfl

theorem get?_withListener (hs : w.sessions.get? id = some s) (signal : SessionSignal)
    (label : String) (times other : Nat) :
    (w.withListener id s signal label times).sessions.get? other =
      if id = other then some { s with
        bus := { s.bus with
          subscriptions := s.bus.subscriptions ++
            [{ id := s.bus.nextId, kind := signal, handler := w.nextId }]
          nextId := s.bus.nextId + 1 } }
      else w.sessions.get? other := by
  show (w.sessions.modify id _).get? other = _
  rw [Dict.get?_modify]
  by_cases hid : id = other
  · subst hid
    rw [if_pos rfl, if_pos rfl, hs]
    rfl
  · rw [if_neg hid, if_neg hid]

/-- The new observer notes what has the signal; the others note what they noted before. -/
theorem overheard_withListener (hissued : w.Issued) (hs : w.sessions.get? id = some s)
    (other : Nat) (event : SessionEvent) :
    (w.withListener id s signal label times).overheard label other event =
      w.overheard label other event ++
        if other = id ∧ signal = event.signal then [event] else [] := by
  have hpast : ∀ n < w.nextId,
      ((w.withListener id s signal label times).observers.get? n).map (·.label) =
        (w.observers.get? n).map (·.label) := by
    intro n hn
    show ((w.observers.insert w.nextId _).get? n).map _ = _
    rw [Dict.get?_insert, if_neg (by omega)]
  unfold overheard
  rw [get?_withListener hs]
  by_cases hid : id = other
  · subst hid
    have hhandlers : SignalBus.handlers { s.bus with
          subscriptions := s.bus.subscriptions ++
            [{ id := s.bus.nextId, kind := signal, handler := w.nextId }]
          nextId := s.bus.nextId + 1 } event.signal =
        s.bus.handlers event.signal ++ if signal = event.signal then [w.nextId] else [] := by
      unfold SignalBus.handlers
      rw [List.filter_append, List.map_append]
      by_cases hsignal : signal = event.signal <;> simp [hsignal]
    have hnew : (w.withListener id s signal label times).observers.get? w.nextId =
        some { label, actions := [], remaining := times } := Dict.get?_insert_self _ _ _
    rw [if_pos rfl, hs]
    simp only [true_and]
    rw [hhandlers, notices_append, notices_of_past (handler_lt_nextId hissued hs) hpast]
    congr 1
    by_cases hsignal : signal = event.signal
    · rw [if_pos hsignal, if_pos hsignal, notices_of_known _ hnew]
      simp [saidAs]
    · rw [if_neg hsignal, if_neg hsignal]
      rfl
  · have hother : ¬ (other = id ∧ signal = event.signal) := fun h => hid h.1.symm
    rw [if_neg hid, if_neg hother, List.append_nil]
    cases hs' : w.sessions.get? other with
    | none => rfl
    | some t => exact notices_of_past (handler_lt_nextId hissued hs') hpast

theorem issued_withListener (h : w.Issued) (hs : w.sessions.get? id = some s)
    (hdeclared : s.bus.isDeclared signal = true) (label : String) (times : Nat) :
    (w.withListener id s signal label times).Issued := by
  have hwatched := issued_watchSession ⟨h, Nat.zero_le w.nextId⟩ signal label [] times id
  rw [watchSession_eq hs hdeclared] at hwatched
  exact hwatched.toIssued

structure Entered (w w' : Workspace) : Prop where
  quiet : w'.Quiet
  engine : w'.engine = w.engine
  follows : ∀ id v, Follows id v w → Follows id v w'
  attended : ∀ label, Attended label w → Attended label w'

theorem Entered.trans {w'' : Workspace} (h : Entered w w') (h' : Entered w' w'') :
    Entered w w'' where
  quiet := h'.quiet
  engine := h'.engine.trans h.engine
  follows := fun id v hv => h'.follows id v (h.follows id v hv)
  attended := fun label ha => h'.attended label (h.attended label ha)

theorem entered_withListener (h : w.Quiet) (hs : w.sessions.get? id = some s)
    (hdeclared : s.bus.isDeclared signal = true) (label : String) (times : Nat) :
    Entered w (w.withListener id s signal label times) := by
  have hprogress := progress_watchSession h signal label times id
  rw [watchSession_eq hs hdeclared] at hprogress
  refine ⟨hprogress.quiet, rfl, hprogress.follows, fun books hattended => ?_⟩
  obtain ⟨accepted, applied, -, hnoted⟩ : Chronicles books w _ :=
    chronicles_watchSession h signal label times id
  rw [watchSession_eq hs hdeclared] at hnoted
  exact (hnoted hattended).1

def listenTo (w : Workspace) (id : Nat) (label : String) (times : Nat) : Workspace :=
  SessionSignal.all.foldl (fun w signal => (watchSession signal label [] times id w).2) w

theorem overheard_withListeners (h : w.Quiet) (hissued : w.Issued)
    (hs : w.sessions.get? id = some s) (hdeclared : ∀ signal, s.bus.isDeclared signal = true)
    (label : String) (times : Nat) (signals : List SessionSignal) :
    let w' := signals.foldl (fun w signal => (watchSession signal label [] times id w).2) w
    Entered w w' ∧ ∀ other event, w'.overheard label other event =
      w.overheard label other event ++
        if other = id then (signals.filter (· = event.signal)).map fun _ => event else [] := by
  induction signals generalizing w s with
  | nil =>
      refine ⟨⟨h, rfl, fun _ _ hv => hv, fun _ ha => ha⟩, fun other event => ?_⟩
      simp
  | cons signal rest ih =>
      intro w'
      have hfirst := entered_withListener h hs (hdeclared signal) label times
      have hs' := get?_withListener hs signal label times id
      rw [if_pos rfl] at hs'
      have hdeclared' : ∀ signal, SignalBus.isDeclared _ signal = true := hdeclared
      obtain ⟨hrest, hnotices⟩ := ih hfirst.quiet
        (issued_withListener hissued hs (hdeclared signal) label times) hs' hdeclared'
      have hw' : w' = rest.foldl (fun w signal => (watchSession signal label [] times id w).2)
          (w.withListener id s signal label times) := by
        show List.foldl _ (watchSession signal label [] times id w).2 _ = _
        rw [watchSession_eq hs (hdeclared signal)]
      rw [hw']
      refine ⟨hfirst.trans hrest, fun other event => ?_⟩
      rw [hnotices other event, overheard_withListener hissued hs, List.append_assoc]
      congr 1
      by_cases hid : other = id <;> by_cases hsignal : signal = event.signal <;>
        simp [hid, hsignal]

/-- Whoever subscribes to all signals under a new label overhears the session. -/
theorem overhears_listenTo (h : w.Quiet) (hissued : w.Issued)
    (hs : w.sessions.get? id = some s) (hdeclared : ∀ signal, s.bus.isDeclared signal = true)
    (hlabel : ∀ n o, w.observers.get? n = some o → o.label ≠ label) (times : Nat) :
    Entered w (w.listenTo id label times) ∧ Overhears label id (w.listenTo id label times) := by
  obtain ⟨hentered, hnotices⟩ :=
    overheard_withListeners h hissued hs hdeclared label times SessionSignal.all
  have hnobody (other : Nat) (event : SessionEvent) : w.overheard label other event = [] := by
    unfold overheard notices
    cases w.sessions.get? other with
    | none => rfl
    | some t =>
        refine List.filterMap_eq_nil_iff.2 fun n _ => ?_
        cases ho : w.observers.get? n with
        | none => rfl
        | some o => exact if_neg (hlabel n o ho)
  have honce (event : SessionEvent) :
      SessionSignal.all.filter (· = event.signal) = [event.signal] := by
    cases event <;> rfl
  refine ⟨hentered, fun event => ?_, fun other hother event => ?_⟩
  · have hall := hnotices id event
    rw [hnobody, honce, if_pos rfl] at hall
    exact hall
  · have hall := hnotices other event
    rw [hnobody, if_neg hother] at hall
    exact hall

/-! ## A new session -/

theorem handlers_subscribedAll (id : Nat) (signals : List EngineSignal) (e : Engine EngineListener)
    (other : EngineSignal) :
    (subscribedAll id signals e).bus.handlers other =
      e.bus.handlers other ++ (signals.filter (· = other)).map fun _ => .session id := by
  induction signals generalizing e with
  | nil => simp [subscribedAll]
  | cons signal rest ih =>
      have hrest := ih (subscribed e signal (.session id))
      rw [handlers_subscribed, List.append_assoc] at hrest
      show (subscribedAll id rest (subscribed e signal (.session id))).bus.handlers other = _
      rw [hrest]
      congr 1
      by_cases hsignal : signal = other <;> simp [hsignal]

variable {spec : SessionSpec} {features : FeatureSet}

theorem handlers_createSession (hcreate : w.createSession spec features = (.ok id, w'))
    (signal : EngineSignal) :
    w'.engine.bus.handlers signal = w.engine.bus.handlers signal ++
      (relayedSignals.filter (· = signal)).map fun _ => .session id := by
  obtain ⟨engine, made, log, rfl, rfl, hsubscribed⟩ := createSession_spec hcreate
  rw [hsubscribed.engine]
  exact handlers_subscribedAll w.nextId relayedSignals w.engine signal

/-- A new session does not change what observers of the engine note. -/
theorem attended_createSession (hcreate : w.createSession spec features = (.ok id, w'))
    (h : Attended label w) : Attended label w' := by
  have hhandlers := handlers_createSession hcreate
  obtain ⟨engine, made, log, rfl, rfl, -⟩ := createSession_spec hcreate
  constructor
  · intro sub hsub n hn
    have hmem : sub.handler ∈ engine.bus.handlers sub.kind :=
      List.mem_map_of_mem (List.mem_filter.2 ⟨hsub, by simp⟩)
    rw [hhandlers, List.mem_append] at hmem
    rcases hmem with hold | hnew
    · obtain ⟨old, hmem, hhandler⟩ := List.mem_map.1 hold
      exact Nat.lt_succ_of_lt (h.numbered old (List.mem_filter.1 hmem).1 n (hhandler.trans hn))
    · obtain ⟨-, -, hhandler⟩ := List.mem_map.1 hnew
      rw [hn] at hhandler
      cases hhandler
  · intro event
    have hsessions : ((relayedSignals.filter (· = event.signal)).map fun _ =>
        EngineListener.session w.nextId).filterMap EngineListener.observer? = [] := by
      rw [List.filterMap_map]
      exact List.filterMap_eq_nil_iff.2 fun _ _ => rfl
    have honce := h.once event
    unfold noticesOf at honce ⊢
    rw [hhandlers, List.filterMap_append, hsessions, List.append_nil]
    exact honce

/-- A new session hears of everything but metadata, and of everything once. -/
theorem heardBy_createSession (hcreate : w.createSession spec features = (.ok id, w'))
    (hissued : w.Issued) (events : List EngineEvent) :
    heardBy w'.engine.bus id events = events.filter fun event => !event.isMetadata := by
  have hid : id = w.nextId := by
    obtain ⟨-, -, -, hid, -, -⟩ := createSession_spec hcreate
    exact hid
  have hnone (signal : EngineSignal) :
      (w.engine.bus.handlers signal).filter (· = .session id) = [] := by
    refine List.filter_eq_nil_iff.2 fun listener hmem heq => ?_
    obtain ⟨sub, hsub, rfl⟩ := List.mem_map.1 hmem
    have hpast := hissued.engine sub (List.mem_filter.1 hsub).1
    rw [of_decide_eq_true heq, hid] at hpast
    exact Nat.lt_irrefl _ hpast
  have honce (event : EngineEvent) :
      relayedSignals.filter (· = event.signal) =
        if event.isMetadata then [] else [event.signal] := by
    cases event <;> rfl
  induction events with
  | nil => rfl
  | cons event rest ih =>
      unfold heardBy at ih ⊢
      rw [List.flatMap_cons, ih, handlers_createSession hcreate, List.filter_append, hnone, honce,
        List.filter_cons]
      cases event.isMetadata <;> simp

/-- Nobody is subscribed to a new session, and everybody may be. -/
theorem fresh_createSession (hcreate : w.createSession spec features = (.ok id, w')) :
    ∃ s, w'.sessions.get? id = some s ∧ (∀ signal, s.bus.isDeclared signal = true) ∧
      w'.observers = w.observers := by
  obtain ⟨engine, made, log, rfl, rfl, -⟩ := createSession_spec hcreate
  refine ⟨newSessionState spec made, Dict.get?_insert_self _ _ _, fun signal => ?_, rfl⟩
  cases signal <;> rfl

/-! ## Both together -/

/-- The queue shows which batches were accepted and which were applied. -/
theorem progress_unique {accepted applied accepted' applied' : List Batch}
    (h : Progress accepted applied w w') (h' : Progress accepted' applied' w w') :
    accepted' = accepted ∧ applied' = applied := by
  have haccepted : accepted' = accepted :=
    List.append_cancel_left (h'.submitted.symm.trans h.submitted)
  subst haccepted
  exact ⟨rfl, List.append_cancel_right (h'.queue.symm.trans h.queue)⟩

def heardOf (events : List EngineEvent) : List EngineEvent :=
  events.filter fun event => !event.isMetadata

/-- Batches were accepted and applied; the one listener noted what happened to the document as they
were applied, and the other what a session, which knew nothing at first, made of it. -/
structure Noted (books label : String) (id : Nat) (member : MemberId) (w w' : Workspace)
    (accepted applied : List Batch) (said : List SessionEvent) : Prop where
  submitted : w'.engine.submitted = w.engine.submitted ++ accepted
  queue : w.engine.pending ++ accepted = applied ++ w'.engine.pending
  engine : w'.noted (Selection.heardAs books) =
    w.noted (Selection.heardAs books) ++ w.engine.replica.history applied
  session : w'.noted (saidAs label) = w.noted (saidAs label) ++ said
  relayed : Relayed member (w.engine.replica.history applied)
    (SessionCore.relays heardOf ({ member }, w.engine.replica) applied) said
  core : ∃ s, w'.sessions.get? id = some s ∧
    SessionCore.Alike
      (applied.foldl (SessionCore.follow heardOf) ({ member }, w.engine.replica)).1 s.core

theorem noted_live {books : String} {member : MemberId} (hquiet : w.Quiet)
    (hattended : Attended books w) (hoverhears : Overhears label id w)
    (hfollows : Follows id (Sight.first member w.engine.replica) w)
    (hheard : heardBy w.engine.bus id = heardOf) (run : List Occasion) :
    ∃ accepted applied said, Noted books label id member w (w.live run) accepted applied said := by
  obtain ⟨accepted, applied, hprogress, htold⟩ := (tells_routine label id).live hquiet run
  obtain ⟨accepted', applied', hprogress', hchronicle⟩ := (chronicles_routine books).live hquiet run
  obtain ⟨rfl, rfl⟩ := progress_unique hprogress hprogress'
  have hsaid := (htold hoverhears).2 _ hfollows
  have hend := hprogress.follows id _ hfollows
  rw [hheard] at hsaid hend
  have hcore : (applied'.foldl (Sight.follow heardOf) (Sight.first member w.engine.replica)).core =
      (applied'.foldl (SessionCore.follow heardOf) ({ member }, w.engine.replica)).1 :=
    congrArg Prod.fst (Sight.pair_run (Sight.first member w.engine.replica) applied')
  obtain ⟨core, ⟨s, hs, -, rfl⟩, halike⟩ := hend.known
  refine ⟨accepted', applied', _, hprogress.submitted, hprogress.queue, (hchronicle hattended).2,
    hsaid, relayed_relays (fun _ => rfl) { member } w.engine.replica applied', s, hs, ?_⟩
  rw [← hcore]
  exact halike

/-- In a workspace that was used in any way (`issued_run`), let somebody listen to all that the
engine announces, and somebody else to all that a new session says. Whatever is then edited,
submitted and flushed, the one notes what happens to the document, and the other how the session
relays it. -/
theorem relay_faithful {w₀ w₁ : Workspace} {books : String} (hquiet : w₀.Quiet)
    (hissued : w₀.Issued) (hattended : Attended books w₀)
    (hlabel : ∀ n o, w₀.observers.get? n = some o → o.label ≠ label)
    (hcreate : w₀.createSession spec features = (.ok id, w₁)) (times : Nat)
    (run : List Occasion) :
    let w := w₁.listenTo id label times
    ∃ accepted applied said,
      Noted books label id spec.member w (w.live run) accepted applied said := by
  intro w
  have hattended₁ := attended_createSession hcreate hattended
  have hquiet₁ := (unchanged_createSession hcreate).1 hquiet
  have hfollows := (follows_createSession hcreate).1
  have hnew : w₁.Issued := by
    have hcreated := issued_createSession ⟨hissued, Nat.zero_le w₀.nextId⟩ spec features
    rw [hcreate] at hcreated
    exact hcreated.toIssued
  have hheard : heardBy w₁.engine.bus id = heardOf := funext (heardBy_createSession hcreate hissued)
  obtain ⟨s, hs, hdeclared, hobservers⟩ := fresh_createSession hcreate
  obtain ⟨hentered, hoverhears⟩ := overhears_listenTo hquiet₁ hnew hs hdeclared
    (by rw [hobservers]; exact hlabel) times
  have hfollows' := hentered.follows id _ hfollows
  rw [← hentered.engine] at hheard hfollows'
  exact noted_live hentered.quiet (hentered.attended books hattended₁) hoverhears hfollows' hheard
    run

def oneParagraph : Workspace :=
  { engine := ({} : Engine EngineListener).openDocument <|
      .build [.commonStyle ⟨"Body"⟩ "Body", .paragraph "one" .default] }

def attendedParagraph : Workspace :=
  (Command.attend "books" 0).foldl (fun w c => (w.execute c).2) oneParagraph

def paragraphSession : Workspace :=
  (attendedParagraph.createSession { member := ⟨"m"⟩ } .all).2

/-- The cursor enters the paragraph; somebody else changes the title and restyles the paragraph. -/
def visit : List Occasion :=
  [.turn (.enqueue [.addCursor ⟨"m"⟩]),
    .turn (.enqueue [.updateMetadata ⟨"n"⟩ (Dict.empty.insert "title" "one") [],
      .setParagraphStyle ⟨"n"⟩ 1 0 ⟨"Body"⟩]),
    .turn .flush]

theorem visit_relayed :
    let w' := (paragraphSession.listenTo 12 "session" 0).live visit
    w'.noted (saidAs "session") =
        [.cursorAdded ⟨"m"⟩, .paragraphChanged 1 (.style .default), .paragraphChanged 1 .content,
          .paragraphChanged 1 (.style ⟨"Body"⟩), .undoStackChanged] ∧
      SessionEvent.Prompted ⟨"m"⟩ (w'.noted (saidAs "session")) := by
  intro w'
  have hquiet : oneParagraph.Quiet := fun _ _ h => by cases h
  have hdeclared : ∀ signal, oneParagraph.engine.bus.isDeclared signal = true := by
    intro signal
    cases signal <;> rfl
  obtain ⟨hjoined, hattended⟩ : Joined oneParagraph attendedParagraph ∧
      Attended "books" attendedParagraph :=
    attended_attend hquiet (fun _ h => by cases h) hdeclared (fun _ h => by cases h) 0
  have hissued : attendedParagraph.Issued :=
    List.foldlRecOn (motive := Issued) _ _ (issued_of_empty rfl rfl rfl rfl) fun _ h c _ =>
      h.execute c
  have hlabel : ∀ n o, attendedParagraph.observers.get? n = some o → o.label ≠ "session" := by
    intro n o ho
    have hall : ∀ e ∈ attendedParagraph.observers.toList, e.2.label ≠ "session" := by
      decide +kernel
    exact hall _ ((Dict.get?_eq_some_iff_mem _ _ _).1 ho)
  have hcreate : attendedParagraph.createSession { member := ⟨"m"⟩ } .all =
      (.ok 12, paragraphSession) := Prod.ext rfl rfl
  obtain ⟨accepted, applied, said, hnoted⟩ :=
    relay_faithful hjoined.quiet hissued hattended hlabel hcreate 0 visit
  have hsilent : (paragraphSession.listenTo 12 "session" 0).noted (saidAs "session") = [] := by
    decide +kernel
  have hsaid := hnoted.session
  rw [hsilent, List.nil_append] at hsaid
  refine ⟨by decide +kernel, ?_⟩
  rw [hsaid]
  exact hnoted.relayed.prompted

end Workspace

end Coedit
