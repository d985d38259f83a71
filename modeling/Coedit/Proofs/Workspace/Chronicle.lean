import Coedit.Proofs.Session.Staleness
import Coedit.Proofs.Workspace.Hearing

/-!
# A listener that keeps books

A listener subscribes to every signal of the engine under a label of its own. Then its notes are
the events of the batches that were applied, in their order and each once, and the books that it
keeps from them are right after every flush.
-/

namespace Coedit

/-- The engine events that were noted under a label. -/
def Selection.heardAs (label : String) : Selection EngineEvent := fun other event =>
  match event with
  | .engine event => if other = label then some event else none
  | _ => none

theorem Selection.direct_heardAs (label : String) : (heardAs label).Direct :=
  ⟨fun _ _ => rfl, fun _ _ _ => rfl, fun _ _ => rfl⟩

/-- The commands by which a listener subscribes to every signal of the engine. -/
def Command.attend (label : String) (times : Nat) : List Command :=
  EngineSignal.all.map fun signal => .watchEngine signal label [] times

namespace Workspace

open Selection (heardAs)

variable {label : String} {w w' : Workspace}

def Numbered (w : Workspace) : Prop :=
  ∀ s ∈ w.engine.bus.subscriptions, ∀ id, s.handler = .observer id → id < w.nextId

/-- Nobody with this label hears from the engine. -/
def Unattended (label : String) (w : Workspace) : Prop :=
  ∀ s ∈ w.engine.bus.subscriptions, ∀ id, s.handler = .observer id →
    ∀ o, w.observers.get? id = some o → o.label ≠ label

/-- A listener with this label notes every event just once. -/
structure Attended (label : String) (w : Workspace) : Prop where
  numbered : w.Numbered
  once : ∀ event, w.noticesOf (heardAs label) event = [event]

/-! ## Subscribing -/

theorem subscription_of_observer {bus : SignalBus EngineSignal EngineListener}
    {signal : EngineSignal} {id : Nat}
    (h : id ∈ (bus.handlers signal).filterMap EngineListener.observer?) :
    ∃ s ∈ bus.subscriptions, s.handler = .observer id := by
  obtain ⟨listener, hlistener, hid⟩ := List.mem_filterMap.1 h
  obtain ⟨s, hs, rfl⟩ := List.mem_map.1 hlistener
  refine ⟨s, (List.mem_filter.1 hs).1, ?_⟩
  cases hhandler : s.handler with
  | observer other =>
      rw [hhandler] at hid
      exact congrArg EngineListener.observer (Option.some.inj hid)
  | _ =>
      rw [hhandler] at hid
      cases hid

/-- What is noted of an event depends on the bus and on the observers of the past alone. -/
theorem noticesOf_congr {α : Type} {select : Selection α} (h : w.Numbered)
    (hbus : w'.engine.bus = w.engine.bus)
    (hlabels : ∀ id < w.nextId,
      (w'.observers.get? id).map (·.label) = (w.observers.get? id).map (·.label))
    (event : EngineEvent) : w'.noticesOf select event = w.noticesOf select event := by
  unfold noticesOf notices
  rw [hbus]
  refine List.filterMap_congr fun id hmem => ?_
  obtain ⟨s, hs, hhandler⟩ := subscription_of_observer hmem
  rw [hlabels id (h s hs id hhandler)]

theorem noticesOf_of_unattended (h : w.Unattended label) (event : EngineEvent) :
    w.noticesOf (heardAs label) event = [] := by
  unfold noticesOf notices
  refine List.filterMap_eq_nil_iff.2 fun id hmem => ?_
  obtain ⟨s, hs, hhandler⟩ := subscription_of_observer hmem
  cases ho : w.observers.get? id with
  | none => rfl
  | some o =>
      exact if_neg (h s hs id hhandler o ho)

theorem handlers_subscribed (e : Engine EngineListener) (signal other : EngineSignal)
    (listener : EngineListener) :
    (subscribed e signal listener).bus.handlers other =
      e.bus.handlers other ++ if signal = other then [listener] else [] := by
  unfold subscribed SignalBus.handlers
  rw [List.filter_append, List.map_append]
  by_cases hsignal : signal = other <;> simp [hsignal]

def watched (w : Workspace) (signal : EngineSignal) (label : String) (times : Nat) : Workspace :=
  { w with engine := subscribed w.engine signal (.observer w.nextId) }.addObserver label [] times

theorem execute_watchEngine (hdeclared : ∀ signal, w.engine.bus.isDeclared signal = true)
    (signal : EngineSignal) (times : Nat) :
    (w.execute (.watchEngine signal label [] times)).2 = w.watched signal label times := by
  rw [execute_eq_step]
  simp only [step, watchEngine, Engine.subscribe, SignalBus.subscribe, SignalBus.checkDeclared,
    hdeclared signal, if_true]
  rfl

theorem numbered_watched (h : w.Numbered) (signal : EngineSignal) (label : String) (times : Nat) :
    (w.watched signal label times).Numbered := by
  intro s hs id hid
  show id < w.nextId + 1
  rcases List.mem_append.1 hs with hold | hnew
  · have hpast := h s hold id hid
    omega
  · rw [List.mem_singleton.1 hnew] at hid
    have hsame : w.nextId = id := EngineListener.observer.inj hid
    omega

/-- The new observer notes what has the signal; the others note what they noted before. -/
theorem noticesOf_watched (h : w.Numbered) (signal : EngineSignal) (label : String) (times : Nat)
    (event : EngineEvent) :
    (w.watched signal label times).noticesOf (heardAs label) event =
      w.noticesOf (heardAs label) event ++ if signal = event.signal then [event] else [] := by
  have hpast : ∀ id < w.nextId, (w.watched signal label times).observers.get? id =
      w.observers.get? id := by
    intro id hid
    show (w.observers.insert w.nextId _).get? id = _
    rw [Dict.get?_insert, if_neg (by omega)]
  have hothers : (w.watched signal label times).notices (heardAs label) (.engine event)
      ((w.engine.bus.handlers event.signal).filterMap EngineListener.observer?) =
        w.noticesOf (heardAs label) event := by
    unfold noticesOf notices
    refine List.filterMap_congr fun id hmem => ?_
    obtain ⟨s, hs, hhandler⟩ := subscription_of_observer hmem
    rw [hpast id (h s hs id hhandler)]
  have hhandlers : (w.watched signal label times).engine.bus.handlers event.signal =
      w.engine.bus.handlers event.signal ++
        if signal = event.signal then [.observer w.nextId] else [] :=
    handlers_subscribed w.engine signal event.signal (.observer w.nextId)
  rw [noticesOf, hhandlers, List.filterMap_append, notices_append, hothers]
  congr 1
  by_cases hsignal : signal = event.signal
  · have hnew : (w.watched signal label times).observers.get? w.nextId =
        some { label, actions := [], remaining := times } := Dict.get?_insert_self _ _ _
    rw [if_pos hsignal, if_pos hsignal]
    show notices (heardAs label) (w.watched signal label times) (.engine event) [w.nextId] = _
    rw [notices_of_known _ hnew]
    simp [heardAs]
  · rw [if_neg hsignal, if_neg hsignal]
    rfl

structure Joined (w w' : Workspace) : Prop where
  quiet : w'.Quiet
  numbered : w'.Numbered
  declared : ∀ signal, w'.engine.bus.isDeclared signal = true
  engine : ∃ bus, w'.engine = { w.engine with bus }
  log : w'.log = w.log

theorem joined_watchAll (hquiet : w.Quiet) (hnumbered : w.Numbered)
    (hdeclared : ∀ signal, w.engine.bus.isDeclared signal = true) (label : String) (times : Nat)
    (signals : List EngineSignal) :
    let w' := (signals.map fun signal => .watchEngine signal label [] times).foldl
      (fun w c => (w.execute c).2) w
    Joined w w' ∧ ∀ event, w'.noticesOf (heardAs label) event =
      w.noticesOf (heardAs label) event ++
        (signals.filter (· = event.signal)).map fun _ => event := by
  induction signals generalizing w with
  | nil =>
      refine ⟨⟨hquiet, hnumbered, hdeclared, ⟨_, rfl⟩, rfl⟩, fun event => ?_⟩
      exact (List.append_nil _).symm
  | cons signal rest ih =>
      intro w'
      have hfirst := noticesOf_watched hnumbered signal label times
      have hquiet' : (w.watched signal label times).Quiet := quiet_addObserver hquiet label times
      obtain ⟨hjoined, hnotices⟩ := ih hquiet' (numbered_watched hnumbered signal label times)
        hdeclared
      have hw' : w' = (rest.map fun signal => Command.watchEngine signal label [] times).foldl
          (fun w c => (w.execute c).2) (w.watched signal label times) := by
        show List.foldl _ (w.execute _).2 _ = _
        rw [execute_watchEngine hdeclared]
      rw [hw']
      obtain ⟨bus, hengine⟩ := hjoined.engine
      refine ⟨⟨hjoined.quiet, hjoined.numbered, hjoined.declared, ⟨bus, hengine⟩, hjoined.log⟩,
        fun event => ?_⟩
      rw [hnotices event, hfirst event, List.append_assoc]
      by_cases hsignal : signal = event.signal <;> simp [hsignal]

theorem attended_attend (hquiet : w.Quiet) (hnumbered : w.Numbered)
    (hdeclared : ∀ signal, w.engine.bus.isDeclared signal = true) (hlabel : w.Unattended label)
    (times : Nat) :
    let w' := (Command.attend label times).foldl (fun w c => (w.execute c).2) w
    Joined w w' ∧ Attended label w' := by
  obtain ⟨hjoined, hnotices⟩ :=
    joined_watchAll hquiet hnumbered hdeclared label times EngineSignal.all
  refine ⟨hjoined, hjoined.numbered, fun event => ?_⟩
  have honce : EngineSignal.all.filter (· = event.signal) = [event.signal] := by
    cases event.signal <;> decide
  have hevent := hnotices event
  rw [honce, noticesOf_of_unattended hlabel] at hevent
  exact hevent

/-! ## Runs -/

/-- Batches were accepted and applied, and who keeps books noted all events of those that were
applied. -/
def Chronicles (label : String) (w w' : Workspace) : Prop :=
  ∃ accepted applied, Progress accepted applied w w' ∧
    (Attended label w → Attended label w' ∧
      w'.noted (heardAs label) = w.noted (heardAs label) ++ w.engine.replica.history applied)

theorem Attended.congr (h : Attended label w) (hbus : w'.engine.bus = w.engine.bus)
    (hnext : w.nextId ≤ w'.nextId)
    (hlabels : ∀ id < w.nextId,
      (w'.observers.get? id).map (·.label) = (w.observers.get? id).map (·.label)) :
    Attended label w' where
  numbered := by
    intro s hs id hid
    rw [hbus] at hs
    exact Nat.lt_of_lt_of_le (h.numbered s hs id hid) hnext
  once := by
    intro event
    rw [noticesOf_congr h.numbered hbus hlabels]
    exact h.once event

theorem Chronicles.refl (h : w.Quiet) : Chronicles label w w :=
  ⟨[], [], Progress.refl h, fun hattended => ⟨hattended, (List.append_nil _).symm⟩⟩

theorem Chronicles.trans {w'' : Workspace} (h : Chronicles label w w')
    (h' : Chronicles label w' w'') : Chronicles label w w'' := by
  obtain ⟨accepted, applied, hprogress, hnoted⟩ := h
  obtain ⟨accepted', applied', hprogress', hnoted'⟩ := h'
  refine ⟨accepted ++ accepted', applied ++ applied', hprogress.trans hprogress',
    fun hattended => ?_⟩
  obtain ⟨hattended', hfirst⟩ := hnoted hattended
  obtain ⟨hattended'', hsecond⟩ := hnoted' hattended'
  refine ⟨hattended'', ?_⟩
  rw [hsecond, hfirst, List.append_assoc, hprogress.replica, Replica.history_append]

/-- What applies no batch, is not noted and leaves the observers of the past as they are. -/
theorem chronicles_of_progress {accepted : List Batch} (h : Progress accepted [] w w')
    (hnext : w.nextId ≤ w'.nextId)
    (hlabels : ∀ id < w.nextId,
      (w'.observers.get? id).map (·.label) = (w.observers.get? id).map (·.label))
    (hlog : w'.log = w.log) : Chronicles label w w' := by
  refine ⟨accepted, [], h, fun hattended => ⟨hattended.congr h.bus hnext hlabels, ?_⟩⟩
  unfold noted
  rw [hlog]
  exact (List.append_nil _).symm

theorem chronicles_flush (h : w.Quiet) : Chronicles label w (w.flush conduct) := by
  refine ⟨[], _, progress_flush h, fun hattended => ?_⟩
  have hadds := adds_flush (Selection.direct_heardAs label) h
  have hprogress := progress_flush h
  have hnext : (w.flush conduct).nextId = w.nextId := by
    obtain ⟨observers, log, undoManagers, sessions, heq, -, -⟩ := heard_flush h
    rw [heq]
  have honce : w.noticesOf (heardAs label) = fun event => [event] := funext hattended.once
  refine ⟨hattended.congr hprogress.bus (Nat.le_of_eq hnext.symm) fun id _ => hadds.labels id, ?_⟩
  rw [hadds.noted, honce]
  congr 1
  exact List.flatMap_singleton' _

theorem chronicles_changeReservation (h : w.Quiet) (id : Nat) (p : Proposal)
    {change : SessionCore → StyleId → SessionCore}
    (hchange : ∀ s style, SessionCore.Alike s (change s style)) :
    Chronicles label w (w.changeReservation id p change) := by
  have hprogress := progress_changeReservation h id p hchange
  obtain ⟨sessions, heq⟩ := changeReservation_eq id p change w
  rw [heq] at hprogress ⊢
  exact chronicles_of_progress hprogress (Nat.le_refl _) (fun _ _ => rfl) rfl

theorem chronicles_watchSession (h : w.Quiet) (signal : SessionSignal) (other : String)
    (times id : Nat) : Chronicles label w (watchSession signal other [] times id w).2 := by
  have hprogress := progress_watchSession h signal other times id
  unfold watchSession at hprogress ⊢
  split
  · exact Chronicles.refl h
  · rename_i s hs
    rw [hs] at hprogress
    split
    · rename_i subscription bus hbus
      simp only [hbus] at hprogress
      refine chronicles_of_progress hprogress (Nat.le_succ _) (fun past hpast => ?_) rfl
      show ((w.observers.insert w.nextId _).get? past).map (·.label) = _
      rw [Dict.get?_insert, if_neg (by omega)]
    · exact Chronicles.refl h

theorem Chronicles.held {holds : List (Place × Access)} (h : Chronicles label { w with holds } w')
    (holds' : List (Place × Access)) : Chronicles label w { w' with holds := holds' } := by
  obtain ⟨accepted, applied, hprogress, hnoted⟩ := h
  refine ⟨accepted, applied, hprogress.held holds', fun hattended => ?_⟩
  obtain ⟨hattended', hnews⟩ := hnoted ⟨hattended.numbered, hattended.once⟩
  exact ⟨⟨hattended'.numbered, hattended'.once⟩, hnews⟩

theorem chronicles_execution (label : String) : Execution (Chronicles label) where
  quiet := by
    rintro w w' ⟨accepted, applied, hprogress, -⟩
    exact hprogress.quiet
  refl := Chronicles.refl
  trans := Chronicles.trans
  flush := chronicles_flush
  queued := fun h batch =>
    chronicles_of_progress (progress_queued h batch) (Nat.le_refl _) (fun _ _ => rfl) rfl
  reserve := fun h id p => chronicles_changeReservation h id p alike_reserve
  release := fun h id p => chronicles_changeReservation h id p alike_release
  immediate := fun h on =>
    chronicles_of_progress (progress_immediate h on) (Nat.le_refl _) (fun _ _ => rfl) rfl
  watch := fun h signal other times id => chronicles_watchSession h signal other times id
  held := fun _ holds' h => h.held holds'

/-- A listener that hears everything from the loaded state on notes all events of the batches
that were accepted; after every flush its books are right, and no event contradicts them. The
events of each batch name every paragraph that it restyled and every style that it changed. -/
theorem books_right_after_flush {w₀ w₁ : Workspace} {url label : String} (times : Nat)
    {commands : List Command} (hquiet : w₀.Quiet) (hnumbered : w₀.Numbered)
    (hdeclared : ∀ signal, w₀.engine.bus.isDeclared signal = true)
    (hlabel : w₀.Unattended label)
    (hload : w₀.loadDocument w₀.files url = (.ok (), w₁))
    (hcommands : ∀ c ∈ commands, c.submits = true) :
    let w := (Command.attend label times).foldl (fun w c => (w.execute c).2) w₁
    let w' := ((commands.foldl (fun w c => (w.execute c).2) w).execute (.engine .flush)).2
    ∃ accepted, w'.engine.submitted = w.engine.submitted ++ accepted ∧
      let events := w₁.engine.replica.history accepted
      w'.noted (heardAs label) = w.noted (heardAs label) ++ events ∧
      Inventory.enterAll events (.of w₁.engine.replica) = some (.of w'.engine.replica) ∧
      ∀ earlier batch later, accepted = earlier ++ batch :: later →
        let r := earlier.foldl (fun r batch => (r.applyBatch batch).1) w₁.engine.replica
        Announced (r.applyBatch batch).2 r (r.applyBatch batch).1 := by
  intro w w'
  have hquiet₁ := quiet_load hquiet hload
  obtain ⟨d, -, rfl⟩ := opened_of_load hload
  obtain ⟨hjoined, hattended⟩ := attended_attend hquiet₁ hnumbered hdeclared hlabel times
  obtain ⟨bus, hengine⟩ := hjoined.engine
  have hreplica : w.engine.replica = (w₀.engine.openDocument d).replica := by
    rw [show w.engine = _ from hengine]
  have hpending : w.engine.pending = [] := by
    rw [show w.engine = _ from hengine]
    rfl
  have hexecution := chronicles_execution label
  have hcommanded := hexecution.run hcommands hjoined.quiet
  have hrun : Chronicles label w w' :=
    hcommanded.trans (hexecution.execute rfl (hexecution.quiet hcommanded))
  obtain ⟨accepted, applied, hprogress, hnoted⟩ := hrun
  have hqueue := hprogress.queue
  rw [Agenda.pending_execute_flush, List.append_nil, hpending, List.nil_append] at hqueue
  subst hqueue
  have hbooks := Inventory.enterAll_history w.engine.replica accepted
  rw [← hprogress.replica, hreplica] at hbooks
  refine ⟨accepted, hprogress.submitted, ?_, hbooks, fun earlier batch later _ => ?_⟩
  · rw [← hreplica]
    exact (hnoted hattended).2
  · exact Replica.all_announced_applyBatch _ batch

/-- A member comes and goes but leaves a cursor behind, and a style comes and goes that a
paragraph is attached to. -/
def upheaval : List Command :=
  [.engine (.enqueue [.addMember ⟨"m"⟩ {}, .addCursor ⟨"m"⟩, .addStyle ⟨"n"⟩ ⟨"X"⟩ .paragraph {}]),
    .engine (.enqueue [.removeStyle ⟨"n"⟩ ⟨"X"⟩ .paragraph, .removeMember ⟨"m"⟩, .addCursor ⟨"m"⟩,
      .updateMetadata ⟨"n"⟩ (Dict.empty.insert "title" "one") []])]

theorem books_right_after_upheaval :
    let loaded := (withDangling.loadDocument {} "doc").2
    let w := (Command.attend "books" 0).foldl (fun w c => (w.execute c).2) loaded
    let w' := ((upheaval.foldl (fun w c => (w.execute c).2) w).execute (.engine .flush)).2
    (w'.noted (heardAs "books")).length = 11 ∧
      Inventory.enterAll (w'.noted (heardAs "books")) (.of loaded.engine.replica) =
        some (.of w'.engine.replica) := by
  intro loaded w w'
  have hquiet : withDangling.Quiet := fun _ _ h => by cases h
  have hnumbered : withDangling.Numbered := fun _ h => by cases h
  have hdeclared : ∀ signal, withDangling.engine.bus.isDeclared signal = true := by
    intro signal
    cases signal <;> rfl
  have hlabel : withDangling.Unattended "books" := fun _ h => by cases h
  have hload : withDangling.loadDocument {} "doc" = (.ok (), loaded) := Prod.ext rfl rfl
  have hcommands : ∀ c ∈ upheaval, c.submits = true := by decide
  obtain ⟨accepted, -, hnoted, hbooks, -⟩ :=
    books_right_after_flush 0 hquiet hnumbered hdeclared hlabel hload hcommands
  have hsilent : w.noted (heardAs "books") = [] := by decide +kernel
  rw [hsilent, List.nil_append] at hnoted
  have hcount : (w'.noted (heardAs "books")).length = 11 := by decide +kernel
  refine ⟨hcount, ?_⟩
  subst w' w
  rw [hnoted]
  exact hbooks

end Workspace

end Coedit
