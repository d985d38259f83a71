import Coedit.Proofs.Signal.Traced
import Coedit.Session.Event

/-!
# Emissions are snapshots

What happens on a scripted bus is a play (`Good.play`), so every emission reaches the
subscriptions that stood when it started, whatever the observers command meanwhile. The moments
at which a play reaches a subscription are those at which its observer notes an event.
-/

namespace Coedit

variable {κ ε : Type}

def Note.heard? {ρ : Type} : Note ε ρ → Option (String × ε)
  | heard label event => some (label, event)
  | did _ _ => none

def Moment.told? (labels : Nat → Option String) : Moment κ ε → Option (String × ε)
  | reached _ event id => (labels id).map (·, event)
  | _ => none

theorem told_eq_none {m : Moment κ ε} (h : ∀ n event id, m ≠ .reached n event id)
    (labels : Nat → Option String) : m.told? labels = none := by
  cases m with
  | reached n event id => exact absurd rfl (h n event id)
  | _ => rfl

theorem told_congr {labels labels' : Nat → Option String} {moments : List (Moment κ ε)}
    (h : ∀ n event id, .reached n event id ∈ moments → labels' id = labels id) :
    moments.filterMap (Moment.told? labels') = moments.filterMap (Moment.told? labels) := by
  refine List.filterMap_congr fun m hm => ?_
  cases m with
  | reached n event id => simp only [Moment.told?, h n event id hm]
  | _ => rfl

namespace Traced

def label? (t : Traced κ ε) (id : Nat) : Option String := (t.state.observers.get? id).map (·.label)

/-- Every subscription has its observer as its handler, and what the observers heard is what the
emissions told them. -/
structure Good (t : Traced κ ε) : Prop where
  handlers : ∀ s ∈ t.state.bus.subscriptions, s.handler = s.id ∧ (t.label? s.id).isSome
  below : ∀ id, (t.label? id).isSome → id < t.state.bus.nextId
  reached : ∀ n event id, .reached n event id ∈ t.past → (t.label? id).isSome
  heard : t.state.log.filterMap Note.heard? = t.past.filterMap (Moment.told? t.label?)

def Remembers (t t' : Traced κ ε) : Prop :=
  ∀ id label, t.label? id = some label → t'.label? id = some label

theorem Remembers.refl (t : Traced κ ε) : t.Remembers t := fun _ _ h => h

theorem Remembers.trans {t t' t'' : Traced κ ε} (h : t.Remembers t') (h' : t'.Remembers t'') :
    t.Remembers t'' := fun id label hlabel => h' id label (h id label hlabel)

theorem Remembers.isSome {t t' : Traced κ ε} (h : t.Remembers t') {id : Nat}
    (hid : (t.label? id).isSome) : (t'.label? id).isSome := by
  obtain ⟨label, hlabel⟩ := Option.isSome_iff_exists.1 hid
  rw [h id label hlabel]
  rfl

theorem Remembers.told {t t' : Traced κ ε} (h : t.Remembers t')
    (hreached : ∀ n event id, .reached n event id ∈ t.past → (t.label? id).isSome) :
    t.past.filterMap (Moment.told? t'.label?) = t.past.filterMap (Moment.told? t.label?) := by
  refine told_congr fun n event id hm => ?_
  obtain ⟨label, hlabel⟩ := Option.isSome_iff_exists.1 (hreached n event id hm)
  rw [hlabel, h id label hlabel]

theorem good_ofKinds [SignalKind κ] [BusEvent ε κ] (kinds : List κ) :
    (ofKinds kinds : Traced κ ε).Good where
  handlers := fun _ hs => (List.not_mem_nil hs).elim
  below := fun _ hid => by cases hid
  reached := fun _ _ _ hm => (List.not_mem_nil hm).elim
  heard := rfl

section Good

variable {t : Traced κ ε} (good : t.Good)

include good

/-- Moments at which nobody is reached, and after which the bus has no new subscriptions. -/
theorem Good.endSome {m : Moment κ ε} (htold : ∀ n event id, m ≠ .reached n event id)
    {bus : SignalBus κ Nat} (hnext : bus.nextId = t.state.bus.nextId)
    (hsub : ∀ s ∈ bus.subscriptions, s ∈ t.state.bus.subscriptions) :
    ({ state := { t.state with bus }, past := t.past ++ [m] } : Traced κ ε).Good where
  handlers := fun s hs => good.handlers s (hsub s hs)
  below := fun id hid => hnext ▸ good.below id hid
  reached := by
    intro n event id hm
    rcases List.mem_append.1 hm with hold | hnew
    · exact good.reached n event id hold
    · exact absurd (List.mem_singleton.1 hnew).symm (htold n event id)
  heard := by
    show t.state.log.filterMap Note.heard? = (t.past ++ [m]).filterMap (Moment.told? t.label?)
    rw [List.filterMap_append, good.heard]
    simp [told_eq_none htold]

theorem Good.note {m : Moment κ ε} (htold : ∀ n event id, m ≠ .reached n event id) :
    (t.note m).Good :=
  good.endSome htold rfl fun _ hs => hs

theorem Good.noteReply (label : String) (reply : BusReply) : (t.noteReply label reply).Good where
  handlers := good.handlers
  below := good.below
  reached := good.reached
  heard := by
    show (t.state.log ++ [Note.did label reply]).filterMap Note.heard? = _
    rw [List.filterMap_append, good.heard]
    exact List.append_nil _

/-- A new subscription has a new observer. -/
theorem Good.subscribe [SignalKind κ] {kind : κ} {id : Nat} {bus : SignalBus κ Nat}
    (h : t.state.bus.subscribe kind t.state.bus.nextId = .ok (id, bus))
    (o : Observer (BusCommand κ ε)) :
    let t' : Traced κ ε :=
      { state := { t.state with bus, observers := t.state.observers.insert id o }
        past := t.past ++ [.subscribed kind id] }
    t'.Good ∧ t.Remembers t' := by
  obtain ⟨rfl, hnext, hsubs⟩ := SignalBus.subscribe_spec h
  intro t'
  have hlabel : ∀ id, t'.label? id =
      if t.state.bus.nextId = id then some o.label else t.label? id := by
    intro id
    show ((t.state.observers.insert t.state.bus.nextId o).get? id).map (·.label) = _
    rw [Dict.get?_insert]
    split <;> rfl
  have hremembers : t.Remembers t' := by
    intro id label hid
    have hlt := good.below id (by rw [hid]; rfl)
    rw [hlabel, if_neg (Nat.ne_of_gt hlt), hid]
  refine ⟨⟨fun s hs => ?_, fun id hid => ?_, fun n event id hm => ?_, ?_⟩, hremembers⟩
  · rcases List.mem_append.1 (hsubs ▸ hs) with hold | hnew
    · exact ⟨(good.handlers s hold).1, hremembers.isSome (good.handlers s hold).2⟩
    · rw [List.mem_singleton.1 hnew, hlabel, if_pos rfl]
      exact ⟨rfl, rfl⟩
  · rw [hlabel] at hid
    show id < bus.nextId
    split at hid
    · omega
    · have hlt := good.below id hid
      omega
  · rcases List.mem_append.1 hm with hold | hnew
    · exact hremembers.isSome (good.reached n event id hold)
    · cases List.mem_singleton.1 hnew
  · show t.state.log.filterMap Note.heard? =
      (t.past ++ [Moment.subscribed kind t.state.bus.nextId]).filterMap (Moment.told? t'.label?)
    rw [List.filterMap_append, hremembers.told good.reached, good.heard]
    exact (List.append_nil _).symm

/-- An observer that is reached hears of the event. -/
theorem Good.heardBy {id : Nat} {o : Observer (BusCommand κ ε)}
    (ho : t.state.observers.get? id = some o) (n : Nat) (event : ε) :
    ((t.note (.reached n event id)).heardBy event id o).Good ∧
      t.Remembers ((t.note (.reached n event id)).heardBy event id o) := by
  have hlabel : ∀ id', ((t.note (.reached n event id)).heardBy event id o).label? id' =
      t.label? id' := by
    intro id'
    show ((t.state.observers.insert id o.answer.2).get? id').map (·.label) =
      (t.state.observers.get? id').map (·.label)
    rw [Dict.get?_insert]
    split
    · rename_i heq
      rw [← heq, ho]
      exact congrArg some o.answer_label
    · rfl
  have hsame := funext hlabel
  have hid : t.label? id = some o.label := by
    rw [label?, ho]
    rfl
  refine ⟨⟨?_, ?_, fun n' event' id' hm => ?_, ?_⟩, fun id' label h => by rw [hlabel, h]⟩
  · rw [hsame]
    exact good.handlers
  · rw [hsame]
    exact good.below
  · rw [hlabel]
    rcases List.mem_append.1 hm with hold | hnew
    · exact good.reached n' event' id' hold
    · cases List.mem_singleton.1 hnew
      rw [hid]
      rfl
  · rw [hsame]
    show (t.state.log ++ [Note.heard o.label event]).filterMap Note.heard? =
      (t.past ++ [Moment.reached n event id]).filterMap (Moment.told? t.label?)
    rw [List.filterMap_append, List.filterMap_append, good.heard]
    simp [Note.heard?, Moment.told?, hid]

end Good

variable [SignalKind κ] [BusEvent ε κ]

structure Follows (t t' : Traced κ ε) : Prop where
  good : t'.Good
  remembers : t.Remembers t'
  played : ∀ p, Played .anyone t'.play p → Played .anyone t.play p

theorem Follows.refl {t : Traced κ ε} (good : t.Good) : t.Follows t :=
  ⟨good, .refl t, fun _ h => h⟩

theorem Follows.trans {t t' t'' : Traced κ ε} (h : t.Follows t') (h' : t'.Follows t'') :
    t.Follows t'' :=
  ⟨h'.good, h.remembers.trans h'.remembers, fun p hp => h.played p (h'.played p hp)⟩

def Plays (act : Conduct κ ε) : Prop :=
  ∀ c (t : Traced κ ε), t.Good → t.Follows (act c t).2

variable {act : Conduct κ ε}

theorem Plays.carryOut (h : Plays act) (label : String) (commands : List (BusCommand κ ε))
    {t : Traced κ ε} (good : t.Good) :
    t.Follows (carryOut act (noteReply label) commands t) := by
  induction commands generalizing t with
  | nil => exact .refl good
  | cons c rest ih =>
      have hfirst := h c t good
      have hnoted : (act c t).2.Follows ((act c t).2.noteReply label (act c t).1) :=
        ⟨hfirst.good.noteReply label _, .refl _, fun _ hp => hp⟩
      exact (hfirst.trans hnoted).trans (ih hnoted.good)

/-- An emission reaches those who wait for it, one after the other. -/
theorem Plays.deliver (h : Plays act) (n : Nat) (event : ε)
    (waiting : List (Subscription κ Nat)) {t : Traced κ ε} (good : t.Good)
    (hwaiting : ∀ s ∈ waiting, s.handler = s.id ∧ (t.label? s.id).isSome) :
    let t' := (waiting.map (·.handler)).foldl (fun t id => t.notify act n event id) t
    t'.Good ∧ t.Remembers t' ∧ Played (.handlers n event waiting) t.play t'.play := by
  induction waiting generalizing t with
  | nil => exact ⟨good, .refl t, .allReached _⟩
  | cons s rest ih =>
      obtain ⟨hhandler, hknown⟩ := hwaiting s List.mem_cons_self
      obtain ⟨o, ho⟩ : ∃ o, t.state.observers.get? s.id = some o := by
        rw [label?, Option.isSome_map] at hknown
        exact Option.isSome_iff_exists.1 hknown
      obtain ⟨hgood, hremembers⟩ := good.heardBy ho n event
      have hacts := h.carryOut o.label o.answer.1 hgood
      have hnotify : t.notify act n event s.handler =
          Coedit.carryOut act (noteReply o.label) o.answer.1
            ((t.note (.reached n event s.id)).heardBy event s.id o) := by
        rw [hhandler, notify]
        simp only [show (t.note (.reached n event s.id)).state = t.state from rfl, ho]
      obtain ⟨hgood', hremembers', hplayed⟩ := ih hacts.good fun s' hs' =>
        ⟨(hwaiting s' (List.mem_cons_of_mem _ hs')).1, (hremembers.trans hacts.remembers).isSome
          (hwaiting s' (List.mem_cons_of_mem _ hs')).2⟩
      intro t'
      have ht' : t' = (rest.map (·.handler)).foldl (fun t id => t.notify act n event id)
          (Coedit.carryOut act (noteReply o.label) o.answer.1
            ((t.note (.reached n event s.id)).heardBy event s.id o)) := by
        rw [← hnotify]
        rfl
      rw [ht']
      exact ⟨hgood', (hremembers.trans hacts.remembers).trans hremembers',
        .reach (hacts.played _ (.rest _)) hplayed⟩

theorem Plays.step (h : Plays act) : Plays (step act) := by
  intro c t good
  cases c with
  | subscribe kind label actions times =>
      simp only [Traced.step]
      cases hsub : t.state.bus.subscribe kind t.state.bus.nextId with
      | error cause =>
          exact ⟨good.note (by simp), .refl _, fun p hp => .refuseSubscription hsub hp⟩
      | ok result =>
          obtain ⟨hgood, hremembers⟩ := good.subscribe hsub
            { label, actions, remaining := times }
          exact ⟨hgood, hremembers, fun p hp => .subscribe hsub hp⟩
  | unsubscribe kind id =>
      exact ⟨good.endSome (by simp) rfl fun s hs => (List.mem_filter.1 hs).1, .refl _,
        fun p hp => .unsubscribe hp⟩
  | clear =>
      exact ⟨good.endSome (by simp) rfl fun s hs => (List.not_mem_nil hs).elim, .refl _,
        fun p hp => .clear hp⟩
  | emit event =>
      simp only [Traced.step, SignalBus.emit, SignalBus.deliver]
      cases hdeclared : t.state.bus.checkDeclared (BusEvent.kind event) with
      | error cause =>
          exact ⟨good.note (by simp), .refl _, fun p hp => .refuseEmission hdeclared hp⟩
      | ok _ =>
          obtain ⟨hgood, hremembers, hduring⟩ := h.deliver t.past.length event
            (t.state.bus.subscriptions.filter (·.kind == BusEvent.kind event))
            (good.note (m := .started event) (by simp))
            fun s hs => good.handlers s (List.mem_filter.1 hs).1
          exact ⟨hgood.note (by simp), hremembers, fun p hp => .emit hdeclared hduring hp⟩
  | _ => exact .refl good

theorem plays_perform (depth : Nat) : Plays (perform depth : Conduct κ ε) := by
  induction depth with
  | zero => exact fun _ _ good => .refl good
  | succ depth ih => exact ih.step

def executeAll (commands : List (BusCommand κ ε)) (t : Traced κ ε) : Traced κ ε :=
  commands.foldl (fun t c => (t.execute c).2) t

theorem follows_executeAll (commands : List (BusCommand κ ε)) {t : Traced κ ε} (good : t.Good) :
    t.Follows (t.executeAll commands) := by
  induction commands generalizing t with
  | nil => exact .refl good
  | cons c rest ih =>
      have hfirst : t.Follows (t.execute c).2 := plays_perform _ c t good
      exact hfirst.trans (ih hfirst.good)

end Traced

/-! ## The results -/

section Undeclared

variable {η σ : Type} [SignalKind κ] [BusEvent ε κ] {kind : κ}

theorem SignalBus.subscribe_of_undeclared {bus : SignalBus κ η}
    (h : bus.isDeclared kind = false) (handler : η) :
    bus.subscribe kind handler = .error (.invalidSignalKind (SignalKind.name kind)) := by
  simp [subscribe, checkDeclared, h]

theorem ScriptedBus.execute_subscribe_of_undeclared {s : ScriptedBus κ ε}
    (h : s.bus.isDeclared kind = false) (label : String) (actions : List (BusCommand κ ε))
    (times : Nat) :
    s.execute (.subscribe kind label actions times) =
      (.failed (.invalidSignalKind (SignalKind.name kind)), s) := by
  rw [execute_eq_step]
  simp only [step, SignalBus.subscribe_of_undeclared h]

theorem ScriptedBus.execute_emit_of_undeclared {s : ScriptedBus κ ε} {event : ε}
    (h : s.bus.isDeclared (BusEvent.kind event) = false) :
    s.execute (.emit event) =
      (.failed (.invalidSignalKind (SignalKind.name (BusEvent.kind event))), s) := by
  rw [execute_eq_step]
  simp only [step, SignalBus.emit_of_undeclared h]

theorem ScriptedBus.execute_emit_of_declared {s : ScriptedBus κ ε} {event : ε}
    (h : s.bus.isDeclared (BusEvent.kind event) = true) :
    s.execute (.emit event) =
      (.done, (s.bus.handlers (BusEvent.kind event)).foldl
        (fun s id => s.notify execute event id) s) := by
  rw [execute_eq_step]
  simp only [step, SignalBus.emit, SignalBus.checkDeclared, h, if_pos, SignalBus.deliver]

end Undeclared

/-- Whatever handlers do while they run, an emission of a declared kind reaches just the
subscriptions that stand when it starts, each once and in the order in which they were made; one
that is made later waits for the next emission of its kind. Scripted buses are plays of this
sort, to the last nested command, and what their observers note is what the play reaches. A kind
that is not declared is refused, and nothing else happens. -/
theorem emissions_are_snapshots [SignalKind κ] [BusEvent ε κ] :
    (∀ (η : Type) (kinds : List κ) (p : Play κ ε η),
      Played .anyone (Play.ofKinds kinds) p → Faithful p.past) ∧
    (∀ (kinds : List κ) (commands : List (BusCommand κ ε)),
      let t := (Traced.ofKinds kinds : Traced κ ε).executeAll commands
      Played .anyone (Play.ofKinds kinds) t.play ∧
      t.state.log.filterMap Note.heard? = t.past.filterMap (Moment.told? t.label?)) ∧
    (∀ c (t : Traced κ ε), t.execute c = t.step Traced.execute c ∧
      t.state.execute c = ((t.execute c).1, (t.execute c).2.state)) ∧
    (∀ (event : ε) (s : ScriptedBus κ ε), s.bus.isDeclared (BusEvent.kind event) = true →
      s.execute (.emit event) = (.done, (s.bus.handlers (BusEvent.kind event)).foldl
        (fun s id => s.notify ScriptedBus.execute event id) s)) ∧
    (∀ (event : ε) (s : ScriptedBus κ ε), s.bus.isDeclared (BusEvent.kind event) = false →
      s.execute (.emit event) =
        (.failed (.invalidSignalKind (SignalKind.name (BusEvent.kind event))), s)) ∧
    (∀ (kind : κ) label actions times (s : ScriptedBus κ ε), s.bus.isDeclared kind = false →
      s.execute (.subscribe kind label actions times) =
        (.failed (.invalidSignalKind (SignalKind.name kind)), s)) := by
  refine ⟨fun η kinds p hp => faithful_of_played hp, fun kinds commands => ?_,
    fun c t => ⟨t.execute_eq_step c, erases_execute c t⟩,
    fun _ _ h => ScriptedBus.execute_emit_of_declared h,
    fun _ _ h => ScriptedBus.execute_emit_of_undeclared h,
    fun _ label actions times _ h =>
      ScriptedBus.execute_subscribe_of_undeclared h label actions times⟩
  have hrun := Traced.follows_executeAll commands (Traced.good_ofKinds kinds)
  exact ⟨hrun.played _ (.rest _), hrun.good.heard⟩

instance sessionEventOnBus : BusEvent SessionEvent SessionSignal where
  kind := SessionEvent.signal

/-- A subscription that is made during an emission waits for the next one. -/
theorem subscribed_during_emission :
    let t : Traced SessionSignal SessionEvent := (Traced.ofKinds [.undoStackChanged]).executeAll
      [.subscribe .undoStackChanged "first" [.subscribe .undoStackChanged "second" [] 0] 1,
        .emit .undoStackChanged, .emit .undoStackChanged]
    Faithful t.past ∧ reachedBy 1 t.past = [0] ∧ reachedBy 5 t.past = [0, 1] := by
  intro t
  exact ⟨emissions_are_snapshots.1 Nat _ t.play (emissions_are_snapshots.2.1 _ _).1, by decide,
    by decide⟩

end Coedit
