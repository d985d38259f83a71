import Coedit.Proofs.Signal.Emission
import Mathlib.Data.Set.Card

/-!
# An identifier stands for one subscription

A scene is a play at any of its moments, in the midst of emissions that are still under way. Step
by step, whoever acts, the numbers that subscriptions get go up and are never given again, not even
after all subscriptions were dropped. So a number ends the one subscription that was made under it
or none at all, and the subscriptions of a kind are those that were made and have not been ended.
-/

namespace Coedit

open Relation (ReflTransGen)

/-- An emission that is under way, and whom it is still to reach. -/
structure Emitting (κ ε η : Type) where
  emission : Nat
  event : ε
  waiting : List (Subscription κ η)

/-- A play at one of its moments, with the emissions that are under way, the innermost first. -/
structure Scene (κ ε η : Type) where
  play : Play κ ε η
  emissions : List (Emitting κ ε η) := []

namespace Scene

variable {κ ε η : Type}

def note (m : Moment κ ε) (s : Scene κ ε η) : Scene κ ε η := { s with play := s.play.note m }

def become (bus : SignalBus κ η) (m : Moment κ ε) (s : Scene κ ε η) : Scene κ ε η :=
  { s with play := { bus, past := s.play.past ++ [m] } }

section Step

variable [SignalKind κ] [BusEvent ε κ]

/-- What can happen next. Handlers act as they like while they run; when an emission has nobody
left to reach, it is finished. -/
inductive Step : Scene κ ε η → Scene κ ε η → Prop where
  | subscribe {s : Scene κ ε η} {kind : κ} {handler : η} {id : Nat} {bus : SignalBus κ η}
      (h : s.play.bus.subscribe kind handler = .ok (id, bus)) :
      Step s (s.become bus (.subscribed kind id))
  | refuseSubscription {s : Scene κ ε η} {kind : κ} {handler : η} {cause : SignalError}
      (h : s.play.bus.subscribe kind handler = .error cause) : Step s (s.note (.refused cause))
  | unsubscribe {s : Scene κ ε η} {kind : κ} {id : Nat} :
      Step s (s.become (s.play.bus.unsubscribe kind id) (.unsubscribed kind id))
  | clear {s : Scene κ ε η} : Step s (s.become s.play.bus.clear .cleared)
  | emit {s : Scene κ ε η} {event : ε}
      (h : s.play.bus.checkDeclared (BusEvent.kind event) = .ok ()) :
      Step s
        { play := s.play.note (.started event)
          emissions :=
            { emission := s.play.past.length, event
              waiting := s.play.bus.subscriptions.filter (·.kind == BusEvent.kind event) } ::
              s.emissions }
  | refuseEmission {s : Scene κ ε η} {event : ε} {cause : SignalError}
      (h : s.play.bus.checkDeclared (BusEvent.kind event) = .error cause) :
      Step s (s.note (.refused cause))
  | reach {play : Play κ ε η} {n : Nat} {event : ε} {sub : Subscription κ η}
      {waiting : List (Subscription κ η)} {outer : List (Emitting κ ε η)} :
      Step ⟨play, ⟨n, event, sub :: waiting⟩ :: outer⟩
        ⟨play.note (.reached n event sub.id), ⟨n, event, waiting⟩ :: outer⟩
  | finish {play : Play κ ε η} {n : Nat} {event : ε} {outer : List (Emitting κ ε η)} :
      Step ⟨play, ⟨n, event, []⟩ :: outer⟩ ⟨play.note (.finished n), outer⟩

def Arises (kinds : List κ) (s : Scene κ ε η) : Prop := ReflTransGen Step ⟨.ofKinds kinds, []⟩ s

end Step

end Scene

/-! ## Plays are made of steps -/

def Cast.under {κ ε η : Type} (outer : List (Emitting κ ε η)) : Cast κ ε η → List (Emitting κ ε η)
  | anyone => outer
  | handlers n event waiting => ⟨n, event, waiting⟩ :: outer

def Cast.done {κ ε η : Type} (outer : List (Emitting κ ε η)) : Cast κ ε η → List (Emitting κ ε η)
  | anyone => outer
  | handlers n event _ => ⟨n, event, []⟩ :: outer

theorem Played.steps {κ ε η : Type} [SignalKind κ] [BusEvent ε κ] {cast : Cast κ ε η}
    {p p' : Play κ ε η} (h : Played cast p p') (outer : List (Emitting κ ε η)) :
    ReflTransGen Scene.Step ⟨p, cast.under outer⟩ ⟨p', cast.done outer⟩ := by
  induction h generalizing outer with
  | rest p => exact .refl
  | subscribe h later ih => exact .head (.subscribe h) (ih outer)
  | refuseSubscription h later ih => exact .head (.refuseSubscription h) (ih outer)
  | unsubscribe later ih => exact .head .unsubscribe (ih outer)
  | clear later ih => exact .head .clear (ih outer)
  | emit h during later ihduring ihlater =>
      exact .head (.emit h) ((ihduring outer).trans (.head .finish (ihlater outer)))
  | refuseEmission h later ih => exact .head (.refuseEmission h) (ih outer)
  | allReached p => exact .refl
  | reach acts others ihacts ihothers =>
      exact .head .reach ((ihacts _).trans (ihothers outer))

namespace Scene

variable {κ ε η : Type}

/-! ## What steps keep -/

section Sound

variable [SignalKind κ] [BusEvent ε κ] {s s' : Scene κ ε η}

structure Sound (s : Scene κ ε η) : Prop where
  play : s.play.Sound
  started : ∀ e ∈ s.emissions, e.emission < s.play.past.length

/-- Older subscriptions are as they were: nothing is added but under numbers not given before. -/
structure Outlasts (s s' : Scene κ ε η) : Prop where
  next : s.play.bus.nextId ≤ s'.play.bus.nextId
  kept : ∀ sub ∈ s'.play.bus.subscriptions, sub.id < s.play.bus.nextId →
    sub ∈ s.play.bus.subscriptions

omit [SignalKind κ] [BusEvent ε κ] in
theorem Outlasts.trans {s'' : Scene κ ε η} (h : s.Outlasts s') (h' : s'.Outlasts s'') :
    s.Outlasts s'' where
  next := h.next.trans h'.next
  kept := fun sub hsub hold => h.kept sub (h'.kept sub hsub (hold.trans_le h.next)) hold

omit [SignalKind κ] [BusEvent ε κ] in
/-- A sound play after one thing more, while nothing else gets under way. -/
theorem Sound.become (h : s.Sound) {bus : SignalBus κ η} {m : Moment κ ε}
    (hplay : ({ bus, past := s.play.past ++ [m] } : Play κ ε η).Sound) :
    (s.become bus m).Sound where
  play := hplay
  started := by
    intro e he
    have hbefore := h.started e he
    simp only [Scene.become, List.length_append]
    omega

theorem Step.sound (h : Step s s') (hs : s.Sound) : s'.Sound := by
  cases h with
  | subscribe h => exact hs.become (hs.play.subscribe h)
  | unsubscribe => exact hs.become (hs.play.unsubscribe _ _)
  | clear => exact hs.become hs.play.clear
  | refuseSubscription | refuseEmission =>
      exact hs.become (hs.play.note rfl (by simp [Moment.Ends]) fun _ _ => rfl)
  | @emit _ event h =>
      have hbefore := hs.become (hs.play.note (m := .started event) rfl (by simp [Moment.Ends])
        fun _ _ => rfl)
      refine ⟨hbefore.play, fun e he => ?_⟩
      rcases List.mem_cons.1 he with rfl | hold
      · simp [Play.note]
      · exact hbefore.started e hold
  | @reach play n event sub waiting outer =>
      have hfirst : n < play.past.length := hs.started _ List.mem_cons_self
      have hafter := hs.become (hs.play.note (m := .reached n event sub.id) rfl
        (by simp [Moment.Ends]) fun later hlater => if_neg (by simp only at hlater; omega))
      refine ⟨hafter.play, fun e he => ?_⟩
      rcases List.mem_cons.1 he with rfl | hold
      · exact hafter.started ⟨n, event, sub :: waiting⟩ List.mem_cons_self
      · exact hafter.started e (List.mem_cons_of_mem _ hold)
  | @finish play n event outer =>
      have hafter := hs.become (hs.play.note (m := .finished n) rfl (by simp [Moment.Ends])
        fun _ _ => rfl)
      exact ⟨hafter.play, fun e he => hafter.started e (List.mem_cons_of_mem _ he)⟩

theorem Step.outlasts (h : Step s s') : s.Outlasts s' := by
  cases h with
  | subscribe h =>
      obtain ⟨-, hnext, hsubs⟩ := SignalBus.subscribe_spec h
      refine ⟨hnext ▸ Nat.le_succ _, fun sub hsub hold => ?_⟩
      rcases List.mem_append.1 (hsubs ▸ hsub) with hmem | hnew
      · exact hmem
      · rw [List.mem_singleton.1 hnew] at hold
        exact (Nat.lt_irrefl _ hold).elim
  | unsubscribe => exact ⟨Nat.le_refl _, fun sub hsub _ => (List.mem_filter.1 hsub).1⟩
  | clear => exact ⟨Nat.le_refl _, fun sub hsub _ => (List.not_mem_nil hsub).elim⟩
  | _ => exact ⟨Nat.le_refl _, fun sub hsub _ => hsub⟩

theorem Arises.sound {kinds : List κ} (h : s.Arises kinds) : s.Sound := by
  induction h with
  | refl => exact ⟨Play.sound_ofKinds kinds, fun _ he => (List.not_mem_nil he).elim⟩
  | tail _ hstep ih => exact hstep.sound ih

theorem outlasts_of_steps (h : ReflTransGen Step s s') : s.Outlasts s' := by
  induction h with
  | refl => exact ⟨Nat.le_refl _, fun sub hsub _ => hsub⟩
  | tail _ hstep ih => exact ih.trans hstep.outlasts

end Sound

end Scene

/-! ## What stands, and what is over -/

section Stands

variable {κ ε : Type} {past later : List (Moment κ ε)} {kind other : κ} {id : Nat}
  {m m' : Moment κ ε}

/-- A number is given once. -/
theorem eq_of_given (h : (past.filterMap Moment.given?).Pairwise (· < ·)) (hm : m ∈ past)
    (hm' : m' ∈ past) (hid : m.given? = some id) (hid' : m'.given? = some id) : m = m' := by
  have hpairs : past.Pairwise fun a a' => ∀ i, a.given? = some i → a'.given? ≠ some i := by
    refine (List.pairwise_filterMap.1 h).imp fun hlt i hi hi' => ?_
    exact Nat.lt_irrefl i (hlt i hi i hi')
  have hsymmetric : Std.Symm fun a a' : Moment κ ε =>
      ∀ i, a.given? = some i → a'.given? ≠ some i := ⟨fun a a' haa' i hi hi' => haa' i hi' hi⟩
  by_contra hne
  exact hpairs.forall hm hm' hne id hid hid'

/-- What is over does not come back. -/
theorem not_stands_of_ended (h : ((past ++ m :: later).filterMap Moment.given?).Pairwise (· < ·))
    (hgiven : .subscribed kind id ∈ past) (hends : m.Ends kind id) :
    ¬ Stands (past ++ m :: later) kind id := by
  rw [stands_append]
  rintro (hagain | ⟨-, hlater⟩)
  · rw [List.filterMap_append, List.pairwise_append] at h
    have hbefore : id ∈ past.filterMap Moment.given? := List.mem_filterMap.2 ⟨_, hgiven, rfl⟩
    exact Nat.lt_irrefl id (h.2.2 id hbefore id (mem_given_of_stands hagain))
  · exact hlater m List.mem_cons_self hends

end Stands

/-! ## The results -/

section Unsubscribe

variable {κ ε η : Type} [SignalKind κ] {p : Play κ ε η} {kind : κ} {id : Nat}

theorem Play.Sound.unsubscribe_of_not_stands (h : p.Sound) (hover : ¬ Stands p.past kind id) :
    p.bus.unsubscribe kind id = p.bus := by
  have hkept : ∀ sub ∈ p.bus.subscriptions, (!(sub.kind == kind && sub.id == id)) = true := by
    intro sub hsub
    by_contra hmatch
    refine hover ((h.standing kind id).1 ⟨sub, hsub, ?_⟩)
    simpa using hmatch
  rw [SignalBus.unsubscribe, List.filter_eq_self.2 hkept]

/-- Just the one subscription goes, and those before and behind it stay as they are. -/
theorem Play.Sound.unsubscribe_of_stands (h : p.Sound) (hstands : Stands p.past kind id) :
    ∃ before sub behind, p.bus.subscriptions = before ++ sub :: behind ∧
      sub.kind = kind ∧ sub.id = id ∧
      p.bus.unsubscribe kind id = { p.bus with subscriptions := before ++ behind } := by
  obtain ⟨sub, hsub, rfl, rfl⟩ := (h.standing kind id).2 hstands
  obtain ⟨before, behind, hsplit⟩ := List.append_of_mem hsub
  refine ⟨before, sub, behind, hsplit, rfl, rfl, ?_⟩
  have hordered := h.ordered
  rw [hsplit, List.map_append, List.map_cons, List.pairwise_append, List.pairwise_cons] at hordered
  obtain ⟨-, ⟨hbehind, -⟩, hbefore⟩ := hordered
  have hkeep : ∀ other : Subscription κ η, other.id ≠ sub.id →
      (!(other.kind == sub.kind && other.id == sub.id)) = true := by
    intro other hne
    simp [hne]
  rw [SignalBus.unsubscribe, hsplit, List.filter_append, List.filter_cons_of_neg (by simp),
    List.filter_eq_self.2 fun other hother => hkeep other ?_,
    List.filter_eq_self.2 fun other hother => hkeep other ?_]
  · exact Nat.ne_of_gt (hbehind other.id (List.mem_map_of_mem hother))
  · exact Nat.ne_of_lt (hbefore other.id (List.mem_map_of_mem hother) sub.id List.mem_cons_self)

theorem Play.Sound.subscriberCount_eq (h : p.Sound) (kind : κ) :
    p.bus.subscriberCount kind = {id | Stands p.past kind id}.ncard := by
  have hids : {id | Stands p.past kind id} =
      ↑((p.bus.subscriptions.filter (·.kind == kind)).map (·.id)).toFinset := by
    ext id
    simp [← h.standing, and_assoc]
  have hdistinct : ((p.bus.subscriptions.filter (·.kind == kind)).map (·.id)).Nodup :=
    (h.ordered.sublist ((List.filter_sublist).map _)).imp Nat.ne_of_lt
  rw [hids, Set.ncard_coe_finset, List.toFinset_card_of_nodup hdistinct]
  simp [SignalBus.subscriberCount, SignalBus.handlers]

end Unsubscribe

section Results

variable {κ ε η : Type} [SignalKind κ] [BusEvent ε κ]

/-- What identifiers are good for, at one moment of a play. -/
structure Scene.Identified (s : Scene κ ε η) : Prop where
  distinct : (s.play.past.filterMap Moment.given?).Nodup
  removed : ∀ kind id, Stands s.play.past kind id →
    ∃ before sub behind, s.play.bus.subscriptions = before ++ sub :: behind ∧
      sub.kind = kind ∧ sub.id = id ∧
      s.play.bus.unsubscribe kind id =
        { s.play.bus with subscriptions := before ++ behind }
  unaffected : ∀ kind id, ¬ Stands s.play.past kind id →
    s.play.bus.unsubscribe kind id = s.play.bus
  ended : ∀ past m later kind id, s.play.past = past ++ m :: later →
    .subscribed kind id ∈ past → m.Ends kind id → s.play.bus.unsubscribe kind id = s.play.bus
  otherKind : ∀ kind other id, .subscribed kind id ∈ s.play.past → other ≠ kind →
    s.play.bus.unsubscribe other id = s.play.bus
  counted : ∀ kind, s.play.bus.subscriberCount kind = {id | Stands s.play.past kind id}.ncard
  lasting : ∀ kind handler id bus, s.play.bus.subscribe kind handler = .ok (id, bus) →
    ∀ s', ReflTransGen Step (s.become bus (.subscribed kind id)) s' →
      ∀ sub ∈ s'.play.bus.subscriptions, sub.id = id → sub = { id, kind, handler }

theorem Scene.Sound.identified {s : Scene κ ε η} (h : s.Sound) : s.Identified where
  distinct := h.play.given.imp Nat.ne_of_lt
  removed := fun _ _ hstands => h.play.unsubscribe_of_stands hstands
  unaffected := fun _ _ hover => h.play.unsubscribe_of_not_stands hover
  ended := by
    intro past m later kind id hpast hgiven hends
    refine h.play.unsubscribe_of_not_stands ?_
    rw [hpast]
    exact not_stands_of_ended (hpast ▸ h.play.given) hgiven hends
  otherKind := by
    intro kind other id hgiven hother
    refine h.play.unsubscribe_of_not_stands fun hstands => ?_
    cases eq_of_given h.play.given (mem_of_stands hstands) hgiven rfl rfl
    exact hother rfl
  counted := h.play.subscriberCount_eq
  lasting := by
    intro kind handler id bus hsubscribe s' hsteps sub hsub hid
    obtain ⟨rfl, hnext, hsubs⟩ := SignalBus.subscribe_spec hsubscribe
    have hold : sub.id < bus.nextId := by omega
    have hmem : sub ∈ bus.subscriptions := (outlasts_of_steps hsteps).kept sub hsub hold
    rcases List.mem_append.1 (hsubs ▸ hmem) with hbefore | hnew
    · exact absurd hid (Nat.ne_of_lt (h.play.lt_nextId hbefore))
    · exact List.mem_singleton.1 hnew

def ScriptedBus.executeAll (commands : List (BusCommand κ ε)) (s : ScriptedBus κ ε) :
    ScriptedBus κ ε :=
  commands.foldl (fun s c => (s.execute c).2) s

theorem Traced.state_executeAll (commands : List (BusCommand κ ε)) (t : Traced κ ε) :
    (t.executeAll commands).state = t.state.executeAll commands := by
  induction commands generalizing t with
  | nil => rfl
  | cons c rest ih =>
      rw [ScriptedBus.executeAll, List.foldl_cons, erases_execute c t]
      exact ih (t.execute c).2

/-- A scripted bus arises like every other. -/
theorem Scene.arises_scripted (kinds : List κ) (commands : List (BusCommand κ ε)) :
    let s : ScriptedBus κ ε := (ScriptedBus.ofKinds kinds).executeAll commands
    ∃ past : List (Moment κ ε), Arises kinds ⟨{ bus := s.bus, past }, []⟩ := by
  intro s
  let t : Traced κ ε := (Traced.ofKinds kinds).executeAll commands
  have hfollows := Traced.follows_executeAll commands (Traced.good_ofKinds kinds)
  have hsteps : Arises kinds ⟨t.play, []⟩ := (hfollows.played t.play (.rest _)).steps []
  rw [Traced.play, Traced.state_executeAll commands] at hsteps
  exact ⟨t.past, hsteps⟩

/-- At every moment of every run of a bus, in the midst of whatever handlers do, identifiers stand
for one subscription each. Scripted buses run like this. -/
theorem subscriptions_identified :
    (∀ (η : Type) (kinds : List κ) (s : Scene κ ε η), s.Arises kinds → s.Identified) ∧
    ∀ (kinds : List κ) (commands : List (BusCommand κ ε)),
      let s : ScriptedBus κ ε := (ScriptedBus.ofKinds kinds).executeAll commands
      ∃ past : List (Moment κ ε), Scene.Arises kinds ⟨{ bus := s.bus, past }, []⟩ :=
  ⟨fun _ _ _ harises => harises.sound.identified, Scene.arises_scripted⟩

end Results

/-- An observer drops all subscriptions, its own among them, and subscribes anew: the number of the
first subscription is not given again, and ends nothing any more. -/
theorem subscription_after_clear_identified :
    let s : ScriptedBus SessionSignal SessionEvent :=
      (ScriptedBus.ofKinds [.undoStackChanged]).executeAll
        [.subscribe .undoStackChanged "first" [.clear, .subscribe .undoStackChanged "second" [] 0] 1,
          .emit .undoStackChanged]
    (∃ past : List (Moment SessionSignal SessionEvent),
      Scene.Identified ⟨{ bus := s.bus, past }, []⟩) ∧
    s.bus.handlers .undoStackChanged = [1] ∧
    (s.bus.unsubscribe .undoStackChanged 0).subscriberCount .undoStackChanged = 1 := by
  intro s
  have hresults := subscriptions_identified (κ := SessionSignal) (ε := SessionEvent)
  obtain ⟨past, harises⟩ := hresults.2 [.undoStackChanged]
    [.subscribe .undoStackChanged "first" [.clear, .subscribe .undoStackChanged "second" [] 0] 1,
      .emit .undoStackChanged]
  exact ⟨⟨past, hresults.1 Nat _ _ harises⟩, by decide, by decide⟩

end Coedit
