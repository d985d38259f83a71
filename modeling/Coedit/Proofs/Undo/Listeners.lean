import Coedit.Proofs.Signal.Emission
import Coedit.Proofs.Undo.Announcements
import Coedit.Undo.Watched

/-!
# Watched managers

What a watched manager does is what can come of an undo manager, and what its listeners noted is
what the announcements reached (`Arises.managed`). So the law about what they heard last holds of
it too, and a listener that reacts can leave those behind it with a value that was replaced. If the
listeners that set the flag all set it to the same value, nobody is stopped.
-/

namespace Coedit

namespace WatchedUndoManager

def hear (listener : ModifiedListener) (modified : Bool) (w : WatchedUndoManager) :
    WatchedUndoManager :=
  { w with heard := w.heard ++ [(listener.label, modified)] }

def react (act : Bool → WatchedUndoManager → WatchedUndoManager) (modified : Bool)
    (listener : ModifiedListener) (w : WatchedUndoManager) : WatchedUndoManager :=
  match listener.setTo with
  | some flag => act flag (w.hear listener modified)
  | none => w.hear listener modified

theorem setWithin_succ (depth : Nat) (modified : Bool) (w : WatchedUndoManager) :
    setWithin (depth + 1) modified w =
      if w.manager.modified = modified then w
      else w.manager.bus.deliver .modifiedChanged (react (setWithin depth) modified)
        { w with manager := { w.manager with modified } } := by
  by_cases h : w.manager.modified = modified
  · simp [setWithin, UndoManager.setModified, h]
  · simp [setWithin, UndoManager.setModified, h]
    rfl

/-! ## Who is stopped -/

def Agree (flag : Bool) (m : UndoManager ModifiedListener) : Prop :=
  ∀ s ∈ m.bus.subscriptions, ∀ other ∈ s.handler.setTo, other = flag

section Depth

variable {act act' : Bool → WatchedUndoManager → WatchedUndoManager}
  {P : UndoManager ModifiedListener → Prop} {w : WatchedUndoManager} {flag modified : Bool}

/-- Reactions keep what setting the flag keeps. -/
theorem react_keeps (hkeep : ∀ flag w, P w.manager → P (act flag w).manager)
    (listener : ModifiedListener) (hw : P w.manager) : P (react act modified listener w).manager := by
  unfold react
  split
  · exact hkeep _ _ hw
  · exact hw

theorem foldl_react_keeps (hkeep : ∀ flag w, P w.manager → P (act flag w).manager)
    (listeners : List ModifiedListener) (hw : P w.manager) :
    P (listeners.foldl (fun w listener => react act modified listener w) w).manager := by
  induction listeners generalizing w with
  | nil => exact hw
  | cons listener rest ih => exact ih (react_keeps hkeep listener hw)

theorem bus_setWithin (depth : Nat) (modified : Bool) (w : WatchedUndoManager) :
    (setWithin depth modified w).manager.bus = w.manager.bus := by
  induction depth generalizing modified w with
  | zero => rfl
  | succ depth ih =>
      rw [setWithin_succ]
      split
      · rfl
      · exact foldl_react_keeps (P := fun m => m.bus = w.manager.bus)
          (fun flag w' hw' => (ih flag w').trans hw') _ rfl

/-- Two ways of setting the flag that agree where the listeners use them. -/
theorem foldl_react_congr (hsame : ∀ w, P w.manager → act flag w = act' flag w)
    (hkeep : ∀ w, P w.manager → P (act flag w).manager) {listeners : List ModifiedListener}
    (hagree : ∀ listener ∈ listeners, ∀ other ∈ listener.setTo, other = flag)
    (hw : P w.manager) :
    listeners.foldl (fun w listener => react act modified listener w) w =
      listeners.foldl (fun w listener => react act' modified listener w) w := by
  induction listeners generalizing w with
  | nil => rfl
  | cons listener rest ih =>
      have hrest := fun l hl => hagree l (List.mem_cons_of_mem _ hl)
      have hfirst : react act modified listener w = react act' modified listener w ∧
          P (react act modified listener w).manager := by
        unfold react
        cases hset : listener.setTo with
        | none => exact ⟨rfl, hw⟩
        | some other =>
            obtain rfl := hagree listener List.mem_cons_self other hset
            exact ⟨hsame (w.hear listener modified) hw, hkeep (w.hear listener modified) hw⟩
      rw [List.foldl_cons, List.foldl_cons, ih hrest hfirst.2, hfirst.1]

theorem Agree.handlers {m : UndoManager ModifiedListener} (h : Agree flag m) :
    ∀ listener ∈ m.bus.handlers .modifiedChanged, ∀ other ∈ listener.setTo, other = flag := by
  intro listener hlistener
  obtain ⟨s, hs, rfl⟩ := List.mem_map.1 hlistener
  exact h s (List.mem_filter.1 hs).1

theorem setWithin_of_same (h : w.manager.modified = flag) (depth : Nat) :
    setWithin depth flag w = w := by
  cases depth with
  | zero => rfl
  | succ depth => rw [setWithin_succ, if_pos h]

/-- Once the flag is what the listeners set it to, nobody changes it again. -/
theorem Agree.setWithin_flag (h : Agree flag w.manager) (depth : Nat) :
    setWithin (depth + 1) flag w = setWithin 1 flag w := by
  rw [setWithin_succ, setWithin_succ]
  split
  · rfl
  · -- From the first reaction on, setting the flag changes nothing, however deep.
    refine foldl_react_congr (P := fun m => m.modified = flag) (fun w' hw' => ?_)
      (fun w' hw' => ?_) h.handlers rfl
    · rw [setWithin_of_same hw', setWithin_of_same hw']
    · rwa [setWithin_of_same hw']

/-- Listeners that agree settle within two levels, so the bound on the depth stops none of
them. -/
theorem Agree.setWithin_eq (h : Agree flag w.manager) (modified : Bool) {depth : Nat}
    (hdepth : 2 ≤ depth) : setWithin depth modified w = w.setModified modified := by
  have htwo : ∀ d, setWithin (d + 2) modified w = setWithin 2 modified w := by
    intro d
    rw [setWithin_succ, setWithin_succ]
    split
    · rfl
    · refine foldl_react_congr (P := Agree flag) (fun w' hw' => hw'.setWithin_flag d)
        (fun w' hw' => ?_) h.handlers h
      unfold Agree
      rw [bus_setWithin]
      exact hw'
  obtain ⟨d, rfl⟩ := Nat.exists_eq_add_of_le' hdepth
  exact htwo d

end Depth

/-! ## Plays of watched managers -/

structure Tells (labels : Nat → Option String) (p : ManagerPlay ModifiedListener)
    (w : WatchedUndoManager) : Prop where
  manager : p.manager = w.manager
  labelled : ∀ s ∈ w.manager.bus.subscriptions, labels s.id = some s.handler.label
  below : ∀ id, (labels id).isSome → id < w.manager.bus.nextId
  reached : ∀ n value id, .reached n value id ∈ p.past → (labels id).isSome
  heard : w.heard = p.past.filterMap (Moment.told? labels)

section Tells

variable {labels : Nat → Option String} {p : ManagerPlay ModifiedListener} {w : WatchedUndoManager}

theorem tells_start : Tells (fun _ => none) {} {} where
  manager := rfl
  labelled := fun _ hs => (List.not_mem_nil hs).elim
  below := fun _ hid => by cases hid
  reached := fun _ _ _ hm => (List.not_mem_nil hm).elim
  heard := rfl

/-- Moments at which nobody is reached, and after which there are no new subscriptions. -/
theorem Tells.endSome (h : Tells labels p w) {m : Moment ModifiedSignal Bool}
    (htold : ∀ n value id, m ≠ .reached n value id) {manager : UndoManager ModifiedListener}
    (hnext : manager.bus.nextId = w.manager.bus.nextId)
    (hsub : ∀ s ∈ manager.bus.subscriptions, s ∈ w.manager.bus.subscriptions) :
    Tells labels { manager, past := p.past ++ [m] } { w with manager } where
  manager := rfl
  labelled := fun s hs => h.labelled s (hsub s hs)
  below := fun id hid => hnext ▸ h.below id hid
  reached := by
    intro n value id hm
    rcases List.mem_append.1 hm with hold | hnew
    · exact h.reached n value id hold
    · exact absurd (List.mem_singleton.1 hnew).symm (htold n value id)
  heard := by
    show w.heard = (p.past ++ [m]).filterMap (Moment.told? labels)
    rw [List.filterMap_append, h.heard]
    simp [told_eq_none htold]

theorem Tells.note (h : Tells labels p w) {m : Moment ModifiedSignal Bool}
    (htold : ∀ n value id, m ≠ .reached n value id) : Tells labels (p.note m) w :=
  { h.endSome htold rfl fun _ hs => hs with manager := h.manager }

/-- A listener that is reached notes the value. -/
theorem Tells.hear (h : Tells labels p w) {s : Subscription ModifiedSignal ModifiedListener}
    (hlabel : labels s.id = some s.handler.label) (n : Nat) (modified : Bool) :
    Tells labels (p.note (.reached n modified s.id)) (w.hear s.handler modified) where
  manager := h.manager
  labelled := h.labelled
  below := h.below
  reached := by
    intro n' value id hm
    rcases List.mem_append.1 hm with hold | hnew
    · exact h.reached n' value id hold
    · cases List.mem_singleton.1 hnew
      rw [hlabel]
      rfl
  heard := by
    show w.heard ++ [(s.handler.label, modified)] =
      (p.past ++ [Moment.reached n modified s.id]).filterMap (Moment.told? labels)
    rw [List.filterMap_append, h.heard]
    simp [Moment.told?, hlabel]

/-- A new listener has a number that nobody had. -/
theorem Tells.subscribe (h : Tells labels p w) {listener : ModifiedListener} {id : Nat}
    {manager : UndoManager ModifiedListener}
    (hsubscribe : w.manager.subscribe listener = .ok (id, manager)) :
    Tells (fun id' => if id' = id then some listener.label else labels id')
      { manager, past := p.past ++ [.subscribed .modifiedChanged id] } { w with manager } := by
  obtain ⟨rfl, hnext, hsubs⟩ :=
    SignalBus.subscribe_spec (UndoManager.subscribe_spec hsubscribe).1
  have hsame : ∀ id', (labels id').isSome →
      (if id' = w.manager.bus.nextId then some listener.label else labels id') = labels id' :=
    fun id' hid => if_neg (Nat.ne_of_lt (h.below id' hid))
  have hlabelled : ∀ s ∈ w.manager.bus.subscriptions, (labels s.id).isSome := by
    intro s hs
    rw [h.labelled s hs]
    rfl
  refine ⟨rfl, fun s hs => ?_, fun id' hid => ?_, fun n value id' hm => ?_, ?_⟩
  · rcases List.mem_append.1 (hsubs ▸ hs) with hold | hnew
    · rw [hsame s.id (hlabelled s hold), h.labelled s hold]
    · rw [List.mem_singleton.1 hnew]
      exact if_pos rfl
  · show id' < manager.bus.nextId
    split at hid
    · omega
    · have hlt := h.below id' hid
      omega
  · rcases List.mem_append.1 hm with hold | hnew
    · have hknown := h.reached n value id' hold
      rwa [hsame id' hknown]
    · cases List.mem_singleton.1 hnew
  · show w.heard = List.filterMap _ (p.past ++ [_])
    rw [List.filterMap_append,
      told_congr fun n value id' hm => hsame id' (h.reached n value id' hm), h.heard]
    exact (List.append_nil _).symm

def Plays (labels : Nat → Option String) (act : WatchedUndoManager → WatchedUndoManager) : Prop :=
  ∀ p w, Tells labels p w → ∃ p', Managed .anyone p p' ∧ Tells labels p' (act w)

variable {act : Bool → WatchedUndoManager → WatchedUndoManager}

theorem Plays.react (hact : ∀ flag, Plays labels (act flag)) (h : Tells labels p w)
    {s : Subscription ModifiedSignal ModifiedListener}
    (hlabel : labels s.id = some s.handler.label) (n : Nat) (modified : Bool) :
    ∃ p', Managed .anyone (p.note (.reached n modified s.id)) p' ∧
      Tells labels p' (react act modified s.handler w) := by
  have hheard := h.hear hlabel n modified
  unfold WatchedUndoManager.react
  split
  · exact hact _ _ _ hheard
  · exact ⟨_, .rest _, hheard⟩

/-- An announcement reaches those who wait for it, one after the other. -/
theorem Plays.deliver (hact : ∀ flag, Plays labels (act flag)) (n : Nat) (modified : Bool)
    {waiting : List (Subscription ModifiedSignal ModifiedListener)} (h : Tells labels p w)
    (hwaiting : ∀ s ∈ waiting, labels s.id = some s.handler.label) :
    ∃ p', Managed (.handlers n modified waiting) p p' ∧
      Tells labels p' ((waiting.map (·.handler)).foldl
        (fun w listener => WatchedUndoManager.react act modified listener w) w) := by
  induction waiting generalizing p w with
  | nil => exact ⟨p, .allReached p, h⟩
  | cons s rest ih =>
      obtain ⟨q, hacts, hq⟩ := Plays.react hact h (hwaiting s List.mem_cons_self) n modified
      obtain ⟨p', hothers, hp'⟩ := ih hq fun s' hs' => hwaiting s' (List.mem_cons_of_mem _ hs')
      exact ⟨p', .reach hacts hothers, hp'⟩

theorem plays_setWithin (depth : Nat) (modified : Bool) :
    Plays labels (setWithin depth modified) := by
  induction depth generalizing modified with
  | zero => exact fun p w h => ⟨p, .rest p, h⟩
  | succ depth ih =>
      rintro ⟨-, past⟩ w ⟨rfl, hlabelled, hbelow, hreached, hheard⟩
      have h : Tells labels { manager := w.manager, past } w :=
        ⟨rfl, hlabelled, hbelow, hreached, hheard⟩
      rw [setWithin_succ]
      split
      · rename_i hsame
        have hkept : w.manager.setModified modified = (w.manager, false) := by
          simp [UndoManager.setModified, hsame]
        exact ⟨_, .keep hkept (.rest _), h⟩
      · rename_i hother
        have hchanged : w.manager.setModified modified = ({ w.manager with modified }, true) := by
          simp [UndoManager.setModified, hother]
        have hstart : Tells labels
            { manager := { w.manager with modified }, past := past ++ [.started modified] }
            { w with manager := { w.manager with modified } } :=
          h.endSome (by simp) rfl fun _ hs => hs
        obtain ⟨q, hduring, hq⟩ := Plays.deliver ih past.length modified hstart fun s hs =>
          hlabelled s (List.mem_filter.1 hs).1
        exact ⟨_, .change hchanged hduring (.rest _), hq.note (by simp)⟩

end Tells

inductive Arises : WatchedUndoManager → Prop where
  | new : Arises {}
  | subscribe {w w'} {listener : ModifiedListener} {id : Nat} (earlier : Arises w)
      (h : w.subscribe listener = .ok (id, w')) : Arises w'
  | unsubscribe {w} (earlier : Arises w) (id : Nat) : Arises (w.unsubscribe id)
  | set {w} (earlier : Arises w) (modified : Bool) : Arises (w.setModified modified)

theorem Arises.managed {w : WatchedUndoManager} (h : w.Arises) :
    ∃ p labels, Managed .anyone {} p ∧ Tells labels p w := by
  induction h with
  | new => exact ⟨{}, fun _ => none, .rest _, tells_start⟩
  | @subscribe w w' listener id _ hsubscribe ih =>
      obtain ⟨p, labels, hplay, htells⟩ := ih
      unfold WatchedUndoManager.subscribe at hsubscribe
      cases hmanager : w.manager.subscribe listener with
      | error cause =>
          rw [hmanager] at hsubscribe
          cases hsubscribe
      | ok result =>
          obtain ⟨id', manager⟩ := result
          rw [hmanager] at hsubscribe
          cases hsubscribe
          exact ⟨_, _, hplay.trans (.subscribe (htells.manager ▸ hmanager) (.rest _)),
            htells.subscribe hmanager⟩
  | @unsubscribe w _ id ih =>
      obtain ⟨p, labels, hplay, htells⟩ := ih
      have hended : Managed .anyone p
          { manager := p.manager.unsubscribe id
            past := p.past ++ [.unsubscribed .modifiedChanged id] } :=
        .unsubscribe (.rest _)
      refine ⟨_, labels, hplay.trans hended, ?_⟩
      rw [htells.manager]
      exact htells.endSome (by simp) rfl fun s hs => (List.mem_filter.1 hs).1
  | @set w _ modified ih =>
      obtain ⟨p, labels, hplay, htells⟩ := ih
      obtain ⟨p', hset, htells'⟩ := plays_setWithin _ modified p w htells
      exact ⟨p', labels, hplay.trans hset, htells'⟩

/-- Whatever listeners do while they run, what one of them heard last is the value of the flag just
if the flag was changed an even number of times since that announcement began and until it reached
the listener. Watched managers are plays of this sort, what their listeners noted is what the
announcements told them, and as long as those that set the flag agree on a value the bound on the
depth stops none of them. -/
theorem last_heard_right_iff {η : Type} (p : ManagerPlay η) (w : WatchedUndoManager) :
    (Managed .anyone {} p →
      ∀ s ∈ p.manager.bus.subscriptions, ∀ before n modified after,
        p.past = before ++ .reached n modified s.id :: after →
        (∀ m value, .reached m value s.id ∉ after) →
        (modified = p.manager.modified ↔ Even (changes (before.drop (n + 1))))) ∧
    (w.Arises →
      ∃ q labels, Managed .anyone {} q ∧ q.manager = w.manager ∧
        (∀ s ∈ w.manager.bus.subscriptions, labels s.id = some s.handler.label) ∧
        w.heard = q.past.filterMap (Moment.told? labels)) ∧
    ∀ flag modified, Agree flag w.manager →
      ∀ depth, 2 ≤ depth → setWithin depth modified w = w.setModified modified := by
  refine ⟨fun hplay s hs before n modified after hlast hnone =>
      hplay.settled.last_heard_iff hs hlast hnone, fun hw => ?_,
    fun flag modified hagree depth hdepth => hagree.setWithin_eq modified hdepth⟩
  obtain ⟨q, labels, hplay, htells⟩ := hw.managed
  exact ⟨q, labels, hplay, htells.manager, htells.labelled, htells.heard⟩

/-- The first of two listeners takes every change back. What it heard last is right, for it was the
first to be reached; the other one heard of the change only after it was taken back. -/
theorem last_heard_of_two :
    ∃ p : ManagerPlay Unit, Managed .anyone {} p ∧ p.manager.modified = false ∧
      p.past = [.subscribed .modifiedChanged 0, .subscribed .modifiedChanged 1, .started true,
        .reached 2 true 0, .started false, .reached 4 false 0, .reached 4 false 1, .finished 4,
        .reached 2 true 1, .finished 2] ∧
      (false = p.manager.modified ↔ Even (changes [])) ∧
      (true = p.manager.modified ↔ Even (changes [.reached 2 true 0, .started false,
        .reached 4 false 0, .reached 4 false 1, .finished 4])) := by
  let subscriptions : List (Subscription ModifiedSignal Unit) :=
    [⟨0, .modifiedChanged, ()⟩, ⟨1, .modifiedChanged, ()⟩]
  let past : List (Moment ModifiedSignal Bool) :=
    [.subscribed .modifiedChanged 0, .subscribed .modifiedChanged 1, .started true,
      .reached 2 true 0, .started false, .reached 4 false 0, .reached 4 false 1, .finished 4,
      .reached 2 true 1, .finished 2]
  let upTo (modified : Bool) (moments : Nat) : ManagerPlay Unit :=
    { manager := { modified, bus := { declared := [.modifiedChanged], subscriptions, nextId := 2 } }
      past := past.take moments }
  have hsubscribe : Managed .anyone {} (upTo false 2) :=
    .subscribe rfl (.subscribe rfl (.rest _))
  have hinner : Managed (.handlers 4 false subscriptions) (upTo false 5) (upTo false 7) :=
    .reach (.rest _) (.reach (.rest _) (.allReached _))
  have hcleared : (upTo true 4).manager.setModified false = ((upTo false 5).manager, true) := rfl
  have hback : Managed .anyone (upTo true 4) (upTo false 8) := .change hcleared hinner (.rest _)
  have houter : Managed (.handlers 2 true subscriptions) (upTo true 3) (upTo false 9) :=
    .reach hback (.reach (.rest _) (.allReached _))
  have hset : (upTo false 2).manager.setModified true = ((upTo true 3).manager, true) := rfl
  have hplay : Managed .anyone {} (upTo false 10) :=
    hsubscribe.trans (.change hset houter (.rest _))
  exact ⟨upTo false 10, hplay, rfl, rfl,
    (last_heard_right_iff _ {}).1 hplay ⟨0, .modifiedChanged, ()⟩ List.mem_cons_self
      (past.take 5) 4 false (past.drop 6) rfl (by simp [past]),
    (last_heard_right_iff _ {}).1 hplay ⟨1, .modifiedChanged, ()⟩ (by simp [upTo, subscriptions])
      (past.take 8) 2 true (past.drop 9) rfl (by simp [past])⟩

/-- The listener behind one that clears the flag again hears of the change last of all, although
the flag is clear. -/
theorem last_heard_wrong_behind_reaction :
    ∃ first second : WatchedUndoManager,
      ({} : WatchedUndoManager).subscribe { label := "a", setTo := some false } = .ok (0, first) ∧
      first.subscribe { label := "b" } = .ok (1, second) ∧
      (second.setModified true).heard =
        [("a", true), ("a", false), ("b", false), ("b", true)] ∧
      (second.setModified true).manager.modified = false :=
  ⟨_, _, rfl, rfl, by decide, by decide⟩

end WatchedUndoManager

end Coedit
