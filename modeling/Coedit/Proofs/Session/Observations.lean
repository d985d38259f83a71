import Coedit.Session.Tracker
import Mathlib.Data.List.Induction

/-!
# What a tracker announces

A tracker remembers its last observation since it was reset, and nothing before that. It announces
an observation just if it is the first one, or the one before it had another style. On a bus that
does not declare the kind of event the announcement is refused, and the observation is remembered
all the same.
-/

namespace Coedit

inductive TrackerCall where
  | observe (seen : CurrentParagraph)
  | reset
  deriving DecidableEq, Repr

namespace TrackerCall

def observation? : TrackerCall → Option CurrentParagraph
  | observe seen => some seen
  | reset => none

def last? (calls : List TrackerCall) : Option CurrentParagraph :=
  ((calls.reverse.takeWhile (· ≠ reset)).filterMap observation?).head?

/-- Whether an observation after these calls is the first one since the last reset, or has another
style than the one before it. -/
def isNews (calls : List TrackerCall) (seen : CurrentParagraph) : Bool :=
  (last? calls).all (·.style ≠ seen.style)

/-- The observations among `calls` that are news, when the calls of `past` were made before. -/
def newsAfter (past : List TrackerCall) : List TrackerCall → List CurrentParagraph
  | [] => []
  | call :: rest =>
    (call.observation?.filter (isNews past)).toList ++ newsAfter (past ++ [call]) rest

def news (calls : List TrackerCall) : List CurrentParagraph := newsAfter [] calls

theorem last?_concat (calls : List TrackerCall) (call : TrackerCall) :
    last? (calls ++ [call]) = call.observation? := by
  unfold last?
  rw [List.reverse_concat, List.takeWhile_cons]
  cases call with
  | observe seen => rfl
  | reset => rfl

theorem newsAfter_concat (past calls : List TrackerCall) (call : TrackerCall) :
    newsAfter past (calls ++ [call]) =
      newsAfter past calls ++ (call.observation?.filter (isNews (past ++ calls))).toList := by
  induction calls generalizing past with
  | nil => simp [newsAfter]
  | cons first rest ih => simp [newsAfter, ih]

theorem news_concat (calls : List TrackerCall) (call : TrackerCall) :
    news (calls ++ [call]) =
      news calls ++ (call.observation?.filter (isNews calls)).toList :=
  newsAfter_concat [] calls call

theorem isNews_eq_false_iff {calls : List TrackerCall} {seen : CurrentParagraph} :
    isNews calls seen = false ↔ (last? calls).map (·.style) = some seen.style := by
  unfold isNews
  cases last? calls <;> simp

end TrackerCall

def CurrentParagraph.announcement (seen : CurrentParagraph) : SessionEvent :=
  .paragraphChanged seen.paragraph (.style seen.style)

namespace WatchedTracker

def remember (w : WatchedTracker) (seen : CurrentParagraph) : WatchedTracker :=
  { w with tracker := { current := some seen, lastObserved := some seen.style } }

/-- What the subscribers of a bus hear of an observation, if they only listen. -/
def hearing (bus : SignalBus SessionSignal Unit) (seen : CurrentParagraph) :
    List (SessionEvent × Option StyleId) :=
  List.replicate (bus.subscriberCount .paragraphChanged) (seen.announcement, some seen.style)

/-- Handlers that do not reset the tracker hear an event once each, and do nothing else. -/
theorem foldl_hear {w : WatchedTracker} (h : w.resetOn = none) (event : SessionEvent)
    (handlers : List Unit) :
    handlers.foldl (fun w _ => hear event w) w =
      { w with heard := w.heard ++
          List.replicate handlers.length (event, w.tracker.lastObserved) } := by
  induction handlers generalizing w with
  | nil => simp
  | cons handler rest ih =>
      have hheard : hear event w =
          { w with heard := w.heard ++ [(event, w.tracker.lastObserved)] } := by
        simp [hear, h]
      rw [List.foldl_cons, hheard, ih (by exact h)]
      simp [List.replicate_succ]

/-- The ways in which an observation ends: it has the style last observed, it is announced, or its
announcement is refused. It is remembered in each case. -/
inductive Observed (w : WatchedTracker) (seen : CurrentParagraph) :
    Except SignalError Bool × WatchedTracker → Prop where
  | alike (h : w.tracker.lastObserved = some seen.style) :
      Observed w seen (.ok false, w.remember seen)
  | announced (h : w.tracker.lastObserved ≠ some seen.style)
      (hdeclared : w.bus.isDeclared .paragraphChanged = true) :
      Observed w seen
        (.ok true, { w.remember seen with heard := w.heard ++ hearing w.bus seen })
  | refused (h : w.tracker.lastObserved ≠ some seen.style)
      (hdeclared : w.bus.isDeclared .paragraphChanged = false) :
      Observed w seen (.error (.invalidSignalKind "ParagraphChanged"), w.remember seen)

theorem observed_observe {w : WatchedTracker} (h : w.resetOn = none) (seen : CurrentParagraph) :
    w.Observed seen (w.observe seen.paragraph seen.style) := by
  unfold observe StyleTracker.observe
  by_cases halike : w.tracker.lastObserved = some seen.style
  · simp only [if_pos halike]
    exact .alike halike
  · simp only [if_neg halike, SessionEvent.signal]
    cases hdeclared : w.bus.isDeclared .paragraphChanged with
    | true =>
        have hemit : w.bus.emit .paragraphChanged (fun _ => hear seen.announcement)
            (w.remember seen) =
              (.ok (), { w.remember seen with heard := w.heard ++ hearing w.bus seen }) := by
          simp only [SignalBus.emit, SignalBus.checkDeclared, hdeclared, if_true,
            SignalBus.deliver]
          rw [foldl_hear (w := w.remember seen) h]
          rfl
        simp only [CurrentParagraph.announcement, remember] at hemit
        rw [hemit]
        exact .announced halike hdeclared
    | false =>
        rw [SignalBus.emit_of_undeclared hdeclared]
        exact .refused halike hdeclared

def call (w : WatchedTracker) : TrackerCall → Option (Except SignalError Bool) × WatchedTracker
  | .observe seen => ((w.observe seen.paragraph seen.style).map some id)
  | .reset => (none, w.reset)

def after (w : WatchedTracker) (calls : List TrackerCall) : WatchedTracker :=
  calls.foldl (fun w c => (w.call c).2) w

theorem after_concat (w : WatchedTracker) (calls : List TrackerCall) (c : TrackerCall) :
    w.after (calls ++ [c]) = ((w.after calls).call c).2 := by
  simp [after]

/-- What a tracker is like after calls, if its subscribers only listen: it has the last observation
since the last reset, and its subscribers heard what was news, if their bus declares the event. -/
structure Remembers (bus : SignalBus SessionSignal Unit) (calls : List TrackerCall)
    (w : WatchedTracker) : Prop where
  bus_eq : w.bus = bus
  listening : w.resetOn = none
  current : w.tracker.current = TrackerCall.last? calls
  lastObserved : w.tracker.lastObserved = (TrackerCall.last? calls).map (·.style)
  heard : w.heard =
    if bus.isDeclared .paragraphChanged then (TrackerCall.news calls).flatMap (hearing bus) else []

open TrackerCall

section Remembers

variable {bus : SignalBus SessionSignal Unit} {calls : List TrackerCall} {w : WatchedTracker}

theorem Remembers.isNews_iff (h : Remembers bus calls w) (seen : CurrentParagraph) :
    isNews calls seen = true ↔ w.tracker.lastObserved ≠ some seen.style := by
  rw [← Bool.not_eq_false, ne_eq, isNews_eq_false_iff, h.lastObserved]

/-- An observation is remembered, whatever is heard of it. -/
theorem Remembers.observed (h : Remembers bus calls w) (seen : CurrentParagraph)
    {heard : List (SessionEvent × Option StyleId)}
    (hheard : heard = if bus.isDeclared .paragraphChanged then
      (news (calls ++ [.observe seen])).flatMap (hearing bus) else []) :
    Remembers bus (calls ++ [.observe seen]) { w.remember seen with heard } where
  bus_eq := h.bus_eq
  listening := h.listening
  current := by
    rw [last?_concat]
    rfl
  lastObserved := by
    rw [last?_concat]
    rfl
  heard := hheard

theorem Remembers.reset (h : Remembers bus calls w) :
    Remembers bus (calls ++ [.reset]) w.reset where
  bus_eq := h.bus_eq
  listening := h.listening
  current := by
    rw [last?_concat]
    rfl
  lastObserved := by
    rw [last?_concat]
    rfl
  heard := by
    have hsame : news (calls ++ [.reset]) = news calls := by simp [news_concat, observation?]
    rw [hsame]
    exact h.heard

/-- One more call leaves a tracker with one more call to remember. -/
theorem Remembers.call (h : Remembers bus calls w) (c : TrackerCall) :
    Remembers bus (calls ++ [c]) (w.call c).2 := by
  cases c with
  | reset => exact h.reset
  | observe seen =>
      have hobserved := observed_observe h.listening seen
      have hnews := h.isNews_iff seen
      show Remembers bus _ (w.observe seen.paragraph seen.style).2
      generalize w.observe seen.paragraph seen.style = answered at hobserved
      cases hobserved with
      | alike halike =>
          refine h.observed seen ?_
          have hold : isNews calls seen = false := by simp [← Bool.not_eq_true, hnews, halike]
          have hsame : news (calls ++ [.observe seen]) = news calls := by
            simp [news_concat, observation?, Option.filter, hold]
          rw [hsame]
          exact h.heard
      | announced hnew hdeclared =>
          refine h.observed seen ?_
          have hmore : news (calls ++ [.observe seen]) = news calls ++ [seen] := by
            simp [news_concat, observation?, Option.filter, hnews.2 hnew]
          rw [h.bus_eq] at hdeclared
          rw [hmore, h.heard, h.bus_eq, if_pos hdeclared, if_pos hdeclared, List.flatMap_append,
            List.flatMap_singleton]
      | refused hnew hundeclared =>
          refine h.observed seen ?_
          rw [h.bus_eq] at hundeclared
          have hsilent : w.heard = [] := by rw [h.heard, hundeclared]; rfl
          rw [hundeclared]
          exact hsilent

/-- Calls leave a tracker that remembers them. -/
theorem remembers_after (bus : SignalBus SessionSignal Unit) (calls : List TrackerCall) :
    Remembers bus calls (({ bus } : WatchedTracker).after calls) := by
  induction calls using List.reverseRecOn with
  | nil => exact ⟨rfl, rfl, rfl, rfl, by simp [after, news, newsAfter]⟩
  | append_singleton calls c ih =>
      rw [after_concat]
      exact ih.call c

end Remembers

/-- After all calls a tracker has the last observation since the last reset, and its style. Its
subscribers heard, in order and once each, the observations that were news, with paragraph and
style, if the bus declares the event. The next observation is answered with yes just if it is news,
and on a bus that does not declare the event with an error then. -/
theorem style_changes_announced (bus : SignalBus SessionSignal Unit) (calls : List TrackerCall) :
    let w := ({ bus } : WatchedTracker).after calls
    w.tracker.current = last? calls ∧
      w.tracker.lastObserved = (last? calls).map (·.style) ∧
      (w.heard = if bus.isDeclared .paragraphChanged then
        (news calls).flatMap (hearing bus) else []) ∧
      ∀ seen : CurrentParagraph, (w.observe seen.paragraph seen.style).1 =
        if isNews calls seen then
          if bus.isDeclared .paragraphChanged then .ok true
          else .error (.invalidSignalKind "ParagraphChanged")
        else .ok false := by
  intro w
  have hremembers : Remembers bus calls w := remembers_after bus calls
  refine ⟨hremembers.current, hremembers.lastObserved, hremembers.heard, fun seen => ?_⟩
  have hobserved := observed_observe hremembers.listening seen
  have hnews := hremembers.isNews_iff seen
  generalize w.observe seen.paragraph seen.style = answered at hobserved
  cases hobserved with
  | alike halike => simp [hnews, halike]
  | announced hnew hdeclared =>
      rw [hremembers.bus_eq] at hdeclared
      rw [if_pos (hnews.2 hnew), if_pos hdeclared]
  | refused hnew hundeclared =>
      rw [hremembers.bus_eq] at hundeclared
      rw [if_pos (hnews.2 hnew), hundeclared]
      rfl

/-- A move to a paragraph of the same style is no news. The default style is, at first and after a
reset. -/
example :
    news [.observe ⟨1, .default⟩, .observe ⟨2, .default⟩, .observe ⟨1, ⟨"A"⟩⟩, .reset,
      .observe ⟨1, ⟨"A"⟩⟩, .reset, .reset, .observe ⟨3, .default⟩] =
      [⟨1, .default⟩, ⟨1, ⟨"A"⟩⟩, ⟨1, ⟨"A"⟩⟩, ⟨3, .default⟩] := by
  decide +kernel

end WatchedTracker

end Coedit
