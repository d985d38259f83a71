import Coedit.Session.Event

/-!
# Style tracking

A tracker watches the style of the paragraph under the local cursor and announces it when
it differs from the style observed before.
-/

namespace Coedit

structure CurrentParagraph where
  paragraph : ParagraphRef
  style : StyleId
  deriving DecidableEq, Repr

structure StyleTracker where
  current : Option CurrentParagraph := none
  lastObserved : Option StyleId := none
  deriving DecidableEq, Repr

namespace StyleTracker

def currentParagraph (t : StyleTracker) : Option ParagraphRef := t.current.map (·.paragraph)

/-- Records an observation; the event is to be announced, if there is one. -/
def observe (t : StyleTracker) (paragraph : ParagraphRef) (style : StyleId) :
    StyleTracker × Option SessionEvent :=
  ({ current := some { paragraph, style }, lastObserved := some style },
    if t.lastObserved = some style then none
    else some (.paragraphChanged paragraph (.style style)))

def reset : StyleTracker := {}

end StyleTracker

/-- A tracker that announces on a bus. A handler hears the event together with the style
last observed, and resets the tracker if that is the style `resetOn`. -/
structure WatchedTracker where
  tracker : StyleTracker := {}
  bus : SignalBus SessionSignal Unit
  resetOn : Option StyleId := none
  heard : List (SessionEvent × Option StyleId) := []

namespace WatchedTracker

/-- A tracker on a bus of the given kinds, with the handler if its kind is declared. -/
def ofKinds (kinds : List SessionSignal) (resetOn : Option StyleId) : WatchedTracker :=
  let bus : SignalBus SessionSignal Unit := { declared := kinds }
  match bus.subscribe .paragraphChanged () with
  | .ok (_, bus) => { bus, resetOn }
  | .error _ => { bus, resetOn }

def hear (event : SessionEvent) (w : WatchedTracker) : WatchedTracker :=
  let last := w.tracker.lastObserved
  { w with
    heard := w.heard ++ [(event, last)]
    tracker := if w.resetOn.isSome && last == w.resetOn then .reset else w.tracker }

def observe (w : WatchedTracker) (paragraph : ParagraphRef) (style : StyleId) :
    Except SignalError Bool × WatchedTracker :=
  let (tracker, event) := w.tracker.observe paragraph style
  let w := { w with tracker }
  match event with
  | none => (.ok false, w)
  | some event =>
    match w.bus.emit event.signal (fun _ => hear event) w with
    | (.ok (), w) => (.ok true, w)
    | (.error e, w) => (.error e, w)

def reset (w : WatchedTracker) : WatchedTracker := { w with tracker := .reset }

end WatchedTracker

end Coedit
