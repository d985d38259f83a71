import Coedit.Proofs.Engine.ChangeLog
import Coedit.Proofs.Session.Position

/-!
# What a session says

A session hears of each batch after it was applied, and says something of most events: it repeats
the event under its own name, and may add that the style under the local cursor changed. What it
says of a run of batches is what it says of the deliveries, one after the other.
-/

namespace Coedit

/-- What a session calls an event that it passes on as it is. Changes of paragraphs are passed on
only if they concern the session, and changes of metadata never. -/
def EngineEvent.relayed? : EngineEvent → Option SessionEvent
  | memberAdded m => some (.memberAdded m)
  | memberUpdated m => some (.memberUpdated m)
  | memberRemoved m => some (.memberRemoved m)
  | cursorAdded m => some (.cursorAdded m)
  | cursorMoved m => some (.cursorMoved m)
  | cursorRemoved m => some (.cursorRemoved m)
  | styleCreated style => some (.styleCreated style)
  | styleDeleted style => some (.styleDeleted style)
  | paragraphStyleModified style => some (.styleModified style)
  | undoStackChanged => some .undoStackChanged
  | paragraphChanged _ _ | metadataChanged _ _ => none

def EngineEvent.isMetadata : EngineEvent → Bool
  | metadataChanged _ _ => true
  | _ => false

namespace SessionEvent

def isParagraph : SessionEvent → Bool
  | paragraphChanged _ _ => true
  | _ => false

def isStyle : SessionEvent → Bool
  | paragraphChanged _ (.style _) => true
  | _ => false

/-- What may prompt a session to look at the style under the cursor of its member. -/
def prompts (member : MemberId) : SessionEvent → Bool
  | cursorAdded m | cursorMoved m => m = member
  | paragraphChanged _ .content => true
  | _ => false

/-- Every news of a style comes right after what prompted it. -/
def Prompted (member : MemberId) (said : List SessionEvent) : Prop :=
  ∀ before p style after, said = before ++ paragraphChanged p (.style style) :: after →
    ∃ earlier prompt, before = earlier ++ [prompt] ∧ prompt.prompts member = true

theorem prompted_nil (member : MemberId) : Prompted member [] := by
  intro before p style after h
  simp at h

theorem Prompted.append {member : MemberId} {said more : List SessionEvent}
    (h : Prompted member said) (hmore : Prompted member more) : Prompted member (said ++ more) := by
  intro before p style after heq
  rcases List.append_eq_append_iff.1 heq with ⟨between, rfl, hlater⟩ | ⟨between, rfl, hlater⟩
  · obtain ⟨earlier, prompt, rfl, hprompt⟩ := hmore between p style after hlater
    exact ⟨said ++ earlier, prompt, (List.append_assoc _ _ _).symm, hprompt⟩
  · cases between with
    | nil =>
        obtain ⟨earlier, prompt, hnil, -⟩ := hmore [] p style after hlater.symm
        simp at hnil
    | cons event rest =>
        obtain ⟨rfl, rfl⟩ := List.cons_eq_cons.1 hlater
        exact h before p style rest rfl

theorem Prompted.flatMap {α : Type} {member : MemberId} {f : α → List SessionEvent} {l : List α}
    (h : ∀ a ∈ l, Prompted member (f a)) : Prompted member (l.flatMap f) := by
  induction l with
  | nil => exact prompted_nil member
  | cons a rest ih =>
      exact (h a List.mem_cons_self).append (ih fun b hb => h b (List.mem_cons_of_mem _ hb))

end SessionEvent

namespace SessionCore

def sayAll (r : Replica) : List Reaction → SessionCore → List SessionEvent
  | [], _ => []
  | reaction :: rest, s => (s.react r reaction).2.toList ++ sayAll r rest (s.react r reaction).1

def say (r : Replica) (s : SessionCore) (event : EngineEvent) : List SessionEvent :=
  sayAll r (s.reactions r event) s

/-- Looking at a paragraph, a session says at most what its style is. -/
theorem react_looks (s : SessionCore) (r : Replica) {look : Reaction}
    (h : look = .followCursor ∨ look = .recheck) :
    (s.react r look).2 = none ∨
      ∃ p style, (s.react r look).2 = some (.paragraphChanged p (.style style)) := by
  have hobserve (info : ParagraphInfo) : (s.observe r info).2 = none ∨
      ∃ p style, (s.observe r info).2 = some (.paragraphChanged p (.style style)) := by
    unfold observe StyleTracker.observe
    simp only
    split
    · exact .inl rfl
    · exact .inr ⟨_, _, rfl⟩
  rcases h with rfl | rfl
  all_goals
    simp only [react]
    split
    · exact hobserve _
    · exact .inl rfl

/-- What is said of an event with this echo: the echo, if there is one, and what the session sees
if the echo prompts it to look. -/
inductive Saying (member : MemberId) (echo? : Option SessionEvent) : List SessionEvent → Prop where
  | plain : Saying member echo? echo?.toList
  | looked (echo : SessionEvent) (p : ParagraphRef) (style : StyleId) (hecho : echo? = some echo)
      (hprompt : echo.prompts member = true) :
      Saying member echo? [echo, .paragraphChanged p (.style style)]

theorem saying_looking (s : SessionCore) (r : Replica) {echo : SessionEvent} {look : Reaction}
    (hlook : look = .followCursor ∨ look = .recheck) (hprompt : echo.prompts s.member = true) :
    Saying s.member (some echo) (sayAll r [.announce echo, look] s) := by
  have hspoken : sayAll r [.announce echo, look] s = echo :: (s.react r look).2.toList := by
    simp [sayAll, show s.react r (.announce echo) = (s, some echo) from rfl]
  rw [hspoken]
  rcases s.react_looks r hlook with hnone | ⟨p, style, hsome⟩
  · rw [hnone]
    exact .plain
  · rw [hsome]
    exact .looked echo p style rfl hprompt

/-- A session says nothing when it resets its tracker. -/
theorem sayAll_resetting (s : SessionCore) (r : Replica) (echo : SessionEvent) (m : MemberId) :
    sayAll r (s.ifLocal m .resetTracker ++ [.announce echo]) s = [echo] := by
  unfold ifLocal
  split <;> rfl

end SessionCore

/-- An engine event on its way to a session: what the session knows when the event arrives, and the
document as it is then. -/
structure Delivery where
  event : EngineEvent
  core : SessionCore
  replica : Replica

namespace Delivery

def said (d : Delivery) : List SessionEvent := d.core.say d.replica d.event

/-- What the session repeats. Of a change of a paragraph it says that the content changed, if the
paragraph meets the local selection or is the one tracked. -/
def echo? (d : Delivery) : Option SessionEvent :=
  match d.event with
  | .paragraphChanged p _ =>
    if d.core.concerns d.replica p then some (.paragraphChanged p .content) else none
  | event => event.relayed?

/-- A session repeats an event and then, if that prompts it to look, may add what it sees. -/
theorem saying_said (d : Delivery) : SessionCore.Saying d.core.member d.echo? d.said := by
  obtain ⟨event, s, r⟩ := d
  unfold said echo? SessionCore.say
  cases event with
  | cursorAdded m | cursorMoved m =>
      simp only [SessionCore.reactions, SessionCore.ifLocal, SessionCore.isLocal, beq_iff_eq]
      split
      · rename_i hm
        exact s.saying_looking r (.inl rfl) (by simpa [SessionEvent.prompts] using hm)
      · exact .plain
  | paragraphChanged p m =>
      simp only [SessionCore.reactions]
      split
      · exact s.saying_looking r (.inr rfl) rfl
      · exact .plain
  | memberRemoved m =>
      simp only [SessionCore.reactions, SessionCore.sayAll_resetting]
      exact .plain
  | cursorRemoved m =>
      simp only [SessionCore.reactions, SessionCore.sayAll_resetting]
      exact .plain
  | _ => exact .plain

/-- Of what is said, anything but news of styles is the echo. -/
theorem filter_saying {member : MemberId} {echo? : Option SessionEvent} {said : List SessionEvent}
    (h : SessionCore.Saying member echo? said) {keep : SessionEvent → Bool}
    (hstyle : ∀ p style, keep (.paragraphChanged p (.style style)) = false) :
    said.filter keep = echo?.toList.filter keep := by
  cases h with
  | plain => rfl
  | looked echo p style hecho hprompt =>
      rw [hecho, Option.toList_some, List.filter_cons, List.filter_cons, List.filter_cons,
        hstyle p style]
      rfl

theorem isStyle_of_echo? {d : Delivery} {echo : SessionEvent} (h : d.echo? = some echo) :
    echo.isStyle = false := by
  obtain ⟨event, s, r⟩ := d
  unfold echo? at h
  cases event with
  | paragraphChanged p m =>
      simp only at h
      split at h
      · obtain rfl := Option.some.inj h
        rfl
      · cases h
  | metadataChanged => cases h
  | _ =>
      obtain rfl := Option.some.inj h
      rfl

theorem filter_said_of_style (d : Delivery) :
    d.said.filter (fun event => !event.isStyle) = d.echo?.toList := by
  rw [filter_saying d.saying_said fun _ _ => rfl]
  cases hecho : d.echo? with
  | none => rfl
  | some echo =>
      simp [isStyle_of_echo? hecho]

theorem filter_said_of_paragraph (d : Delivery) :
    d.said.filter (fun event => !event.isParagraph) = d.event.relayed?.toList := by
  rw [filter_saying d.saying_said fun _ _ => rfl]
  unfold echo?
  cases d.event with
  | paragraphChanged p m =>
      simp only
      split <;> rfl
  | _ => rfl

/-- News of a style stands second in what is said of an event, after the echo that prompted it. -/
theorem prompted_said (d : Delivery) : SessionEvent.Prompted d.core.member d.said := by
  intro before p style after heq
  have hsaying := d.saying_said
  rw [heq] at hsaying
  generalize hsaid : before ++ SessionEvent.paragraphChanged p (.style style) :: after = said
    at hsaying
  cases hsaying with
  | plain =>
      have hmem : SessionEvent.paragraphChanged p (.style style) ∈ d.echo?.toList := by
        rw [← hsaid]
        simp
      have hecho := isStyle_of_echo? (Option.mem_toList.1 hmem)
      cases hecho
  | looked echo q other hecho hprompt =>
      match before with
      | [] =>
          obtain ⟨rfl, -⟩ := List.cons_eq_cons.1 hsaid
          cases hprompt
      | [first] =>
          obtain ⟨rfl, -⟩ := List.cons_eq_cons.1 hsaid
          exact ⟨[], first, rfl, hprompt⟩
      | first :: second :: rest => simp at hsaid

end Delivery

namespace SessionCore

/-! ## A run of batches -/

/-- The deliveries of some events, while the document stays as it is. -/
def deliveries (r : Replica) : SessionCore → List EngineEvent → List Delivery
  | _, [] => []
  | s, event :: rest => { event, core := s, replica := r } :: deliveries r (s.hear r event) rest

/-- The deliveries of what is heard of some batches, applied one after the other. -/
def relays (heard : List EngineEvent → List EngineEvent) :
    SessionCore × Replica → List Batch → List Delivery
  | _, [] => []
  | s, batch :: rest =>
    deliveries (s.2.applyBatch batch).1 s.1 (heard (s.2.applyBatch batch).2) ++
      relays heard (follow heard s batch) rest

variable {heard : List EngineEvent → List EngineEvent}

theorem event_deliveries (r : Replica) (s : SessionCore) (events : List EngineEvent) :
    (deliveries r s events).map (·.event) = events := by
  induction events generalizing s with
  | nil => rfl
  | cons event rest ih =>
      rw [deliveries, List.map_cons, ih]

theorem deliveries_append (r : Replica) (s : SessionCore) (events later : List EngineEvent) :
    deliveries r s (events ++ later) =
      deliveries r s events ++ deliveries r (events.foldl (hear r) s) later := by
  induction events generalizing s with
  | nil => rfl
  | cons event rest ih =>
      rw [List.cons_append, deliveries, deliveries, ih]
      rfl

/-- What is delivered is what is heard of the history of the document. -/
theorem event_relays {keep : EngineEvent → Bool}
    (hheard : ∀ events, heard events = events.filter keep)
    (s : SessionCore × Replica) (batches : List Batch) :
    (relays heard s batches).map (·.event) = (s.2.history batches).filter keep := by
  induction batches generalizing s with
  | nil => rfl
  | cons batch rest ih =>
      rw [relays, List.map_append, event_deliveries, ih, hheard, Replica.history,
        List.filter_append]
      rfl

theorem member_deliveries {r : Replica} {s : SessionCore} {events : List EngineEvent} {d : Delivery}
    (h : d ∈ deliveries r s events) : d.core.member = s.member := by
  induction events generalizing s with
  | nil => cases h
  | cons event rest ih =>
      rcases List.mem_cons.1 h with rfl | h
      · rfl
      · exact (ih h).trans (member_hear r s event)

theorem member_relays {s : SessionCore × Replica} {batches : List Batch} {d : Delivery}
    (h : d ∈ relays heard s batches) : d.core.member = s.1.member := by
  induction batches generalizing s with
  | nil => cases h
  | cons batch rest ih =>
      rcases List.mem_append.1 h with h | h
      · exact member_deliveries h
      · exact (ih h).trans (member_hearAll _ s.1 _)

theorem relays_append (s : SessionCore × Replica) (batches later : List Batch) :
    relays heard s (batches ++ later) =
      relays heard s batches ++ relays heard (batches.foldl (follow heard) s) later := by
  induction batches generalizing s with
  | nil => rfl
  | cons batch rest ih =>
      rw [List.cons_append, relays, ih, relays, List.append_assoc]
      rfl

/-! ## Reservations do not matter -/

theorem Alike.spoken {s s' : SessionCore} (h : Alike s s') (r : Replica) (reaction : Reaction) :
    (s'.react r reaction).2 = (s.react r reaction).2 := by
  cases reaction with
  | followCursor =>
      have hcursor : s'.cursor? r = s.cursor? r := by rw [cursor?, cursor?, h.member]
      simp only [SessionCore.react, hcursor, observe, h.tracker]
      cases (s.cursor? r).bind fun c => r.document.paragraphAt? c.position <;> rfl
  | recheck =>
      simp only [SessionCore.react, observe, h.tracker]
      cases s.tracker.currentParagraph.bind r.document.paragraph? <;> rfl
  | _ => rfl

theorem Alike.sayAll {s s' : SessionCore} (h : Alike s s') (r : Replica)
    (reactions : List Reaction) : sayAll r reactions s' = sayAll r reactions s := by
  induction reactions generalizing s s' with
  | nil => rfl
  | cons reaction rest ih =>
      unfold SessionCore.sayAll
      rw [h.spoken, ih (h.react r reaction)]

theorem Alike.said {s s' : SessionCore} (h : Alike s s') (r : Replica) (event : EngineEvent) :
    s'.say r event = s.say r event := by
  have hreactions : s'.reactions r event = s.reactions r event := by
    unfold reactions ifLocal isLocal concerns
    rw [h.member, h.tracker]
  unfold say
  rw [hreactions]
  exact h.sayAll r _

theorem Alike.saidOfAll {s s' : SessionCore} (h : Alike s s') (r : Replica)
    (events : List EngineEvent) :
    (deliveries r s' events).flatMap (·.said) = (deliveries r s events).flatMap (·.said) := by
  induction events generalizing s s' with
  | nil => rfl
  | cons event rest ih =>
      have hfirst : s'.say r event = s.say r event := h.said r event
      rw [deliveries, deliveries, List.flatMap_cons, List.flatMap_cons, ih (h.hear r event)]
      simp only [Delivery.said, hfirst]

/-- What a session says does not depend on its reservations. -/
theorem Alike.relays {s s' : SessionCore} (h : Alike s s') (r : Replica) (batches : List Batch) :
    (relays heard (s', r) batches).flatMap (·.said) =
      (relays heard (s, r) batches).flatMap (·.said) := by
  induction batches generalizing s s' r with
  | nil => rfl
  | cons batch rest ih =>
      rw [SessionCore.relays, SessionCore.relays, List.flatMap_append, List.flatMap_append,
        h.saidOfAll]
      exact congrArg _ (ih (h.hearAll (r.applyBatch batch).1 (heard (r.applyBatch batch).2)) _)

end SessionCore

/-- How what a session says is made of what happens to the document. It says everything under its
own name but changes of paragraphs and of metadata; a change of a paragraph it repeats in its place,
once, if it concerns the session when it is delivered; and news of styles it adds when prompted. -/
structure Relayed (member : MemberId) (happened : List EngineEvent) (deliveries : List Delivery)
    (said : List SessionEvent) : Prop where
  delivered : deliveries.map (·.event) = happened.filter fun event => !event.isMetadata
  renamed : said.filter (fun event => !event.isParagraph) = happened.filterMap (·.relayed?)
  echoed : said.filter (fun event => !event.isStyle) = deliveries.filterMap (·.echo?)
  prompted : SessionEvent.Prompted member said

theorem relayed_relays {heard : List EngineEvent → List EngineEvent}
    (hheard : ∀ events, heard events = events.filter fun event => !event.isMetadata)
    (s : SessionCore) (r : Replica) (batches : List Batch) :
    let deliveries := SessionCore.relays heard (s, r) batches
    Relayed s.member (r.history batches) deliveries (deliveries.flatMap (·.said)) := by
  intro deliveries
  have hdelivered : deliveries.map (·.event) = _ := SessionCore.event_relays hheard (s, r) batches
  refine ⟨hdelivered, ?_, ?_, ?_⟩
  · have hunnamed : (r.history batches).filterMap (·.relayed?) =
        ((r.history batches).filter fun event => !event.isMetadata).filterMap (·.relayed?) := by
      rw [List.filterMap_filter]
      refine List.filterMap_congr fun event _ => ?_
      cases event <;> rfl
    rw [hunnamed, ← hdelivered, List.filterMap_map, List.filter_flatMap]
    simp only [Delivery.filter_said_of_paragraph]
    exact (List.filterMap_eq_flatMap_toList _ _).symm
  · rw [List.filter_flatMap]
    simp only [Delivery.filter_said_of_style]
    rw [← List.filterMap_eq_flatMap_toList]
  · refine SessionEvent.Prompted.flatMap fun d hd => ?_
    have hmember := SessionCore.member_relays hd
    rw [← show d.core.member = s.member from hmember]
    exact d.prompted_said

theorem Sight.pair_run {heard : List EngineEvent → List EngineEvent} (v : Sight)
    (batches : List Batch) :
    ((batches.foldl (Sight.follow heard) v).core, (batches.foldl (Sight.follow heard) v).replica) =
      batches.foldl (SessionCore.follow heard) (v.core, v.replica) := by
  induction batches generalizing v with
  | nil => rfl
  | cons batch rest ih => exact ih (v.follow heard batch)

end Coedit
