import Coedit.Proofs.Session.Submission
import Coedit.Proofs.Session.Tracking
import Coedit.Proofs.Workspace.Upshot

/-!
# When the tracked style is stale

Whatever batches the members submit, a session has seen what applying them one after the other
lets it see, however they were queued and flushed. What it tracks is what the tracked paragraph
resolved to when it last looked, so the tracked style is stale just if that has changed since.
-/

namespace Coedit

/-- Commands that submit batches or apply them, that ask, or that subscribe to the session without
calling back. -/
def Command.submits : Command → Bool
  | .engine (.enqueue _) | .engine .flush | .engine (.setImmediate _) | .engine (.ask _) => true
  | .session (.edit _) | .session (.ask _) => true
  | .watchSession _ _ actions _ => actions.isEmpty
  | _ => false

namespace Workspace

structure Follows (id : Nat) (v : Sight) (w : Workspace) : Prop where
  replica : w.engine.replica = v.replica
  known : ∃ core, Knows id core w ∧ SessionCore.Alike v.core core

/-- Some batches were accepted, and the first batches of the queue applied; every session heard of
that. -/
structure Progress (accepted applied : List Batch) (w w' : Workspace) : Prop where
  quiet : w'.Quiet
  bus : w'.engine.bus = w.engine.bus
  submitted : w'.engine.submitted = w.engine.submitted ++ accepted
  queue : w.engine.pending ++ accepted = applied ++ w'.engine.pending
  replica : w'.engine.replica =
    applied.foldl (fun r batch => (r.applyBatch batch).1) w.engine.replica
  follows : ∀ id v, Follows id v w →
    Follows id (applied.foldl (Sight.follow (heardBy w.engine.bus id)) v) w'

theorem Progress.trans {accepted applied accepted' applied' : List Batch} {w w' w'' : Workspace}
    (h : Progress accepted applied w w') (h' : Progress accepted' applied' w' w'') :
    Progress (accepted ++ accepted') (applied ++ applied') w w'' where
  quiet := h'.quiet
  bus := h'.bus.trans h.bus
  submitted := by rw [h'.submitted, h.submitted, List.append_assoc]
  queue := by
    rw [← List.append_assoc, h.queue, List.append_assoc, h'.queue, List.append_assoc]
  replica := by rw [h'.replica, h.replica, List.foldl_append]
  follows := by
    intro id v hv
    have hfirst := h'.follows id _ (h.follows id v hv)
    rw [h.bus] at hfirst
    rw [List.foldl_append]
    exact hfirst

/-- Nothing is accepted or applied, and no session tracks otherwise than before. -/
theorem progress_of_follows {w w' : Workspace} (hquiet : w'.Quiet) (hengine : w'.engine = w.engine)
    (hfollows : ∀ id v, Follows id v w → Follows id v w') : Progress [] [] w w' where
  quiet := hquiet
  bus := by rw [hengine]
  submitted := by rw [hengine, List.append_nil]
  queue := by rw [hengine, List.append_nil, List.nil_append]
  replica := by rw [hengine]; rfl
  follows := hfollows

theorem Progress.refl {w : Workspace} (h : w.Quiet) : Progress [] [] w w :=
  progress_of_follows h rfl fun _ _ hv => hv

/-! ## Submitting and flushing -/

theorem progress_flush {w : Workspace} (h : w.Quiet) :
    Progress [] w.engine.pending w (w.flush conduct) := by
  have hheard := heard_flush h
  have hengine : (w.flush conduct).engine = drained w.engine := hheard.engine
  refine ⟨hheard.quiet, by rw [hengine]; rfl, by rw [hengine]; exact (List.append_nil _).symm,
    by rw [hengine]; rfl, by rw [hengine]; rfl, ?_⟩
  intro id v hv
  obtain ⟨core, hcore, halike⟩ := hv.known
  have hknows := knows_flush h hcore
  rw [hv.replica] at hknows
  refine ⟨?_, _, hknows, Sight.alike_run halike _⟩
  rw [hengine, Sight.replica_run, ← hv.replica]
  rfl

theorem progress_queued {w : Workspace} (h : w.Quiet) (batch : Batch) :
    Progress [batch] [] w { w with engine := Agenda.queued w.engine batch } where
  quiet := h
  bus := rfl
  submitted := rfl
  queue := rfl
  replica := rfl
  follows := fun _ _ hv => ⟨hv.replica, hv.known⟩

def Advances (w w' : Workspace) : Prop := ∃ accepted applied, Progress accepted applied w w'

theorem Advances.trans {w w' w'' : Workspace} (h : Advances w w') (h' : Advances w' w'') :
    Advances w w'' := by
  obtain ⟨accepted, applied, hprogress⟩ := h
  obtain ⟨accepted', applied', hprogress'⟩ := h'
  exact ⟨accepted ++ accepted', applied ++ applied', hprogress.trans hprogress'⟩

theorem Advances.refl {w : Workspace} (h : w.Quiet) : Advances w w := ⟨[], [], Progress.refl h⟩

theorem Advances.quiet {w w' : Workspace} (h : Advances w w') : w'.Quiet := by
  obtain ⟨accepted, applied, hprogress⟩ := h
  exact hprogress.quiet

/-! ## Reservations -/

/-- A change of reservations does not change what is tracked. -/
theorem follows_changeReservation {id : Nat} {v : Sight} {w : Workspace} (other : Nat)
    (p : Proposal) {change : SessionCore → StyleId → SessionCore}
    (hchange : ∀ s style, SessionCore.Alike s (change s style)) (h : Follows id v w) :
    Follows id v (w.changeReservation other p change) := by
  unfold changeReservation
  cases p.reserve with
  | none => exact h
  | some style =>
      obtain ⟨core, ⟨s, hs, hattached, rfl⟩, halike⟩ := h.known
      refine ⟨h.replica, ?_⟩
      by_cases hid : other = id
      · subst hid
        have hchanged := hchange s.core style
        refine ⟨change s.core style,
          ⟨{ s with core := change s.core style }, ?_, hattached, rfl⟩,
          hchanged.member.trans halike.member, hchanged.tracker.trans halike.tracker⟩
        simp [modifySession, Dict.get?_modify, hs]
      · refine ⟨s.core, ⟨s, ?_, hattached, rfl⟩, halike⟩
        simp [modifySession, Dict.get?_modify, hid, hs]

theorem alike_reserve (s : SessionCore) (style : StyleId) : SessionCore.Alike s (s.reserve style) := by
  unfold SessionCore.reserve
  split <;> exact ⟨rfl, rfl⟩

theorem alike_release (s : SessionCore) (style : StyleId) : SessionCore.Alike s (s.release style) :=
  ⟨rfl, rfl⟩

theorem progress_changeReservation {w : Workspace} (h : w.Quiet) (id : Nat) (p : Proposal)
    {change : SessionCore → StyleId → SessionCore}
    (hchange : ∀ s style, SessionCore.Alike s (change s style)) :
    Progress [] [] w (w.changeReservation id p change) := by
  refine progress_of_follows ?_ ?_ fun _ _ hv => follows_changeReservation id p hchange hv
  · obtain ⟨sessions, heq⟩ := changeReservation_eq id p change w
    rw [heq]
    exact h
  · obtain ⟨sessions, heq⟩ := changeReservation_eq id p change w
    rw [heq]

theorem advances_submission : Submission Advances where
  quiet := Advances.quiet
  refl := Advances.refl
  trans := Advances.trans
  flush := fun h => ⟨[], _, progress_flush h⟩
  queued := fun h batch => ⟨[batch], [], progress_queued h batch⟩
  reserve := fun h id p => ⟨[], [], progress_changeReservation h id p alike_reserve⟩
  release := fun h id p => ⟨[], [], progress_changeReservation h id p alike_release⟩

/-! ## Subscribers -/

theorem progress_watchSession {w : Workspace} (h : w.Quiet) (signal : SessionSignal)
    (label : String) (times id : Nat) :
    Progress [] [] w (watchSession signal label [] times id w).2 := by
  unfold watchSession
  split
  · exact Progress.refl h
  · split
    · refine progress_of_follows (quiet_addObserver h label times) rfl ?_
      intro other v hv
      obtain ⟨core, hknown, halike⟩ := hv.known
      exact ⟨hv.replica, core,
        knows_modifySession (by intro s; rfl) (by intro s; rfl) hknown, halike⟩
    · exact Progress.refl h

/-! ## Commands -/

structure Execution (R : Workspace → Workspace → Prop) : Prop extends Submission R where
  immediate : ∀ {w}, Quiet w → ∀ on, R w { w with engine := { w.engine with immediate := on } }
  watch : ∀ {w}, Quiet w → ∀ signal label times id,
    R w (watchSession signal label [] times id w).2
  held : ∀ {w w'} holds holds', R { w with holds } w' → R w { w' with holds := holds' }

namespace Execution

variable {R : Workspace → Workspace → Prop} {w : Workspace}

theorem holding (hR : Execution R) {place : Place} {access : Access}
    {job : Workspace → Reply × Workspace} (h : ∀ w, Quiet w → R w (job w).2) (hquiet : w.Quiet) :
    R w (w.holding place access job).2 := by
  unfold Workspace.holding
  split
  · exact hR.held _ _ (h { w with holds := (place, access) :: w.holds } hquiet)
  · exact hR.refl hquiet

theorem withSession (hR : Execution R) {access : Access} {job : Nat → Workspace → Reply × Workspace}
    (h : ∀ id w, Quiet w → R w (job id w).2) (hquiet : w.Quiet) :
    R w (w.withSession access job).2 := by
  unfold Workspace.withSession
  split
  · exact hR.holding (h _) hquiet
  · exact hR.holding (fun w hw => hR.refl hw) hquiet
  · exact hR.refl hquiet

theorem execute (hR : Execution R) {c : Command} (hc : c.submits = true) (h : w.Quiet) :
    R w (w.execute c).2 := by
  rw [execute_eq_step]
  cases c with
  | engine c =>
      cases c with
      | flush => exact hR.flush h
      | enqueue batch =>
          exact of_reply (hR.enqueue h batch)
      | setImmediate on => exact hR.immediate h on
      | ask query => exact hR.refl h
      | _ => simp [Command.submits] at hc
  | session c =>
      cases c with
      | edit e =>
          refine hR.withSession (fun id w hw => ?_) h
          rw [doSession_edit_snd]
          exact hR.edit hw id e
      | ask query =>
          refine hR.withSession (fun id w hw => ?_) h
          rw [doSession_ask_snd]
          exact hR.refl hw
      | _ => simp [Command.submits] at hc
  | watchSession signal label actions times =>
      obtain rfl := List.isEmpty_iff.1 hc
      exact hR.withSession (fun id w hw => hR.watch hw signal label times id) h
  | _ => simp [Command.submits] at hc

theorem run (hR : Execution R) {commands : List Command}
    (hcommands : ∀ c ∈ commands, c.submits = true) (h : w.Quiet) :
    R w (commands.foldl (fun w c => (w.execute c).2) w) := by
  induction commands generalizing w with
  | nil => exact hR.refl h
  | cons c rest ih =>
      have hfirst := hR.execute (hcommands c List.mem_cons_self) h
      exact hR.trans hfirst (ih (fun other hmem => hcommands other (List.mem_cons_of_mem _ hmem))
        (hR.quiet hfirst))

end Execution

theorem progress_immediate {w : Workspace} (h : w.Quiet) (on : Bool) :
    Progress [] [] w { w with engine := { w.engine with immediate := on } } :=
  ⟨h, rfl, (List.append_nil _).symm, List.append_nil _, rfl, fun _ _ hv => ⟨hv.replica, hv.known⟩⟩

theorem Progress.held {accepted applied : List Batch} {w w' : Workspace}
    {holds : List (Place × Access)} (h : Progress accepted applied { w with holds } w')
    (holds' : List (Place × Access)) :
    Progress accepted applied w { w' with holds := holds' } := by
  refine ⟨h.quiet, h.bus, h.submitted, h.queue, h.replica, fun id v hv => ?_⟩
  obtain ⟨hreplica, hknown⟩ := h.follows id v ⟨hv.replica, hv.known⟩
  exact ⟨hreplica, hknown⟩

theorem advances_execution : Execution Advances where
  toSubmission := advances_submission
  immediate := fun h on => ⟨[], [], progress_immediate h on⟩
  watch := fun h signal label times id => ⟨[], [], progress_watchSession h signal label times id⟩
  held := by
    rintro w w' holds holds' ⟨accepted, applied, hprogress⟩
    exact ⟨accepted, applied, hprogress.held holds'⟩

theorem advances_run {commands : List Command} (hcommands : ∀ c ∈ commands, c.submits = true)
    {w : Workspace} (h : w.Quiet) :
    Advances w (commands.foldl (fun w c => (w.execute c).2) w) :=
  advances_execution.run hcommands h

/-- After a flush every accepted batch was applied, and a session has seen what that lets it
see. -/
theorem follows_run {commands : List Command} (hcommands : ∀ c ∈ commands, c.submits = true)
    {id : Nat} {v : Sight} {w : Workspace} (h : w.Quiet) (hv : Follows id v w) :
    let w' := ((commands.foldl (fun w c => (w.execute c).2) w).execute (.engine .flush)).2
    ∃ accepted, w'.engine.submitted = w.engine.submitted ++ accepted ∧
      Follows id
        ((w.engine.pending ++ accepted).foldl (Sight.follow (heardBy w.engine.bus id)) v) w' := by
  obtain ⟨accepted, applied, hrun⟩ := advances_run hcommands h
  have hflush := progress_flush hrun.quiet
  rw [show (commands.foldl (fun w c => (w.execute c).2) w).flush conduct = _ from
    (congrArg Prod.snd (execute_eq_step (.engine .flush) _)).symm] at hflush
  have hall := hrun.trans hflush
  rw [List.append_nil] at hall
  have hqueue := hall.queue
  rw [Agenda.pending_execute_flush, List.append_nil] at hqueue
  refine ⟨_, hall.submitted, ?_⟩
  rw [hqueue]
  exact hall.follows id v hv

/-! ## Documents -/

/-- Loading opens the document that the engine finds, and that is all. -/
theorem opened_of_load {w w' : Workspace} {files : FileTree} {url : String}
    (h : w.loadDocument files url = (.ok (), w')) :
    ∃ d, w.engine.find files url = .ok d ∧ w' = { w with engine := w.engine.openDocument d } := by
  unfold loadDocument Engine.load at h
  cases hfind : w.engine.find files url with
  | error cause => simp [hfind] at h
  | ok d =>
      simp only [hfind, Prod.mk.injEq, true_and] at h
      exact ⟨d, rfl, h.symm⟩

theorem distinct_load {w w' : Workspace} {url : String}
    (hdocuments : ∀ url d, w.engine.documents.get? url = some d → d.Distinct)
    (h : w.loadDocument w.files url = (.ok (), w')) : w'.engine.document.Distinct := by
  obtain ⟨d, hfind, rfl⟩ := opened_of_load h
  show d.Distinct
  unfold Engine.find at hfind
  split at hfind
  · rename_i found hfound
    obtain rfl := Except.ok.inj hfind
    exact hdocuments url _ hfound
  · split at hfind
    · split at hfind
      · obtain rfl := Except.ok.inj hfind
        exact (Document.numbered_ofText _).distinct
      · cases hfind
    · cases hfind

theorem quiet_load {w w' : Workspace} {url : String} (hquiet : w.Quiet)
    (h : w.loadDocument w.files url = (.ok (), w')) : w'.Quiet := by
  obtain ⟨d, -, rfl⟩ := opened_of_load h
  exact hquiet

theorem Advances.distinct {w w' : Workspace} (h : Advances w w')
    (hdistinct : w.engine.document.Distinct) : w'.engine.document.Distinct := by
  obtain ⟨accepted, applied, hprogress⟩ := h
  unfold Engine.document
  rw [hprogress.replica]
  exact Replica.distinct_applied hdistinct applied

/-! ## Sessions -/

/-- A new session follows its engine from the start, and hears of every change of a paragraph. -/
theorem follows_createSession {spec : SessionSpec} {features : FeatureSet} {w w' : Workspace}
    {id : Nat} (h : w.createSession spec features = (.ok id, w')) :
    Follows id (Sight.first spec.member w'.engine.replica) w' ∧
      ∀ events p member, .paragraphChanged p member ∈ events →
        .paragraphChanged p member ∈ heardBy w'.engine.bus id events := by
  obtain ⟨engine, made, log, rfl, rfl, hsubscribed⟩ := createSession_spec h
  constructor
  · exact ⟨rfl, _, ⟨newSessionState spec made, by simp, rfl, rfl⟩, rfl, rfl⟩
  · intro events p member hmem
    have hhears := hsubscribed.hears .paragraphChanged (by decide)
    refine List.mem_flatMap.2 ⟨_, hmem, List.mem_map.2 ⟨.session w.nextId, ?_, rfl⟩⟩
    exact List.mem_filter.2 ⟨hhears, by simp⟩

theorem unchanged_createSession {spec : SessionSpec} {features : FeatureSet} {w w' : Workspace}
    {id : Nat} (h : w.createSession spec features = (.ok id, w')) :
    (w.Quiet → w'.Quiet) ∧ w'.engine.replica = w.engine.replica := by
  obtain ⟨engine, made, log, rfl, rfl, hsubscribed⟩ := createSession_spec h
  refine ⟨id, ?_⟩
  obtain ⟨bus, heq, -⟩ := subscribedAll_eq w.nextId relayedSignals w.engine
  rw [hsubscribed.engine, heq]

/-- After every flush a session tracks what the tracked paragraph resolved to when the session
last looked at it, and so the tracked style is right just if that has not changed since. It is
always right if no batch added or removed a style. -/
theorem tracked_style_iff_unchanged {w₀ w₁ w : Workspace} {url : String}
    {before after : List Command} {spec : SessionSpec} {features : FeatureSet} {id : Nat}
    (hquiet : w₀.Quiet)
    (hdocuments : ∀ url d, w₀.engine.documents.get? url = some d → d.Distinct)
    (hload : w₀.loadDocument w₀.files url = (.ok (), w₁))
    (hbefore : ∀ c ∈ before, c.submits = true)
    (hcreate : (before.foldl (fun w c => (w.execute c).2) w₁).createSession spec features =
      (.ok id, w))
    (hafter : ∀ c ∈ after, c.submits = true) :
    let w' := ((after.foldl (fun w c => (w.execute c).2) w).execute (.engine .flush)).2
    ∃ accepted, w'.engine.submitted = w.engine.submitted ++ accepted ∧
      let batches := w.engine.pending ++ accepted
      let sight := batches.foldl (Sight.follow (heardBy w.engine.bus id))
        (Sight.first spec.member w.engine.replica)
      w'.engine.replica = sight.replica ∧
      ∃ s, w'.sessions.get? id = some s ∧ s.attached = true ∧
        s.core.tracker = sight.core.tracker ∧
        (∀ current, s.core.tracker.current = some current →
          (w'.engine.replica.resolved? current.paragraph = some current.style ↔
            w'.engine.replica.resolved? current.paragraph =
              sight.seen.resolved? current.paragraph)) ∧
        ((∀ batch ∈ batches, ∀ op ∈ batch, op.changesStyles = false) →
          s.core.Accurate w'.engine.replica) := by
  have hearlier := advances_run hbefore (quiet_load hquiet hload)
  have hdistinct := hearlier.distinct (distinct_load hdocuments hload)
  obtain ⟨hfollows, hheard⟩ := follows_createSession hcreate
  obtain ⟨hquiet', hreplica⟩ := unchanged_createSession hcreate
  have hdistinct' : w.engine.replica.document.Distinct := by
    rw [hreplica]
    exact hdistinct
  obtain ⟨accepted, hsubmitted, hrun⟩ := follows_run hafter (hquiet' hearlier.quiet) hfollows
  obtain ⟨core, ⟨s, hs, hattached, rfl⟩, halike⟩ := hrun.known
  have hfirst := Sight.accurate_first spec.member w.engine.replica
  refine ⟨accepted, hsubmitted, hrun.replica, s, hs, hattached, halike.tracker, ?_, ?_⟩
  · intro current hcurrent
    rw [hrun.replica]
    rw [halike.tracker] at hcurrent
    exact Sight.current_iff_unchanged (Sight.accurate_seen_run hdistinct' hfirst _) hcurrent
  · intro hkeep
    rw [hrun.replica]
    have haccurate := Sight.accurate_run_of_keep hdistinct' hfirst hheard hkeep
    exact SessionCore.accurate_congr (by rw [halike.tracker]) haccurate

/-! ## A tracked style that is stale -/

/-- One paragraph, attached to a style that the document does not have. -/
def dangling : Document := .build [.paragraph "one" ⟨"X"⟩]

def withDangling : Workspace :=
  { engine := { documents := (∅ : Dict String Document).insert "doc" dangling } }

def enterParagraph : Command := .engine (.enqueue [.addCursor ⟨"m"⟩])

def addMissingStyle : Command := .engine (.enqueue [.addStyle ⟨"n"⟩ ⟨"X"⟩ .paragraph {}])

def opened : Workspace :=
  ((withDangling.loadDocument {} "doc").2.createSession { member := ⟨"m"⟩ } .all).2

def restored : Workspace :=
  ([enterParagraph, .engine .flush, addMissingStyle] : List Command).foldl
    (fun w c => (w.execute c).2) opened

theorem restored_current :
    ((restored.execute (.engine .flush)).2.sessions.get? 0).map (·.core.tracker.current) =
      some (some { paragraph := 1, style := .default }) := by decide +kernel

theorem restored_resolved :
    (restored.execute (.engine .flush)).2.engine.replica.resolved? 1 = some ⟨"X"⟩ := by
  decide +kernel

/-- The session goes on to track the default style when the missing style was added. -/
theorem tracked_style_of_added_style :
    let w := (restored.execute (.engine .flush)).2
    ∃ s, w.sessions.get? 0 = some s ∧
      s.core.tracker.current = some { paragraph := 1, style := .default } ∧
      w.engine.replica.resolved? 1 = some ⟨"X"⟩ ∧ ¬ s.core.Accurate w.engine.replica := by
  obtain ⟨s, hs, hcurrent⟩ := Option.map_eq_some_iff.1 restored_current
  refine ⟨s, hs, hcurrent, restored_resolved, fun haccurate => ?_⟩
  have hnow := haccurate _ hcurrent
  rw [restored_resolved] at hnow
  exact absurd hnow (by decide)

theorem withDangling_distinct (url : String) (d : Document)
    (h : withDangling.engine.documents.get? url = some d) : d.Distinct := by
  simp only [withDangling, Dict.get?_insert] at h
  split at h
  · obtain rfl := Option.some.inj h
    exact (Document.numbered_build _).distinct
  · cases h

/-- When that session last looked, the paragraph did not resolve to the style to which it
resolves now. -/
theorem tracked_style_unlike_last_look :
    let w := (restored.execute (.engine .flush)).2
    w.engine.replica.resolved? 1 ≠
      (w.engine.submitted.foldl (Sight.follow (heardBy opened.engine.bus 0))
        (Sight.first ⟨"m"⟩ opened.engine.replica)).seen.resolved? 1 := by
  intro w
  have hquiet : withDangling.Quiet := fun _ _ h => by cases h
  have hbefore : ∀ c ∈ ([] : List Command), c.submits = true := fun _ hc => (List.not_mem_nil hc).elim
  have hcreate : (withDangling.loadDocument {} "doc").2.createSession { member := ⟨"m"⟩ } .all =
      (.ok 0, opened) := Prod.ext rfl rfl
  have hafter : ∀ c ∈ [enterParagraph, .engine .flush, addMissingStyle], c.submits = true := by
    decide
  obtain ⟨accepted, hsubmitted, -, s, hs, -, -, hiff, -⟩ :=
    tracked_style_iff_unchanged hquiet withDangling_distinct (Prod.ext rfl rfl) hbefore hcreate
      hafter
  obtain ⟨s', hs', hcurrent⟩ := Option.map_eq_some_iff.1 restored_current
  obtain rfl := Option.some.inj (hs'.symm.trans hs)
  have hall : w.engine.submitted = accepted := hsubmitted
  rw [hall]
  intro hunchanged
  have hnow := (hiff _ hcurrent).2 hunchanged
  rw [show (([enterParagraph, .engine .flush, addMissingStyle] : List Command).foldl
    (fun w c => (w.execute c).2) opened) = restored from rfl, restored_resolved] at hnow
  exact absurd hnow (by decide)

end Workspace

end Coedit
