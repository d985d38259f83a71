import Coedit.Proofs.Editor.Works

/-!
# Keeping a tally

Beside a run one can keep a tally of what was loaded last, and of the batches that were accepted
since. Whatever the editor and those around it do, the document will be what these batches make of
the one that was loaded as soon as the queue has been applied.
-/

namespace Coedit

/-- The document that was found, if the reply says that all went well. -/
def Reply.loaded? (found : Except EngineError Document) : Reply → Option Document
  | .done => found.toOption
  | _ => none

/-- What was loaded last, and which batches were accepted since. -/
structure Tally where
  loaded : Option Document := none
  accepted : List Batch := []

/-- Commands to an editor, its session and its engine, subscriptions that do not call back, and
the end of any subscription. -/
def Command.aroundEditor : Command → Bool
  | .engine (.unsubscribe _ _) => true
  | c => c.toEditor

namespace Workspace

def loadedBy (w : Workspace) (c : Command) : Option Document :=
  match c with
  | .engine (.load url) | .editor (.open url) =>
    (w.execute c).1.loaded? (w.engine.find w.files url)
  | _ => none

def acceptedBy (w : Workspace) (c : Command) : List Batch :=
  (w.execute c).2.engine.submitted.drop w.engine.submitted.length

end Workspace

def Tally.next (t : Tally) (w : Workspace) (c : Command) : Tally :=
  match w.loadedBy c with
  | some d => { loaded := some d, accepted := w.acceptedBy c }
  | none => { t with accepted := t.accepted ++ w.acceptedBy c }

def Tally.after (t : Tally) : List Command → Workspace → Tally
  | [], _ => t
  | c :: rest, w => (t.next w c).after rest (w.execute c).2

/-- The replica after all that was accepted. -/
def Tally.replica (t : Tally) (d : Document) : Replica :=
  t.accepted.foldl (fun r batch => (r.applyBatch batch).1) { document := d }

namespace Workspace

open Attempt (Triple)

section Counts

variable {spec : EditorSpec} {first : Nat} {options : EditorOptions}
  {base : List (Subscription EngineSignal EngineListener)} {w w' : Workspace} {e : Editor}

/-- A command was carried out, which may have loaded a document. What was accepted decides what
this or the former document will be. -/
structure Counts (spec : EditorSpec) (first : Nat) (loaded : Option Document)
    (w w' : Workspace) : Prop where
  partnered : Partnered spec first w'
  upshot : w'.engine.upshot =
    (w'.engine.submitted.drop w.engine.submitted.length).foldl
      (fun r batch => (r.applyBatch batch).1)
      (match loaded with
        | some document => { document }
        | none => w.engine.upshot)
  editing : ∀ e', w'.editor = some e' → e'.state = .editing →
    loaded.isSome ∨ ∃ e, w.editor = some e ∧ e.state = .editing

theorem Works.counts (h : Works spec first w w') : Counts spec first none w w' := by
  obtain ⟨accepted, hsubmitted, hupshot⟩ := h.keeps.carried
  refine ⟨h.partnered, ?_, fun e' he' hediting => .inr (h.editing e' he' hediting)⟩
  rw [hsubmitted, List.drop_left]
  exact hupshot

theorem Opened.counts {d : Document} (h : Opened spec first w d w') :
    Counts spec first (some d) w w' := by
  obtain ⟨accepted, hsubmitted, hupshot⟩ := h.carried
  refine ⟨h.partnered, ?_, fun _ _ _ => .inl rfl⟩
  rw [hsubmitted, List.drop_left]
  exact hupshot

theorem Unopened.counts (h : Unopened spec first w w') : Counts spec first none w w' := by
  refine ⟨h.partnered, ?_, fun e' he' hediting => .inr ⟨e', h.editing e' he' hediting, hediting⟩⟩
  rw [h.engine, List.drop_length]
  rfl

/-- What commands hold does not matter. -/
theorem Counts.holding {loaded : Option Document} {holds : List (Place × Access)}
    (h : Counts spec first loaded { w with holds } w') :
    Counts spec first loaded w { w' with holds := w.holds } where
  partnered := ⟨h.partnered.ordered.congr rfl,
    fun e he => (h.partnered.matched e he).congr rfl rfl (Nat.le_refl _)⟩
  upshot := h.upshot
  editing := h.editing

theorem counts_doEngine (hpartnered : Partnered spec first w) (hquiet : w.Quiet)
    {c : EngineCommand} (hc : (Command.engine c).aroundEditor = true)
    (hload : ∀ url, c ≠ .load url) : Counts spec first none w (w.doEngine conduct c).2 := by
  cases c with
  | load url => exact absurd rfl (hload url)
  | refuse => cases hc
  | unsubscribe signal id =>
      exact (works_of_keeps hpartnered (keeps_unsubscribe hquiet signal id) rfl).counts
  | close =>
      have hworks : Works spec first w (w.doEngine conduct .close).2 :=
        of_reply (works_continues hpartnered ⟨[], proceeds_closeEngine hquiet⟩)
      exact hworks.counts
  | flush => exact (works_continues hpartnered ⟨[], proceeds_flush hquiet⟩).counts
  | enqueue batch =>
      have hworks : Works spec first w (w.doEngine conduct (.enqueue batch)).2 :=
        of_reply (works_continues hpartnered (continues_submission.enqueue hquiet batch))
      exact hworks.counts
  | register url document =>
      have hworks : Works spec first w { w with engine := w.engine.register url document } :=
        works_engine hpartnered hquiet rfl rfl rfl
      exact hworks.counts
  | failNextClose reason =>
      have hworks : Works spec first w
          { w with engine := { w.engine with closeFailure := some reason } } :=
        works_engine hpartnered hquiet rfl rfl rfl
      exact hworks.counts
  | setImmediate on =>
      have hworks : Works spec first w { w with engine := { w.engine with immediate := on } } :=
        works_engine hpartnered hquiet rfl rfl rfl
      exact hworks.counts
  | takeSubmitted =>
      refine ⟨?_, ?_, fun e' he' hediting => .inr ⟨e', he', hediting⟩⟩
      · exact ⟨hpartnered.ordered.congr rfl,
          fun e he => (hpartnered.matched e he).congr rfl rfl (Nat.le_refl _)⟩
      · simp only [doEngine, List.drop_nil]
        rfl
  | ask query => exact (works_refl hpartnered hquiet).counts

theorem counts_load (hpartnered : Partnered spec first w) (url : String) :
    Counts spec first
      ((w.doEngine conduct (.load url)).1.loaded? (w.engine.find w.files url)) w
      (w.doEngine conduct (.load url)).2 := by
  have hload : w.doEngine conduct (.load url) = reply .engine (w.loadDocument w.files url) := rfl
  rw [hload]
  unfold loadDocument Engine.load
  cases hfind : w.engine.find w.files url with
  | error cause =>
      have hsame : Unopened spec first w w := ⟨hpartnered, rfl, fun e' he' _ => he'⟩
      exact hsame.counts
  | ok d =>
      have hopened : Opened spec first w d { w with engine := w.engine.openDocument d } :=
        ⟨hpartnered.loaded d, [], (List.append_nil _).symm, rfl⟩
      exact hopened.counts

theorem counts_open (h : Settled options base w) (hpartnered : Partnered spec first w)
    (heditor : w.editor = some e) (url : String) :
    Counts spec first
      ((w.doEditor conduct e (.open url)).1.loaded? (w.engine.find w.files url)) w
      (w.doEditor conduct e (.open url)).2 := by
  have hcases := openDocument_cases h hpartnered heditor w.files url w rfl
  simp only [doEditor]
  cases hr : (openDocument conduct w.files e url).result w with
  | mk answer w' =>
      rw [hr] at hcases
      cases answer with
      | ok _ =>
          obtain ⟨d, hfind, hopened⟩ := hcases
          rw [hfind]
          exact hopened.counts
      | error cause => exact hcases.counts

theorem counts_openCommand (h : Settled options base w) (hpartnered : Partnered spec first w)
    (url : String) :
    Counts spec first
      ((w.step conduct (.editor (.open url))).1.loaded? (w.engine.find w.files url)) w
      (w.step conduct (.editor (.open url))).2 := by
  simp only [step, withEditor]
  cases he : w.editor with
  | none => exact (works_refl hpartnered h.quiet).counts
  | some e =>
      simp only [Workspace.holding]
      split
      · have hheld := works_holding hpartnered h.quiet
          ((.editor, editorAccess (.open url)) :: w.holds)
        exact (counts_open (h.holding _) hheld.partnered he url).holding
      · exact (works_refl hpartnered h.quiet).counts

/-- One command advances the document by what it loads and by what is accepted. -/
theorem counts_execute (h : Settled options base w) (hpartnered : Partnered spec first w)
    {c : Command} (hc : c.aroundEditor = true) :
    Counts spec first (w.loadedBy c) w (w.execute c).2 := by
  have hquiet := h.quiet
  have heditor : ∀ {c : EditorCommand}, (∀ url, c ≠ .open url) →
      Counts spec first none w (w.step conduct (.editor c)).2 := fun {c} hc =>
    (Works.withEditor h hpartnered fun e v he hv hv' => works_doEditor hv hv' he c hc).counts
  unfold loadedBy
  rw [execute_eq_step]
  cases c with
  | engine c =>
      cases c with
      | load url => exact counts_load hpartnered url
      | _ => exact counts_doEngine hpartnered hquiet hc fun _ => by simp
  | session c =>
      exact (Works.withSession hpartnered hquiet fun id v hv hvquiet =>
        works_doSession hv hvquiet id c).counts
  | input c =>
      exact (Works.withSession hpartnered hquiet fun id v hv hvquiet =>
        works_doInput hv hvquiet id c).counts
  | editor c =>
      cases c with
      | «open» url => exact counts_openCommand h hpartnered url
      | _ => exact heditor fun _ => by simp
  | watchEngine signal label actions times =>
      obtain rfl := List.isEmpty_iff.1 hc
      exact (works_watchEngine hpartnered hquiet signal label times).counts
  | watchSession signal label actions times =>
      obtain rfl := List.isEmpty_iff.1 hc
      exact (Works.withSession hpartnered hquiet fun id v hv hvquiet =>
        works_watchSession hv hvquiet signal label times id).counts
  | watchEditor signal label actions times =>
      obtain rfl := List.isEmpty_iff.1 hc
      exact (Works.withEditor h hpartnered fun e v _ hv hv' =>
        works_watchEditor hv' hv.quiet signal label times e).counts
  | undecodable => exact (works_refl hpartnered hquiet).counts
  | newSession | destroySession | newEditor => cases hc

/-! ## Runs -/

theorem Stage.unsubscribe {held : Option Nat} {records : List (EngineSignal × Nat)}
    (h : Stage base e held records w) (signal : EngineSignal) (id : Nat) :
    Stage base e held records (w.unsubscribe signal id) := by
  have hfewer : ∀ {records}, Owned base records w → Owned base records (w.unsubscribe signal id) :=
    fun howned s hs => howned s (List.mem_filter.1 hs).1
  refine ⟨h.quiet, welcoming_of_declared h.welcoming rfl, h.editor, ?_⟩
  have hcovered := h.covered
  cases held with
  | none => exact hfewer hcovered
  | some session =>
      obtain ⟨s, hs, howned⟩ := hcovered
      exact ⟨s, hs, hfewer howned⟩

/-- Whoever ends a subscription leaves the editor settled. -/
theorem settled_unsubscribe (h : Settled options base w) (signal : EngineSignal) (id : Nat) :
    Settled options base (w.unsubscribe signal id) := by
  cases h with
  | idle e hoptions hstate hdetached hstage =>
      exact .idle e hoptions hstate hdetached (hstage.unsubscribe signal id)
  | editing e session relay hoptions hstate hattached hstage =>
      exact .editing e session relay hoptions hstate hattached (hstage.unsubscribe signal id)
  | closing e hoptions hstate hdetached hquiet hwelcoming heditor =>
      exact .closing e hoptions hstate hdetached hquiet (welcoming_of_declared hwelcoming rfl)
        heditor

theorem settled_around (h : Settled options base w) {c : Command} (hc : c.aroundEditor = true) :
    Settled options base (w.execute c).2 := by
  by_cases hto : c.toEditor = true
  · exact settling_settled.execute h hto
  · obtain ⟨signal, id, rfl⟩ : ∃ signal id, c = .engine (.unsubscribe signal id) := by
      unfold Command.aroundEditor at hc
      split at hc
      · exact ⟨_, _, rfl⟩
      · exact absurd hc hto
    rw [execute_eq_step]
    exact settled_unsubscribe h signal id

/-- The tally is right: the document will be what it says, and an editor that is editing has
loaded one. -/
structure Tallied (spec : EditorSpec) (first : Nat) (t : Tally) (w : Workspace) : Prop where
  partnered : Partnered spec first w
  upshot : ∀ d, t.loaded = some d → w.engine.upshot = t.replica d
  editing : ∀ e, w.editor = some e → e.state = .editing → t.loaded.isSome

theorem tallied_next {t : Tally} (h : Settled options base w) (ht : Tallied spec first t w)
    {c : Command} (hc : c.aroundEditor = true) :
    Tallied spec first (t.next w c) (w.execute c).2 := by
  have hcounts := counts_execute h ht.partnered hc
  unfold Tally.next
  cases hloaded : w.loadedBy c with
  | some d =>
      rw [hloaded] at hcounts
      refine ⟨hcounts.partnered, fun d' hd' => ?_, fun _ _ _ => rfl⟩
      obtain rfl := Option.some.inj hd'
      exact hcounts.upshot
  | none =>
      rw [hloaded] at hcounts
      refine ⟨hcounts.partnered, fun d hd => ?_, fun e' he' hediting => ?_⟩
      · have hupshot := hcounts.upshot
        simp only [ht.upshot d hd] at hupshot
        rw [hupshot, Tally.replica, Tally.replica, List.foldl_append]
        rfl
      · rcases hcounts.editing e' he' hediting with hsome | ⟨e, he, hwas⟩
        · cases hsome
        · exact ht.editing e he hwas

theorem tallied_run {t : Tally} (h : Settled options base w) (ht : Tallied spec first t w)
    {commands : List Command} (hcommands : ∀ c ∈ commands, c.aroundEditor = true) :
    Settled options base (commands.foldl (fun w c => (w.execute c).2) w) ∧
      Tallied spec first (t.after commands w)
        (commands.foldl (fun w c => (w.execute c).2) w) := by
  induction commands generalizing w t with
  | nil => exact ⟨h, ht⟩
  | cons c rest ih =>
      have hc := hcommands c List.mem_cons_self
      exact ih (settled_around h hc) (tallied_next h ht hc)
        fun other hmem => hcommands other (List.mem_cons_of_mem _ hmem)

/-- A new editor has no session yet, and nothing was loaded for it. -/
theorem tallied_createEditor
    (hbounded : ∀ s ∈ w.engine.bus.subscriptions, s.id < w.engine.bus.nextId) (spec : EditorSpec) :
    Tallied spec w.engine.bus.nextId {} (w.createEditor spec) := by
  have hengine : (w.createEditor spec).engine = w.engine := by
    unfold createEditor
    cases w.editor.bind (·.session) <;> rfl
  refine ⟨⟨⟨?_, ?_⟩, fun e he => ?_⟩, fun d hd => ?_, fun e he hediting => ?_⟩
  · rw [hengine]
    exact hbounded
  · rw [hengine]
  · obtain rfl := Option.some.inj he
    exact ⟨rfl, rfl, fun _ hnone => (by cases hnone), fun _ hnone => (by cases hnone)⟩
  · cases hd
  · obtain rfl := Option.some.inj he
    cases hediting

end Counts

end Workspace

end Coedit
