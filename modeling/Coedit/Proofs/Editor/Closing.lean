import Coedit.Proofs.Editor.Opening

/-!
# Closing a document

Closing a document can fail at every step. If it does, the editor is left closing, with its
relays gone; if it does not, every record has been used to end the subscription that it is about.
-/

namespace Coedit

def Editor.silent (e : Editor) : Editor :=
  { e with undoManager := none, modifiedSubscription := none, metadataSubscription := none }

namespace Workspace

open Attempt (Triple)

/-! ## Teardowns as attempts -/

section Teardown

variable {P Q : Workspace → Prop} {R : Unit → Workspace → Prop}
  {E : TeardownError → Workspace → Prop}

theorem triple_tearDownAll_cons {action : TeardownAction Workspace}
    {rest : List (TeardownAction Workspace)}
    (hfirst : Triple P (.of action) (fun _ => Q) E)
    (hrest : Triple Q (.of (tearDownAll rest)) R E) :
    Triple P (.of (tearDownAll (action :: rest))) R E := by
  intro w hw
  have hstep := hfirst w hw
  rw [Attempt.result_of] at hstep ⊢
  unfold tearDownAll
  cases ha : action w with
  | mk answer w' =>
      rw [ha] at hstep
      cases answer with
      | ok _ => exact hrest w' hstep
      | error cause => exact hstep

theorem triple_tearDownAll_append {first second : List (TeardownAction Workspace)}
    (hfirst : ∀ action ∈ first, Triple P (.of action) (fun _ => P) E)
    (hsecond : Triple P (.of (tearDownAll second)) R E) :
    Triple P (.of (tearDownAll (first ++ second))) R E := by
  induction first with
  | nil => exact hsecond
  | cons action rest ih =>
      exact triple_tearDownAll_cons (hfirst action List.mem_cons_self)
        (ih fun other hmem => hfirst other (List.mem_cons_of_mem _ hmem))

theorem triple_tearDownPart {frontend : Frontend} {part : String}
    {release : Workspace → Workspace}
    (hnote : ∀ w, P w → P (w.interfaceNote frontend (.tornDown part)))
    (hrelease : ∀ w, P w → R () (release w)) (hfail : ∀ cause w, P w → E cause w) :
    Triple P (.of (tearDownPart frontend part release)) R E := by
  intro w hw
  have hnoted := hnote w hw
  rw [Attempt.result_of]
  unfold tearDownPart
  cases frontend with
  | headless => exact hrelease _ hnoted
  | recording failing =>
      cases hfailing : failing.contains part with
      | true =>
          simp only [hfailing, if_true]
          exact hfail _ _ hnoted
      | false =>
          simp only [hfailing, Bool.false_eq_true, if_false]
          exact hrelease _ hnoted

end Teardown

/-! ## Destroying a session -/

section Closing

variable {base : List (Subscription EngineSignal EngineListener)} {e : Editor} {id : Nat}
  {held : Option Nat} {records : List (EngineSignal × Nat)} {w w' : Workspace}

def Unplugged (base : List (Subscription EngineSignal EngineListener)) (e : Editor) (id : Nat)
    (w : Workspace) : Prop :=
  w.Quiet ∧ w.Welcoming ∧ w.editor = some e ∧ ∃ s, w.sessions.get? id = some s ∧
    s.input.undoSubscription = none ∧ Owned base s.subscriptions w

theorem unplugged_stage (h : Unplugged base e id w) : Stage base e (some id) [] w := by
  obtain ⟨hquiet, hwelcoming, heditor, s, hs, -, howned⟩ := h
  exact ⟨hquiet, hwelcoming, heditor, s, hs,
    howned.mono fun r hr => by simp [Session.records, hr]⟩

theorem unplugged_note (h : Unplugged base e id w) (frontend : Frontend) (note : InterfaceNote) :
    Unplugged base e id (w.interfaceNote frontend note) := by
  cases frontend with
  | headless => exact h
  | recording failing =>
      obtain ⟨hquiet, hwelcoming, heditor, hsession⟩ := h
      exact ⟨hquiet, ⟨hwelcoming.refusals, hwelcoming.declared⟩, heditor, hsession⟩

theorem unplugged_releaseInput (h : Stage base e (some id) [] w) :
    Unplugged base e id (w.releaseInput id) := by
  obtain ⟨bus, sessions, s, heq, hdeclared, hs, hundo, howned⟩ := dropUndoSubscription_spec h
  have hreleased : (sessions.modify id fun s =>
      { s with input := { s.input with editing := false } }).get? id =
        some { s with input := { s.input with editing := false } } := by
    rw [Dict.get?_modify, if_pos rfl, hs]
    rfl
  unfold releaseInput
  rw [heq] at howned ⊢
  have hwelcoming := welcoming_of_declared h.welcoming hdeclared
  exact ⟨h.quiet, ⟨hwelcoming.refusals, hwelcoming.declared⟩, h.editor, _, hreleased, hundo, howned⟩

theorem stage_releaseSignals (h : Unplugged base e id w) :
    Stage base e none [] (w.releaseSignals id) := by
  obtain ⟨hquiet, hwelcoming, heditor, s, hs, -, howned⟩ := h
  obtain ⟨bus, heq, hdeclared⟩ := unsubscribeAll_eq s.subscriptions w
  have hall : Owned base ([] : List (EngineSignal × Nat))
      (s.subscriptions.foldl (fun w s => w.unsubscribe s.1 s.2) w) :=
    owned_unsubscribeAll (howned.mono fun r hr => by simpa using hr)
  rw [heq] at hall
  unfold releaseSignals
  rw [hs]
  simp only [heq]
  have hreleased := welcoming_of_declared hwelcoming hdeclared
  exact ⟨hquiet, ⟨hreleased.refusals, hreleased.declared⟩, heditor, hall⟩

theorem sessionTeardown_eq (id : Nat) (frontend : Frontend) : sessionTeardown id frontend =
    ["session view", "caret manager", "selection view manager"].map
        (fun part => tearDownPart frontend part fun w => w) ++
      tearDownPart frontend "input controller" (releaseInput id) ::
        (["link tooltip view", "field view"].map
            (fun part => tearDownPart frontend part fun w => w) ++
          [fun w => (.ok (), w.releaseSignals id)]) := rfl

/-- A session that is destroyed leaves no subscription behind, unless a part of it refuses. -/
theorem triple_sessionTeardown (frontend : Frontend) : Triple (Stage base e (some id) [])
    (.of (tearDownAll (sessionTeardown id frontend))) (fun _ => Stage base e none [])
    (fun _ => Stage base e (some id) []) := by
  have hnote : ∀ note (w : Workspace), Stage base e (some id) [] w →
      Stage base e (some id) [] (w.interfaceNote frontend note) := fun note w hw =>
    hw.undisturbed (undisturbed_interfaceNote hw.quiet frontend note)
  have hunplugged : ∀ note (w : Workspace), Unplugged base e id w →
      Unplugged base e id (w.interfaceNote frontend note) := fun note w hw =>
    unplugged_note hw frontend note
  rw [sessionTeardown_eq]
  refine triple_tearDownAll_append (fun action hmem => ?_) ?_
  · obtain ⟨part, -, rfl⟩ := List.mem_map.1 hmem
    exact triple_tearDownPart (hnote _) (fun _ hw => hw) fun _ _ hw => hw
  · refine triple_tearDownAll_cons (Q := Unplugged base e id) (triple_tearDownPart (hnote _)
      (fun _ hw => unplugged_releaseInput hw) fun _ _ hw => hw) ?_
    refine triple_tearDownAll_append (fun action hmem => ?_) ?_
    · obtain ⟨part, -, rfl⟩ := List.mem_map.1 hmem
      exact triple_tearDownPart (hunplugged _) (fun _ hw => hw) fun _ _ hw => unplugged_stage hw
    · intro w hw
      exact stage_releaseSignals hw

theorem triple_destroySession : Triple (Stage base e (some id) [])
    (.of (destroySession id)) (fun _ => Stage base e none [])
    (fun _ => Stage base e (some id) []) := by
  intro w hw
  obtain ⟨s, hs, -⟩ := hw.covered
  have hteardown := triple_sessionTeardown s.frontend w hw
  rw [Attempt.result_of] at hteardown ⊢
  unfold destroySession
  rw [hs]
  simp only
  cases hr : tearDownAll (sessionTeardown id s.frontend) w with
  | mk answer w' =>
      rw [hr] at hteardown
      cases answer with
      | ok _ => exact hteardown.undisturbed (undisturbed_dropSession hteardown.quiet id)
      | error cause => exact hteardown.undisturbed (undisturbed_dropSession hteardown.quiet id)

/-! ## Leaving a document -/

/-- The editor while it is being closed: it may still relay, but has no session. -/
def Leaving (options : EditorOptions) (w : Workspace) : Prop :=
  w.Quiet ∧ w.Welcoming ∧ ∃ e, w.editor = some e ∧ e.options = options ∧ e.state = .closing ∧
    e.session = none ∧ e.toolbar.attached = false

theorem leaving_of_stage {options : EditorOptions} (hoptions : e.options = options)
    (hstate : e.state = .closing) (hsession : e.session = none)
    (htoolbar : e.toolbar.attached = false) (h : Stage base e held records w) : Leaving options w :=
  ⟨h.quiet, h.welcoming, e, h.editor, hoptions, hstate, hsession, htoolbar⟩

def withoutRelay (e : Editor) (w : Workspace) : Workspace :=
  match e.metadataSubscription with
  | some id => w.unsubscribe .metadataChanged id
  | none => w

theorem detachRelays_eq (heditor : w.editor = some e) : ∃ undoManagers,
    w.detachRelays = { w.withoutRelay e with undoManagers }.modifyEditor Editor.silent := by
  unfold detachRelays
  rw [heditor]
  cases hmanager : e.undoManager with
  | none => exact ⟨(w.withoutRelay e).undoManagers, by simp only [hmanager]; rfl⟩
  | some manager =>
      cases hmodified : e.modifiedSubscription with
      | none => exact ⟨(w.withoutRelay e).undoManagers, by simp only [hmanager, hmodified]; rfl⟩
      | some subscription =>
          exact ⟨(w.withoutRelay e).undoManagers.modify manager (·.unsubscribe subscription),
            by simp only [hmanager, hmodified]; rfl⟩

theorem stage_detachRelays {relay : Nat} (hrelay : e.metadataSubscription = some relay)
    (h : Stage base e (some id) [(.metadataChanged, relay)] w) :
    Stage base e.silent (some id) [] w.detachRelays := by
  obtain ⟨undoManagers, heq⟩ := detachRelays_eq h.editor
  obtain ⟨s, hs, howned⟩ := h.covered
  rw [heq, withoutRelay, hrelay]
  have hunsubscribed : Stage base e (some id) [] (w.unsubscribe .metadataChanged relay) :=
    ⟨h.quiet, welcoming_of_declared h.welcoming rfl, h.editor, s, hs, owned_unsubscribe howned⟩
  have hmanaged : Stage base e (some id) []
      { w.unsubscribe .metadataChanged relay with undoManagers } :=
    hunsubscribed.congr rfl rfl rfl rfl hunsubscribed.editor
  exact hmanaged.modifyEditor Editor.silent

theorem closing_detachRelays {options : EditorOptions} (h : Leaving options w) :
    w.detachRelays.Quiet ∧ w.detachRelays.Welcoming ∧ ∃ e, w.detachRelays.editor = some e ∧
      e.options = options ∧ e.state = .closing ∧ e.Detached := by
  obtain ⟨hquiet, hwelcoming, e, heditor, hoptions, hstate, hsession, htoolbar⟩ := h
  obtain ⟨undoManagers, heq⟩ := detachRelays_eq heditor
  rw [heq, withoutRelay]
  have hdetached : e.silent.Detached := ⟨hsession, rfl, rfl, rfl, htoolbar⟩
  cases e.metadataSubscription with
  | none =>
      exact ⟨hquiet, ⟨hwelcoming.refusals, hwelcoming.declared⟩, e.silent,
        by simp [modifyEditor, heditor], hoptions, hstate, hdetached⟩
  | some relay =>
      exact ⟨hquiet, ⟨hwelcoming.refusals, hwelcoming.declared⟩, e.silent,
        by simp [modifyEditor, unsubscribe, heditor], hoptions, hstate, hdetached⟩

theorem triple_leaveDocument {options : EditorOptions} {cur : Editor} {relay : Nat}
    (hoptions : cur.options = options) (hstate : cur.state = .closing)
    (hsession : cur.session = none) (htoolbar : cur.toolbar.attached = false)
    (hrelay : cur.metadataSubscription = some relay) (e : Editor) :
    Triple (Stage base cur (some id) [(.metadataChanged, relay)]) (leaveDocument conduct e id)
      (fun _ => Stage base cur.silent none []) (fun _ => Leaving options) := by
  have hfail : ∀ w, Stage base cur (some id) [(.metadataChanged, relay)] w → Leaving options w :=
    fun w hw => leaving_of_stage hoptions hstate hsession htoolbar hw
  have hstep : ∀ {f : Workspace → Except EngineError Unit × Workspace},
      (∀ w, Quiet w → Undisturbed w (f w).2) →
      Triple (Stage base cur (some id) [(.metadataChanged, relay)]) (byEngine f)
        (fun _ => Stage base cur (some id) [(.metadataChanged, relay)])
        (fun _ => Leaving options) := fun h =>
    (triple_byEngine_of_lasting fun w hw => hw.undisturbed (h w hw.quiet)).mono (fun _ hw => hw)
      (fun _ _ hw => hw) fun _ w hw => hfail w hw
  refine leaveDocument_rule (hstep fun w hw => undisturbed_submitFor hw id .removeCursor)
    (hstep fun w hw => undisturbed_submission.submit hw [.removeMember e.member])
    (hstep fun w hw => undisturbed_closeEngine hw) (fun w hw => stage_detachRelays hrelay hw)
    fun w hw => ?_
  have hteardown := triple_destroySession w hw
  rw [Attempt.result_of] at hteardown
  cases hr : w.destroySession id with
  | mk answer w' =>
      rw [hr] at hteardown
      cases answer with
      | ok _ => exact hteardown
      | error cause =>
          exact leaving_of_stage (e := cur.silent) hoptions hstate hsession htoolbar hteardown

/-- What is left to do when the document could not be left. -/
theorem secure_abortClose {options : EditorOptions} (e : Editor) (id : Nat) (cause : EditorError)
    (hw : Leaving options w) : Secure options base
      ((w.detachRelays.report conduct e.id (.unknownError cause.message)).dropSession id) := by
  obtain ⟨hquiet, hwelcoming, cur, heditor, hoptions, hstate, hdetached⟩ := closing_detachRelays hw
  have hsecure : Secure options base w.detachRelays :=
    ⟨.closing cur hoptions hstate hdetached hquiet hwelcoming heditor,
      backed_of_detached hdetached heditor⟩
  have hreported := hsecure.undisturbed
    (told_report conduct e.id (.unknownError cause.message) hquiet).heard.undisturbed
  exact hreported.undisturbed (undisturbed_dropSession hreported.settled.quiet id)

/-! ## The whole way -/

theorem triple_closeDocument {options : EditorOptions} {relay : Nat}
    (hoptions : e.options = options) (hstate : e.state = .editing) (hattached : e.Attached id relay) :
    Triple (Stage base e (some id) [(.metadataChanged, relay)]) (closeDocument conduct e)
      (fun _ => Secure options base) (fun _ => Secure options base) := by
  have hnext : e.state.next? .close = some .closing := by
    rw [hstate]
    rfl
  let closing : Editor := { e with state := .closing }
  let alone : Editor := { closing with session := none }
  let detached : Editor := { alone with toolbar := { attached := false } }
  have hforget (w : Workspace) (hw : Stage base closing (some id) [(.metadataChanged, relay)] w) :
      Stage base alone (some id) [(.metadataChanged, relay)]
        (w.modifyEditor fun e => { e with session := none }) :=
    hw.modifyEditor fun e => { e with session := none }
  have hstop (w : Workspace) (hw : Stage base alone (some id) [(.metadataChanged, relay)] w) :
      Stage base alone (some id) [(.metadataChanged, relay)] (w.setEditing id false) :=
    hw.undisturbed (undisturbed_setEditing hw.quiet id false)
  have hdetach (w : Workspace) (hw : Stage base alone (some id) [(.metadataChanged, relay)] w) :
      Stage base detached (some id) [(.metadataChanged, relay)] (w.attachToolbar e false) := by
    have hnoted := hw.undisturbed
      (undisturbed_interfaceNote hw.quiet e.frontend (.attached false))
    exact hnoted.modifyEditor fun e => { e with toolbar := e.toolbar.attach false }
  have hsame : detached.options = options := hoptions
  have hrelay : detached.metadataSubscription = some relay := hattached.metadata
  have hleave : Triple (Stage base detached (some id) [(.metadataChanged, relay)])
      (leaveDocument conduct e id) (fun _ => Stage base detached.silent none [])
      (fun _ => Leaving options) :=
    triple_leaveDocument hsame rfl rfl rfl hrelay e
  have hclosed : Triple (Stage base detached.silent none []) (advance .closed)
      (fun _ => Secure options base) (fun _ => Secure options base) := by
    refine (triple_advance rfl).mono (fun _ hw => hw) (fun _ w hw => ?_) fun _ _ hw => hw
    exact .idle (e := { detached.silent with state := .closed }) hoptions (.inr (.inl rfl))
      ⟨rfl, rfl, rfl, rfl, rfl⟩ hw
  have hadvance : Triple (Stage base e (some id) [(.metadataChanged, relay)]) (advance .close)
      (fun _ => Stage base closing (some id) [(.metadataChanged, relay)])
      (fun _ => Secure options base) := triple_advance hnext
  exact closeDocument_rule hattached.session hadvance hforget hstop hdetach hleave
    (fun cause _ hw => secure_abortClose e id cause hw) hclosed

/-- Closing a document leaves the editor with what it keeps a record of, unless it is not allowed at
all. -/
theorem secure_closeDocument {options : EditorOptions} (h : Settled options base w)
    (heditor : w.editor = some e) : ((closeDocument conduct e).result w).2 = w ∨
      Secure options base ((closeDocument conduct e).result w).2 := by
  cases hnext : e.state.next? .close with
  | none => exact .inl (by rw [result_closeDocument_of_illegal heditor hnext])
  | some state =>
      obtain ⟨-, hediting⟩ := state_of_close hnext
      obtain ⟨hoptions, session, relay, hattached, hstage⟩ := h.stage_of_editing heditor hediting
      exact .inr ((triple_closeDocument hoptions hediting hattached).result hstage)

end Closing

end Workspace

end Coedit
