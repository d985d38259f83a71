import Coedit.Proofs.Editor.Periods
import Coedit.Proofs.Editor.Unsaved

/-!
# News of the flag in every run

Whatever is done with an editor, its session and its engine, as long as observers only listen: what
a listener hears between an opening and the next closing starts with the flag going up and tells
each time the opposite of what was told before. Between two commands the flag is where the listener
was told last, or down if it was told nothing. Otherwise it hears nothing, and the flag is down.
-/

namespace Coedit

/-- News that starts with the flag going up, and tells each time the opposite of what was told
before. -/
def Alternating (news : List Bool) : Prop := news.head? ≠ some false ∧ news.IsChain (· ≠ ·)

theorem alternating_of_isChain {news : List Bool} (h : (false :: news).IsChain (· ≠ ·)) :
    Alternating news := by
  cases news with
  | nil => exact ⟨by decide, .nil⟩
  | cons modified rest =>
      rw [List.isChain_cons_cons] at h
      exact ⟨fun hdown => h.1 (Option.some.inj hdown).symm, h.2⟩

namespace Workspace

open Attempt (Triple)
open Selection (modifications)

/-- Observers only listen, nothing is under way, and no undo manager tells an editor that is still
to come. -/
structure AtRest (w : Workspace) : Prop where
  quiet : w.Quiet
  free : w.holds = []
  unreported : w.reporting = []
  unborn : ∀ manager m, w.undoManagers.get? manager = some m →
    ∀ editor ∈ m.bus.handlers .modifiedChanged, editor < w.nextId

/-- Between two commands an editor has an undo manager only while it is editing, and only with the
feature. -/
structure Poised (label : String) (e : Editor) (w : Workspace) : Prop
    extends Attuned label e w where
  quiet : w.Quiet
  free : w.holds = []
  unmanaged : e.state ≠ .editing → e.undoManager = none
  without : e.options.features.undoRedo = false → e.undoManager = none

section Poised

variable {label : String} {w v : Workspace} {e : Editor} {stand : Stand} {state : EditorState}

theorem Poised.engaged (h : Poised label e w) (hengaged : Engaged label e w stand v)
    (hunmanaged : stand.state ≠ .editing → stand.manager = none)
    (hwithout : e.options.features.undoRedo = false → stand.manager = none) :
    ∃ e', Poised label e' v ∧ e'.options = e.options ∧ e'.stand = stand := by
  obtain ⟨e', he', -, hoptions, rfl⟩ := hengaged.editor
  refine ⟨e', ⟨he', hengaged.quiet, hengaged.holds.trans h.free, hunmanaged, ?_⟩, hoptions, rfl⟩
  rw [hoptions]
  exact hwithout

/-- What an editor that nobody holds is asked for, it does. -/
theorem execute_editor (hfree : w.holds = []) (he : w.editor = some e) (c : EditorCommand) :
    w.execute (.editor c) =
      ((doEditor conduct e { w with holds := (.editor, editorAccess c) :: w.holds } c).1,
        { (doEditor conduct e { w with holds := (.editor, editorAccess c) :: w.holds } c).2 with
          holds := w.holds }) := by
  rw [hfree]
  exact execute_editor_of_free he hfree c

theorem execute_isModified (h : Poised label e w) :
    (w.execute (.editor .isModified)).1 = .flag w.documentModified := by
  rw [execute_editor h.free h.editor, h.toAttuned.documentModified]
  rfl

/-! ## One command -/

theorem Mirroring.released {holds : List (Place × Access)}
    (h : Mirroring label e { w with holds } stand v) :
    Mirroring label e w stand { v with holds := w.holds } := by
  obtain ⟨e', he', hid, hoptions, hstand⟩ := h.editor
  exact ⟨⟨h.quiet, rfl, e', he'.holding w.holds, hid, hoptions, hstand⟩, h.news⟩

theorem Severed.released {holds : List (Place × Access)}
    (h : Severed label e { w with holds } state v) :
    Severed label e w state { v with holds := w.holds } := by
  obtain ⟨seated, hengaged⟩ := h.engaged
  obtain ⟨e', he', hid, hoptions, hstand⟩ := hengaged.editor
  exact ⟨⟨seated, h.quiet, rfl, e', he'.holding w.holds, hid, hoptions, hstand⟩, h.news⟩

/-- A command that leaves the editor in its state. -/
theorem Poised.mirrors (h : Poised label e w) {c : Command} (hc : c.sparesListener label = true)
    (hforbids : ∀ c', c = .editor c' → Forbids e c') :
    Mirroring label e w e.stand (w.execute c).2 := by
  refine (Mirroring.refl h.toAttuned h.quiet).mirrors (mirrors_execute h.quiet hc ?_)
  intro e' c' he' hcommand
  obtain rfl := Option.some.inj (h.editor.symm.trans he')
  exact hforbids c' hcommand

/-- While the editor is editing, it can only be closed. -/
theorem forbids_of_editing (hediting : e.state = .editing) {c : EditorCommand} (hc : c ≠ .close) :
    Forbids e c := by
  intro course hcourse
  rw [hediting]
  cases c with
  | close => exact absurd rfl hc
  | «open» | destroy =>
      obtain rfl := Option.some.inj hcourse
      rfl
  | _ => cases hcourse

theorem Poised.open (h : Poised label e w) (hstate : e.state ≠ .editing) (url : String) :
    ((w.execute (.editor (.open url))).1 = .done ∧ ∃ manager,
        Mirroring label e w ⟨.editing, manager, true⟩ (w.execute (.editor (.open url))).2 ∧
          (e.options.features.undoRedo = false → manager = none)) ∨
      (w.execute (.editor (.open url))).1 ≠ .done ∧ ∃ state, state ≠ .editing ∧
        Severed label e w state (w.execute (.editor (.open url))).2 := by
  let held : Workspace := { w with holds := (.editor, .exclusive) :: w.holds }
  have hopened := triple_openDocument_mirrors (h.toAttuned.holding _) (w := held) h.quiet
    (h.unmanaged hstate) hstate w.files url held rfl
  rw [execute_editor h.free h.editor]
  simp only [doEditor, editorAccess]
  cases hr : (openDocument conduct w.files e url).result held with
  | mk answer v =>
      rw [hr] at hopened
      cases answer with
      | ok _ =>
          obtain ⟨manager, hv, hundo⟩ := hopened
          exact .inl ⟨rfl, manager, hv.released, hundo⟩
      | error cause =>
          obtain ⟨state, hended, hv⟩ := hopened
          exact .inr ⟨(by simp [reply]), state, hended, hv.released⟩

/-- A document can be opened only after the one before was closed. -/
theorem Poised.opens (h : Poised label e w) {url : String}
    (hopen : (w.execute (.editor (.open url))).1 = .done) : e.state ≠ .editing := by
  intro hediting
  have hforbids := forbids_of_editing hediting (c := .open url) (by simp) _ rfl
  rw [execute_editor h.free h.editor, doEditor_of_illegal (by exact h.editor) rfl hforbids] at hopen
  cases hopen

theorem Poised.close (h : Poised label e w) (hediting : e.state = .editing) :
    ∃ state, state ≠ .editing ∧ Severed label e w state (w.execute (.editor .close)).2 := by
  let held : Workspace := { w with holds := (.editor, .exclusive) :: w.holds }
  have hclosed := triple_closeDocument_mirrors (h.toAttuned.holding _) (w := held) h.quiet hediting
    h.without held rfl
  rw [execute_editor h.free h.editor]
  simp only [doEditor, editorAccess]
  cases hr : (closeDocument conduct e).result held with
  | mk answer v =>
      rw [hr] at hclosed
      cases answer with
      | ok _ => exact ⟨_, by decide, hclosed.released⟩
      | error cause => exact ⟨_, by decide, hclosed.released⟩

theorem Poised.destroy (h : Poised label e w) (hnone : e.undoManager = none) :
    ∃ state seated, Mirroring label e w ⟨state, none, seated⟩
      (w.execute (.editor .destroy)).2 := by
  let held : Workspace := { w with holds := (.editor, .exclusive) :: w.holds }
  have hdestroyed := (triple_destroyEditor_mirrors (h.toAttuned.holding _) (w := held) h.quiet
    hnone).result rfl
  rw [execute_editor h.free h.editor]
  simp only [doEditor, editorAccess, reply_snd]
  obtain ⟨state, seated, hv⟩ := hdestroyed
  exact ⟨state, seated, hv.released⟩

/-- A command outside of a period that opens nothing. -/
theorem Poised.idle (h : Poised label e w) (hstate : e.state ≠ .editing) {c : Command}
    (hc : c.sparesListener label = true) (hopen : ∀ url, c ≠ .editor (.open url)) :
    ∃ state seated, Mirroring label e w ⟨state, none, seated⟩ (w.execute c).2 := by
  have hkept (hforbids : ∀ c', c = .editor c' → Forbids e c') :
      ∃ state seated, Mirroring label e w ⟨state, none, seated⟩ (w.execute c).2 := by
    have hmirrors := h.mirrors hc hforbids
    rw [Editor.stand, h.unmanaged hstate] at hmirrors
    exact ⟨_, _, hmirrors⟩
  cases c with
  | editor c =>
      cases c with
      | «open» url => exact absurd rfl (hopen url)
      | destroy => exact h.destroy (h.unmanaged hstate)
      | close =>
          refine hkept fun c' hc' course hcourse => ?_
          obtain rfl := Command.editor.inj hc'
          obtain rfl := Option.some.inj hcourse
          cases hs : e.state <;> first | rfl | exact absurd hs hstate
      | _ =>
          refine hkept fun c' hc' course hcourse => ?_
          obtain rfl := Command.editor.inj hc'
          cases hcourse
  | _ => exact hkept fun c' hc' => by cases hc'

/-- Whatever command comes, the listener hears each change of the flag, or the editor lets go of
its undo manager. -/
theorem Poised.step (h : Poised label e w) {c : Command} (hc : c.sparesListener label = true) :
    (∃ stand, Mirroring label e w stand (w.execute c).2 ∧
      (stand.state ≠ .editing → stand.manager = none) ∧
        (e.options.features.undoRedo = false → stand.manager = none)) ∨
    ∃ state, Severed label e w state (w.execute c).2 := by
  by_cases hediting : e.state = .editing
  · by_cases hclose : c = .editor .close
    · subst hclose
      obtain ⟨state, -, hsevered⟩ := h.close hediting
      exact .inr ⟨state, hsevered⟩
    · refine .inl ⟨e.stand, h.mirrors hc fun c' hc' => ?_, h.unmanaged, h.without⟩
      refine forbids_of_editing hediting fun hsame => hclose ?_
      rw [hc', hsame]
  · by_cases hopen : ∃ url, c = .editor (.open url)
    · obtain ⟨url, rfl⟩ := hopen
      rcases h.open hediting url with ⟨-, manager, hmirroring, hundo⟩ | ⟨-, state, -, hsevered⟩
      · exact .inl ⟨_, hmirroring, fun hstate => absurd rfl hstate, hundo⟩
      · exact .inr ⟨state, hsevered⟩
    · obtain ⟨state, seated, hmirroring⟩ := h.idle hediting hc fun url hurl => hopen ⟨url, hurl⟩
      exact .inl ⟨_, hmirroring, fun _ => rfl, fun _ => rfl⟩

/-! ## Runs -/

theorem Poised.severed (h : Poised label e w) (hsevered : Severed label e w state v) :
    ∃ e', Poised label e' v ∧ e'.options = e.options ∧ e'.state = state ∧
      e'.undoManager = none := by
  obtain ⟨seated, hengaged⟩ := hsevered.engaged
  obtain ⟨e', he', hoptions, hstand⟩ := h.engaged hengaged (fun _ => rfl) fun _ => rfl
  exact ⟨e', he', hoptions, congrArg Stand.state hstand, congrArg Stand.manager hstand⟩

theorem documentModified_of_unmanaged (h : Poised label e w) (hnone : e.undoManager = none) :
    w.documentModified = false := by
  rw [h.toAttuned.documentModified, isModified_of_unmanaged hnone]

theorem Poised.run (h : Poised label e w) {commands : List Command}
    (hcommands : ∀ c ∈ commands, c.sparesListener label = true) :
    let w' := commands.foldl (fun w c => (w.execute c).2) w
    ∃ e', Poised label e' w' ∧ e'.options = e.options ∧
      (e.options.features.undoRedo = false →
        w'.noted (modifications label) = w.noted (modifications label)) := by
  induction commands generalizing w e with
  | nil => exact ⟨e, h, rfl, fun _ => rfl⟩
  | cons c rest ih =>
      have hnext : ∃ e', Poised label e' (w.execute c).2 ∧ e'.options = e.options ∧
          (e.options.features.undoRedo = false →
            (w.execute c).2.noted (modifications label) = w.noted (modifications label)) := by
        rcases h.step (hcommands c List.mem_cons_self) with
          ⟨stand, hmirroring, hunmanaged, hwithout⟩ | ⟨state, hsevered⟩
        · obtain ⟨e', he', hoptions, -⟩ :=
            h.engaged hmirroring.toEngaged hunmanaged hwithout
          obtain ⟨news, hnoted, -, hsilent⟩ := hmirroring.news
          refine ⟨e', he', hoptions, fun hundo => ?_⟩
          rw [hnoted, hsilent (hwithout hundo), List.append_nil]
        · obtain ⟨e', he', hoptions, -⟩ := h.severed hsevered
          obtain ⟨news, hnoted, -, hsilent⟩ := hsevered.news
          refine ⟨e', he', hoptions, fun hundo => ?_⟩
          rw [hnoted, hsilent hundo, List.append_nil]
      obtain ⟨e', he', hoptions, hsilent⟩ := hnext
      obtain ⟨e'', he'', hoptions', hsilent'⟩ :=
        ih he' fun other hmem => hcommands other (List.mem_cons_of_mem _ hmem)
      exact ⟨e'', he'', hoptions'.trans hoptions, fun hundo =>
        (hsilent' (by rw [hoptions, hundo])).trans (hsilent hundo)⟩

/-- As long as the document is not closed, the listener hears each change of the flag. -/
theorem Mirroring.run {manager : Option Nat} (h : Mirroring label e w ⟨.editing, manager, true⟩ v)
    {within : List Command}
    (hwithin : ∀ c ∈ within, c.sparesListener label = true ∧ c ≠ .editor .close) :
    Mirroring label e w ⟨.editing, manager, true⟩
      (within.foldl (fun w c => (w.execute c).2) v) := by
  induction within generalizing v with
  | nil => exact h
  | cons c rest ih =>
      obtain ⟨hspares, hclose⟩ := hwithin c List.mem_cons_self
      refine ih (h.mirrors (mirrors_execute h.quiet hspares fun e' c' he' hc' => ?_))
        fun other hmem => hwithin other (List.mem_cons_of_mem _ hmem)
      obtain ⟨cur, hcur, -, -, hstand⟩ := h.editor
      obtain rfl := Option.some.inj (he'.symm.trans hcur.editor)
      refine forbids_of_editing (congrArg Stand.state hstand) fun hsame => hclose ?_
      rw [hc', hsame]

/-- A new editor, and the first to subscribe to it. -/
theorem poised_start (h : w.AtRest) (spec : EditorSpec) (label : String) (times : Nat) :
    ∃ e, e.options = spec.options ∧ Poised label e ((w.createEditor spec).execute
      (.watchEditor .documentModifiedChanged label [] times)).2 := by
  have hfirst {v : Workspace} (hv : v.AtRest) (e : Editor) (replaced : List Editor)
      (hid : e.id = v.nextId) (hbus : e.bus = { declared := EditorSignal.all })
      (hnone : e.undoManager = none) (hstate : e.state = .uninitialized) :
      Poised label { e with bus :=
          { declared := EditorSignal.all
            subscriptions := [⟨0, .documentModifiedChanged, v.nextId + 1⟩], nextId := 1 } }
        (execute (.watchEditor .documentModifiedChanged label [] times)
          { v with nextId := v.nextId + 1, replaced, editor := some e }).2 := by
    let made : Workspace := { v with nextId := v.nextId + 1, replaced, editor := some e }
    have hwatched : (made.execute (.watchEditor .documentModifiedChanged label [] times)).2 =
        { (made.modifyEditor fun e => { e with bus :=
            { declared := EditorSignal.all
              subscriptions := [⟨0, .documentModifiedChanged, v.nextId + 1⟩]
              nextId := 1 } }).addObserver label [] times with holds := v.holds } := by
      have hall : made.isFree .editor .shared = true := by
        unfold isFree
        rw [show made.holds = [] from hv.free]
        rfl
      have hstep : made.execute (.watchEditor .documentModifiedChanged label [] times) =
          made.holding .editor .shared (watchEditor .documentModifiedChanged label [] times e) := by
        rw [execute_eq_step]
        rfl
      rw [hstep, holding, if_pos hall, watchEditor, hbus]
      rfl
    rw [hwatched]
    refine ⟨⟨by simp [addObserver, Workspace.modifyEditor, made], fun h => ?_, hv.unreported,
      fun sub hsub => ?_, fun _ => ⟨v.nextId + 1, ?_⟩, fun manager m hm htold => ?_,
      fun manager hmanager => ?_⟩, quiet_addObserver (w := made) hv.quiet label times, hv.free,
      fun _ => hnone, fun _ => hnone⟩
    · rw [hstate] at h
      cases h
    · rw [List.mem_singleton.1 hsub]
      exact Nat.lt_succ_self _
    · simp [watches, label?, addObserver, Workspace.modifyEditor, made]
    · have hlt := hv.unborn manager m hm e.id htold
      exact absurd hid hlt.ne
    · rw [hnone] at hmanager
      cases hmanager
  unfold createEditor
  cases w.editor.bind (·.session) with
  | none => exact ⟨_, rfl, hfirst h _ _ rfl rfl rfl rfl⟩
  | some id =>
      have hdropped : (w.dropSession id).AtRest := ⟨h.quiet, h.free, h.unreported, h.unborn⟩
      exact ⟨_, rfl, hfirst hdropped _ _ rfl rfl rfl rfl⟩

end Poised

/-- In every run, what a listener hears of the flag from an opening to the next closing starts with
the flag going up and tells each time the opposite of what was told before; between two commands
the flag is where the listener was told last, or down if it was told nothing. While no document is
open nothing is heard, and the flag is down; and without the feature that holds throughout. -/
theorem modified_news_mirrors_flag {w₀ : Workspace} (hrest : w₀.AtRest) (spec : EditorSpec)
    (label : String) (times : Nat) {before : List Command}
    (hbefore : ∀ c ∈ before, c.sparesListener label = true) :
    let start := ((w₀.createEditor spec).execute
      (.watchEditor .documentModifiedChanged label [] times)).2
    let heard (w : Workspace) := w.noted (modifications label)
    let flag (w : Workspace) := (w.execute (.editor .isModified)).1
    let w := before.foldl (fun w c => (w.execute c).2) start
    (∀ (url : String) (within : List Command), (w.execute (.editor (.open url))).1 = .done →
      (∀ c ∈ within, c.sparesListener label = true ∧ c ≠ .editor .close) →
      let inside := within.foldl (fun w c => (w.execute c).2) (w.execute (.editor (.open url))).2
      let closed := (inside.execute (.editor .close)).2
      ∃ news last, heard inside = heard w ++ news ∧ heard closed = heard inside ++ last ∧
        Alternating (news ++ last) ∧ flag inside = .flag (news.getLast?.getD false) ∧
        inside.editor.map (·.state) = some .editing ∧
        closed.editor.map (·.state) ≠ some .editing) ∧
    (w.editor.map (·.state) ≠ some .editing → flag w = .flag false ∧
      (∀ c : Command, c.sparesListener label = true → (∀ url, c ≠ .editor (.open url)) →
        heard (w.execute c).2 = heard w) ∧
      ∀ url, (w.execute (.editor (.open url))).1 ≠ .done →
        let failed := (w.execute (.editor (.open url))).2
        ∃ news, heard failed = heard w ++ news ∧ Alternating news ∧
          failed.editor.map (·.state) ≠ some .editing) ∧
    (spec.options.features.undoRedo = false → heard w = heard start ∧ flag w = .flag false) := by
  intro start heard flag w
  obtain ⟨first, hfirst, hstart⟩ := poised_start hrest spec label times
  obtain ⟨e, he, hoptions, hsilent⟩ := hstart.run hbefore
  have hdown {e : Editor} {v : Workspace} (hv : Poised label e v) (hnone : e.undoManager = none) :
      flag v = .flag false := by
    rw [← documentModified_of_unmanaged hv hnone]
    exact execute_isModified hv
  have hopens {v : Workspace} {e : Editor} (hv : Poised label e v) {state : EditorState}
      (hstate : v.editor.map (·.state) ≠ some state) : e.state ≠ state := by
    rw [hv.editor, Option.map_some] at hstate
    exact fun h => hstate (congrArg some h)
  refine ⟨fun url within hopen hwithin => ?_, fun hstate => ⟨?_, ?_, ?_⟩, fun hundo => ⟨?_, ?_⟩⟩
  · intro inside closed
    have hstate := he.opens hopen
    obtain ⟨-, manager, hopened, hundo⟩ | ⟨hfailed, -⟩ := he.open hstate url
    · have hinside : Mirroring label e w ⟨.editing, manager, true⟩ inside := hopened.run hwithin
      obtain ⟨e', he', -, hstand⟩ := he.engaged hinside.toEngaged
        (fun hleft => absurd rfl hleft) hundo
      have hediting : e'.state = .editing := congrArg Stand.state hstand
      obtain ⟨state, hended, hsevered⟩ := he'.close hediting
      obtain ⟨news, hnews, hswings, -⟩ := hinside.news
      obtain ⟨last, hlast, hchain, -⟩ := hsevered.news
      obtain ⟨e'', he'', -, hstate'', -⟩ := he'.severed hsevered
      rw [isModified_of_unmanaged (he.unmanaged hstate)] at hswings
      rw [← he'.toAttuned.documentModified] at hchain
      refine ⟨news, last, hnews, hlast, alternating_of_isChain (hswings.isChain_append hchain),
        ?_, ?_, ?_⟩
      · rw [← hswings.last]
        exact execute_isModified he'
      · rw [he'.editor, Option.map_some, hediting]
      · rw [he''.editor, Option.map_some, hstate'']
        exact fun h => hended (Option.some.inj h)
    · exact absurd hopen hfailed
  · exact hdown he (he.unmanaged (hopens he hstate))
  · intro c hc hopen
    obtain ⟨state, seated, hmirroring⟩ := he.idle (hopens he hstate) hc hopen
    obtain ⟨news, hnoted, -, hnone⟩ := hmirroring.news
    exact hnoted.trans (by rw [hnone rfl, List.append_nil])
  · intro url hopen failed
    obtain ⟨hdone, -⟩ | ⟨-, state, hended, hsevered⟩ := he.open (hopens he hstate) url
    · exact absurd hdone hopen
    · obtain ⟨news, hnews, hchain, -⟩ := hsevered.news
      obtain ⟨e', he', -, hstate', -⟩ := he.severed hsevered
      rw [isModified_of_unmanaged (he.unmanaged (hopens he hstate))] at hchain
      refine ⟨news, hnews, alternating_of_isChain hchain, ?_⟩
      rw [he'.editor, Option.map_some, hstate']
      exact fun h => hended (Option.some.inj h)
  · exact hsilent (by rw [hfirst, hundo])
  · exact hdown he (he.without (by rw [hoptions, hfirst, hundo]))

/-- The second title is applied when the document is closed, and the listener hears of that. -/
theorem modified_news_mirrors_flag_in_retitling :
    let start := ((createEditor { member := ⟨"m"⟩, options := .withAllFeatures } {}).execute
      (.watchEditor .documentModifiedChanged "listener" [] 0)).2
    let w := (start.execute (.engine (.register "doc" {}))).2
    let inside := retitling.foldl (fun w c => (w.execute c).2)
      (w.execute (.editor (.open "doc"))).2
    let closed := (inside.execute (.editor .close)).2
    inside.noted (modifications "listener") = [true, false] ∧
      (inside.execute (.editor .isModified)).1 = .flag false ∧
      closed.noted (modifications "listener") = [true, false, true] ∧
      Alternating [true, false, true] := by
  intro start w inside closed
  have hrest : AtRest {} :=
    { quiet := fun _ _ h => by cases h
      free := rfl
      unreported := rfl
      unborn := fun _ _ h => by cases h }
  have hwithin : ∀ c ∈ retitling,
      c.sparesListener "listener" = true ∧ c ≠ .editor .close := by
    intro c hc
    simp only [retitling, List.mem_cons, List.not_mem_nil, or_false] at hc
    rcases hc with rfl | rfl | rfl | rfl <;> exact ⟨rfl, by simp⟩
  have hbefore : ∀ c ∈ [Command.engine (.register "doc" {})],
      c.sparesListener "listener" = true := by decide
  obtain ⟨hperiod, -, -⟩ := modified_news_mirrors_flag hrest
    { member := ⟨"m"⟩, options := .withAllFeatures } "listener" 0 hbefore
  obtain ⟨news, last, hinside, hclosed, halternating, hflag, -⟩ :=
    hperiod "doc" retitling (by rfl) hwithin
  replace hinside : inside.noted (modifications "listener") =
      w.noted (modifications "listener") ++ news := hinside
  replace hclosed : closed.noted (modifications "listener") =
      inside.noted (modifications "listener") ++ last := hclosed
  have hnothing : w.noted (modifications "listener") = [] := by decide +kernel
  have hheard : inside.noted (modifications "listener") = [true, false] := by decide +kernel
  have hend : closed.noted (modifications "listener") = [true, false, true] := by decide +kernel
  rw [hheard, hnothing, List.nil_append] at hinside
  subst hinside
  rw [← hheard, ← hclosed, hend] at halternating
  exact ⟨hheard, hflag, hend, halternating⟩

end Workspace

end Coedit
