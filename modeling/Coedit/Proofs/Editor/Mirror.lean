import Coedit.Proofs.Editor.Noticing
import Coedit.Proofs.Workspace.Hearing

/-!
# News of the flag

An editor passes on every change of the flag of its undo manager, and of no other one, as soon as
it happens. So what a listener hears swings to and fro between the flag being up and being down,
as the flag itself does, whatever is submitted, applied and announced meanwhile.
-/

namespace Coedit

/-- What listeners with this label hear about the flag of an editor's undo manager. -/
def Selection.modifications (label : String) : Selection Bool
  | listener, .editor (.documentModifiedChanged modified) =>
    if listener = label then some modified else none
  | _, _ => none

/-- News of a flag that goes from `up` to `up'`, one for each time that it changes. -/
def Swings : Bool → List Bool → Bool → Prop
  | up, [], up' => up' = up
  | up, modified :: rest, up' => modified = !up ∧ Swings modified rest up'

namespace Swings

variable {up up' up'' : Bool} {news later : List Bool}

theorem append (h : Swings up news up') (h' : Swings up' later up'') :
    Swings up (news ++ later) up'' := by
  induction news generalizing up with
  | nil =>
      obtain rfl := h
      exact h'
  | cons modified rest ih => exact ⟨h.1, ih h.2⟩

/-- What goes on with the opposite of what was told last alternates as a whole. -/
theorem isChain_append (h : Swings up news up') (hlater : (up' :: later).IsChain (· ≠ ·)) :
    (up :: (news ++ later)).IsChain (· ≠ ·) := by
  induction news generalizing up with
  | nil =>
      obtain rfl := h
      exact hlater
  | cons modified rest ih =>
      refine .cons_cons ?_ (ih h.2)
      rw [h.1]
      cases up <;> decide

theorem isChain (h : Swings up news up') : (up :: news).IsChain (· ≠ ·) := by
  have hall := h.isChain_append (.singleton up')
  rwa [List.append_nil] at hall

/-- The last that was heard of the flag is where it is. -/
theorem last (h : Swings up news up') : up' = news.getLast?.getD up := by
  induction news generalizing up with
  | nil => exact h
  | cons modified rest ih =>
      rw [ih h.2, List.getLast?_cons]
      rfl

end Swings

structure Stand where
  state : EditorState
  manager : Option Nat
  seated : Bool

def Editor.stand (e : Editor) : Stand := ⟨e.state, e.undoManager, e.session.isSome⟩

structure Editor.Alike (e e' : Editor) : Prop where
  id : e'.id = e.id
  options : e'.options = e.options
  stand : e'.stand = e.stand

theorem Editor.Alike.refl (e : Editor) : e.Alike e := ⟨rfl, rfl, rfl⟩

theorem Editor.Alike.trans {e e' e'' : Editor} (h : e.Alike e') (h' : e'.Alike e'') : e.Alike e'' :=
  ⟨h'.id.trans h.id, h'.options.trans h.options, h'.stand.trans h.stand⟩

theorem Editor.Alike.undoManager {e e' : Editor} (h : e.Alike e') :
    e'.undoManager = e.undoManager := congrArg Stand.manager h.stand

theorem Editor.Alike.state {e e' : Editor} (h : e.Alike e') : e'.state = e.state :=
  congrArg Stand.state h.stand

theorem Editor.Alike.seated {e e' : Editor} (h : e.Alike e') :
    e'.session.isSome = e.session.isSome := congrArg Stand.seated h.stand

namespace Workspace

open Selection (modifications)

def label? (w : Workspace) (observer : Nat) : Option String :=
  (w.observers.get? observer).map (·.label)

def watches (label : String) (w : Workspace) (sub : Subscription EditorSignal Nat) : Bool :=
  sub.kind == .documentModifiedChanged && w.label? sub.handler == some label

/-- The editor, which has a session if it is editing, passes on what happens to the flag of its undo
manager, and of no other one, and one listener has this label. That one was the first to subscribe,
and stays as long as there is anything to hear. -/
structure Attuned (label : String) (e : Editor) (w : Workspace) : Prop where
  editor : w.editor = some e
  seated : e.state = .editing → e.session.isSome = true
  unreported : w.reporting = []
  numbered : ∀ sub ∈ e.bus.subscriptions, sub.handler < w.nextId
  listens : e.state ≠ .destroyed → ∃ observer,
    e.bus.subscriptions.filter (watches label w) = [⟨0, .documentModifiedChanged, observer⟩]
  told : ∀ manager m, w.undoManagers.get? manager = some m →
    e.id ∈ m.bus.handlers .modifiedChanged → e.undoManager = some manager
  managed : ∀ manager, e.undoManager = some manager →
    manager < w.nextId ∧ e.state ≠ .destroyed ∧ e.modifiedSubscription = some 0 ∧
      (w.undoManagers.get? manager).map (·.bus.subscriptions) = some [⟨0, .modifiedChanged, e.id⟩]

/-- What is heard about the flag on the way from one workspace to another is what happens to it. -/
structure Reflected (label : String) (e : Editor) (w : Workspace) (e' : Editor) (w' : Workspace)
    (news : List Bool) : Prop where
  noted : w'.noted (modifications label) = w.noted (modifications label) ++ news
  swings : Swings (w.isModified e) news (w'.isModified e')
  unmanaged : e.undoManager = none → news = []

structure Mirrors (label : String) (w w' : Workspace) : Prop where
  quiet : w'.Quiet
  holds : w'.holds = w.holds
  editor : ∀ e, Attuned label e w →
    ∃ e', Attuned label e' w' ∧ e.Alike e' ∧ ∃ news, Reflected label e w e' w' news

section Attuned

variable {label : String} {w w' w'' : Workspace} {e e' : Editor}

theorem Attuned.editor? (h : Attuned label e w) (editor : Nat) :
    w.editor? editor = if e.id = editor then some e else none := by
  unfold Workspace.editor?
  rw [h.editor, h.unreported]
  by_cases hid : e.id = editor <;> simp [hid]

/-- Whoever is told of the flag of the editor's undo manager, the editor is. -/
theorem Attuned.manager (h : Attuned label e w) {manager : Nat}
    (hmanager : e.undoManager = some manager) :
    ∃ m, w.undoManagers.get? manager = some m ∧ m.bus.handlers .modifiedChanged = [e.id] := by
  obtain ⟨-, -, -, hmap⟩ := h.managed manager hmanager
  obtain ⟨m, hm, hsubscriptions⟩ := Option.map_eq_some_iff.1 hmap
  refine ⟨m, hm, ?_⟩
  unfold SignalBus.handlers
  rw [hsubscriptions]
  rfl

theorem isModified_of_unmanaged (h : e.undoManager = none) : w.isModified e = false := by
  unfold isModified
  rw [h]
  rfl

theorem isModified_of_manager {manager : Nat} {m : UndoManager Nat}
    (hmanager : e.undoManager = some manager) (hm : w.undoManagers.get? manager = some m) :
    w.isModified e = m.modified := by
  unfold isModified
  rw [hmanager, Option.bind_some, hm]
  rfl

theorem isModified_of_alike (h : e.Alike e')
    (hmanagers : ∀ manager, e.undoManager = some manager →
      w'.undoManagers.get? manager = w.undoManagers.get? manager) :
    w'.isModified e' = w.isModified e := by
  unfold isModified
  rw [h.undoManager]
  cases hmanager : e.undoManager with
  | none => rfl
  | some manager =>
      rw [Option.bind_some, Option.bind_some, hmanagers manager hmanager]

theorem filter_watches_of_labels {subs : List (Subscription EditorSignal Nat)}
    (hnumbered : ∀ sub ∈ subs, sub.handler < w.nextId)
    (hlabels : ∀ id < w.nextId, w'.label? id = w.label? id) :
    subs.filter (watches label w') = subs.filter (watches label w) := by
  refine List.filter_congr fun sub hsub => ?_
  unfold watches
  rw [hlabels _ (hnumbered sub hsub)]

/-- What listeners and undo managers do is up to whom they are, not to what they know. -/
theorem Attuned.carried (h : Attuned label e w) (heditor : w'.editor = w.editor)
    (hreporting : w'.reporting = w.reporting) (hnextId : w.nextId ≤ w'.nextId)
    (hlabels : ∀ id < w.nextId, w'.label? id = w.label? id)
    (hbuses : ∀ manager, (w'.undoManagers.get? manager).map (·.bus) =
      (w.undoManagers.get? manager).map (·.bus)) : Attuned label e w' where
  editor := heditor.trans h.editor
  seated := h.seated
  unreported := hreporting.trans h.unreported
  numbered := fun sub hsub => (h.numbered sub hsub).trans_le hnextId
  listens := by
    rw [filter_watches_of_labels h.numbered hlabels]
    exact h.listens
  told := by
    intro manager m' hm' htold
    have hbus := hbuses manager
    rw [hm'] at hbus
    obtain ⟨m, hm, hsame⟩ := Option.map_eq_some_iff.1 hbus.symm
    exact h.told manager m hm (by rw [hsame]; exact htold)
  managed := by
    intro manager hmanager
    obtain ⟨hlt, hstate, hrecord, hsubscriptions⟩ := h.managed manager hmanager
    refine ⟨hlt.trans_le hnextId, hstate, hrecord, ?_⟩
    have hsame := congrArg (Option.map (·.subscriptions)) (hbuses manager)
    rw [Option.map_map, Option.map_map] at hsame
    exact hsame.trans hsubscriptions

/-- The listener notes each change of the flag once. -/
theorem notices_modifications {subs : List (Subscription EditorSignal Nat)} (modified : Bool) :
    w.notices (modifications label) (.editor (.documentModifiedChanged modified))
        ((subs.filter (·.kind == .documentModifiedChanged)).map (·.handler)) =
      (subs.filter (watches label w)).map fun _ => modified := by
  induction subs with
  | nil => rfl
  | cons sub rest ih =>
      have hone : w.notices (modifications label) (.editor (.documentModifiedChanged modified))
          [sub.handler] = if w.label? sub.handler = some label then [modified] else [] := by
        unfold notices label?
        rw [List.filterMap_cons]
        cases (w.observers.get? sub.handler).map (·.label) with
        | none => rfl
        | some listener =>
            by_cases hlabel : listener = label <;> simp [modifications, hlabel]
      cases hkind : sub.kind == .documentModifiedChanged with
      | false =>
          simp only [List.filter_cons, watches, hkind, Bool.false_and, Bool.false_eq_true, if_false]
          exact ih
      | true =>
          simp only [List.filter_cons, hkind, if_true, List.map_cons]
          rw [← List.singleton_append, notices_append, hone, ih]
          by_cases hlabel : w.label? sub.handler = some label <;>
            simp [watches, hkind, hlabel]

theorem Attuned.notices (h : Attuned label e w) (hstate : e.state ≠ .destroyed) (modified : Bool) :
    w.notices (modifications label) (.editor (.documentModifiedChanged modified))
      (e.bus.handlers .documentModifiedChanged) = [modified] := by
  obtain ⟨observer, hlistens⟩ := h.listens hstate
  unfold SignalBus.handlers
  rw [notices_modifications, hlistens]
  rfl

end Attuned

/-! ## What leaves the flag alone -/

structure Aside (label : String) (w w' : Workspace) : Prop where
  quiet : w.Quiet → w'.Quiet
  holds : w'.holds = w.holds
  editor : w'.editor = w.editor
  reporting : w'.reporting = w.reporting
  nextId : w.nextId ≤ w'.nextId
  labels : ∀ id < w.nextId, w'.label? id = w.label? id
  managers : ∀ manager, w'.undoManagers.get? manager = w.undoManagers.get? manager
  noted : w'.noted (modifications label) = w.noted (modifications label)

section Aside

variable {label : String} {w w' w'' : Workspace} {e e' : Editor}

theorem Aside.refl (w : Workspace) : Aside label w w :=
  ⟨id, rfl, rfl, rfl, Nat.le_refl _, fun _ _ => rfl, fun _ => rfl, rfl⟩

theorem Aside.trans (h : Aside label w w') (h' : Aside label w' w'') : Aside label w w'' where
  quiet := h'.quiet ∘ h.quiet
  holds := h'.holds.trans h.holds
  editor := h'.editor.trans h.editor
  reporting := h'.reporting.trans h.reporting
  nextId := h.nextId.trans h'.nextId
  labels := fun id hid => (h'.labels id (hid.trans_le h.nextId)).trans (h.labels id hid)
  managers := fun manager => (h'.managers manager).trans (h.managers manager)
  noted := h'.noted.trans h.noted

theorem Aside.attuned (h : Aside label w w') (he : Attuned label e w) : Attuned label e w' :=
  he.carried h.editor h.reporting h.nextId h.labels fun manager => by rw [h.managers manager]

theorem Aside.mirrors (h : Aside label w w') (hquiet : w.Quiet) : Mirrors label w w' where
  quiet := h.quiet hquiet
  holds := h.holds
  editor := fun e he => ⟨e, h.attuned he, .refl e, [], by rw [h.noted, List.append_nil],
    isModified_of_alike (.refl e) fun manager _ => h.managers manager, fun _ => rfl⟩

/-- Sessions, the engine, and reports of others do not matter. -/
theorem aside_of_same (hholds : w'.holds = w.holds) (heditor : w'.editor = w.editor)
    (hreporting : w'.reporting = w.reporting) (hnextId : w'.nextId = w.nextId)
    (hobservers : w'.observers = w.observers) (hmanagers : w'.undoManagers = w.undoManagers)
    (hlog : w'.log = w.log) : Aside label w w' where
  quiet := by
    unfold Quiet
    rw [hobservers]
    exact id
  holds := hholds
  editor := heditor
  reporting := hreporting
  nextId := hnextId.ge
  labels := fun _ _ => by
    unfold label?
    rw [hobservers]
  managers := fun _ => by rw [hmanagers]
  noted := by
    unfold noted
    rw [hlog]

theorem aside_interfaceNote (frontend : Frontend) (note : InterfaceNote) (w : Workspace) :
    Aside label w (w.interfaceNote frontend note) := by
  cases frontend with
  | headless => exact .refl w
  | recording failing =>
      refine ⟨id, rfl, rfl, rfl, Nat.le_refl _, fun _ _ => rfl, fun _ => rfl, ?_⟩
      unfold interfaceNote record noted
      rw [List.filterMap_append]
      exact List.append_nil _

theorem aside_unwinding (label : String) : Unwinding (Aside label) where
  refl := .refl
  trans := .trans
  note := fun w frontend note => aside_interfaceNote frontend note w
  unsubscribe := fun _ _ _ => aside_of_same rfl rfl rfl rfl rfl rfl rfl
  session := fun _ _ => aside_of_same rfl rfl rfl rfl rfl rfl rfl

/-- What is heard of something else. -/
theorem Heard.aside (h : Heard w w') (hadds : Adds (modifications label) [] w w')
    (hmanagers : w'.undoManagers = w.undoManagers) : Aside label w w' := by
  have hnoted := hadds.noted
  rw [List.append_nil] at hnoted
  have hlabels := hadds.labels
  obtain ⟨observers, log, undoManagers, sessions, rfl, hquiet, -⟩ := h
  exact ⟨fun _ => hquiet, rfl, rfl, rfl, Nat.le_refl _, fun id _ => hlabels id,
    fun manager => congrArg (·.get? manager) hmanagers, hnoted⟩

end Aside

section Mirrors

variable {label : String} {w w' w'' : Workspace} {e e' e'' : Editor}

theorem Reflected.trans {news later : List Bool} (h : Reflected label e w e' w' news)
    (h' : Reflected label e' w' e'' w'' later) (halike : e.Alike e') :
    Reflected label e w e'' w'' (news ++ later) where
  noted := by rw [h'.noted, h.noted, List.append_assoc]
  swings := h.swings.append h'.swings
  unmanaged := by
    intro hnone
    rw [h.unmanaged hnone, h'.unmanaged (halike.undoManager.trans hnone)]
    rfl

theorem Mirrors.trans (h : Mirrors label w w') (h' : Mirrors label w' w'') :
    Mirrors label w w'' where
  quiet := h'.quiet
  holds := h'.holds.trans h.holds
  editor := by
    intro e he
    obtain ⟨e', he', halike, news, hnews⟩ := h.editor e he
    obtain ⟨e'', he'', halike', later, hlater⟩ := h'.editor e' he'
    exact ⟨e'', he'', halike.trans halike', _, hnews.trans hlater halike⟩

theorem Mirrors.refl (h : w.Quiet) : Mirrors label w w := (Aside.refl w).mirrors h

theorem Mirrors.foldl {β : Type} {f : Workspace → β → Workspace} {l : List β}
    (h : ∀ b w, Quiet w → Mirrors label w (f w b)) (hquiet : w.Quiet) :
    Mirrors label w (l.foldl f w) := by
  induction l generalizing w with
  | nil => exact .refl hquiet
  | cons b rest ih =>
      have hfirst := h b w hquiet
      exact hfirst.trans (ih hfirst.quiet)

/-! ## Setting a flag -/

/-- An event for an editor that cannot be reached is lost. -/
theorem report_of_unreached (act : Conduct) {editor : Nat} (event : EditorEvent)
    (h : w.editor? editor = none) : w.report act editor event = w := by
  unfold report
  rw [h]

theorem setModified_of_same (act : Conduct) {id : Nat} {m : UndoManager Nat}
    (hm : w.undoManagers.get? id = some m) :
    w.setModified act id m.modified = { w with undoManagers := w.undoManagers.insert id m } := by
  unfold setModified UndoManager.setModified
  rw [hm]
  simp only [beq_self_eq_true, if_true, Bool.false_eq_true, if_false]

theorem setModified_of_ne (act : Conduct) {id : Nat} {m : UndoManager Nat} {modified : Bool}
    (hm : w.undoManagers.get? id = some m) (hne : m.modified ≠ modified) :
    w.setModified act id modified =
      (m.bus.handlers .modifiedChanged).foldl
        (fun w editor => report act editor (.documentModifiedChanged modified) w)
        { w with undoManagers := w.undoManagers.insert id { m with modified } } := by
  unfold setModified UndoManager.setModified
  rw [hm]
  simp only [beq_iff_eq, hne, if_false, if_true, SignalBus.deliver]

/-- Undo managers that tell the same ones as before. -/
theorem buses_insert {id : Nat} {m m' : UndoManager Nat} (hm : w.undoManagers.get? id = some m)
    (hbus : m'.bus = m.bus) (manager : Nat) :
    ((w.undoManagers.insert id m').get? manager).map (·.bus) =
      (w.undoManagers.get? manager).map (·.bus) := by
  rw [Dict.get?_insert]
  split
  · rename_i hsame
    rw [← hsame, hm, Option.map_some, Option.map_some, hbus]
  · rfl

/-- The editor's own undo manager: its flag changes, and the listener hears of it once. -/
theorem reflected_setModified (act : Conduct) {id : Nat} {m : UndoManager Nat} {modified : Bool}
    (h : w.Quiet) (he : Attuned label e w) (hm : w.undoManagers.get? id = some m)
    (hmanager : e.undoManager = some id) (hne : m.modified ≠ modified) :
    Attuned label e (w.setModified act id modified) ∧
      Reflected label e w e (w.setModified act id modified) [modified] := by
  obtain ⟨m', hm', hhandlers⟩ := he.manager hmanager
  obtain rfl := Option.some.inj (hm.symm.trans hm')
  let set : Workspace := { w with undoManagers := w.undoManagers.insert id { m with modified } }
  have hset : Attuned label e set :=
    he.carried rfl rfl (Nat.le_refl _) (fun _ _ => rfl) (buses_insert hm rfl)
  have hstate : e.state ≠ .destroyed := (he.managed id hmanager).2.1
  have hreported : w.setModified act id modified =
      set.report act e.id (.documentModifiedChanged modified) := by
    rw [setModified_of_ne act hm hne, hhandlers]
    rfl
  have hadds : Adds (modifications label) [modified] set
      (set.report act e.id (.documentModifiedChanged modified)) := by
    have hself : set.editor? e.id = some e := by rw [hset.editor?, if_pos rfl]
    have hall : Adds (modifications label) _ set _ :=
      adds_reportTo act hself (.documentModifiedChanged modified) (show Quiet set from h)
    rw [show (EditorEvent.documentModifiedChanged modified).signal = .documentModifiedChanged
      from rfl, hset.notices hstate] at hall
    exact hall
  have hmanagers : (set.report act e.id (.documentModifiedChanged modified)).undoManagers =
      set.undoManagers := undoManagers_report act e.id _ (show Quiet set from h)
  have htold := told_report act e.id (.documentModifiedChanged modified) (show Quiet set from h)
  have hafter : (set.report act e.id (.documentModifiedChanged modified)).isModified e = modified :=
    isModified_of_manager (m := { m with modified }) hmanager (by rw [hmanagers]; simp [set])
  rw [hreported]
  refine ⟨?_, hadds.noted, ⟨?_, hafter⟩, fun hnone => ?_⟩
  · have hlabels := hadds.labels
    obtain ⟨observers, log, undoManagers, heq, -⟩ := htold
    rw [heq] at hmanagers hlabels ⊢
    exact hset.carried rfl rfl (Nat.le_refl _) (fun id _ => hlabels id)
      fun manager => by rw [hmanagers]
  · rw [isModified_of_manager hmanager hm]
    exact Bool.eq_not.2 (Ne.symm hne)
  · rw [hmanager] at hnone
    cases hnone

/-- Another undo manager: whoever is told of it, the editor's listener is not. -/
theorem setModified_of_other (act : Conduct) {id : Nat} {m : UndoManager Nat} {modified : Bool}
    (he : Attuned label e w) (hm : w.undoManagers.get? id = some m)
    (hother : e.undoManager ≠ some id) (hne : m.modified ≠ modified) :
    w.setModified act id modified =
      { w with undoManagers := w.undoManagers.insert id { m with modified } } := by
  let set : Workspace := { w with undoManagers := w.undoManagers.insert id { m with modified } }
  have hset : Attuned label e set :=
    he.carried rfl rfl (Nat.le_refl _) (fun _ _ => rfl) (buses_insert hm rfl)
  have hstrangers : ∀ editor ∈ m.bus.handlers .modifiedChanged, e.id ≠ editor := by
    rintro editor hmem rfl
    exact hother (he.told id m hm hmem)
  have hlost : ∀ editors : List Nat, (∀ editor ∈ editors, e.id ≠ editor) →
      editors.foldl (fun w editor => report act editor (.documentModifiedChanged modified) w) set =
        set := by
    intro editors hall
    refine List.foldlRecOn (motive := fun v => v = set) _ _ rfl fun v hv editor hmem => ?_
    rw [hv, report_of_unreached]
    rw [hset.editor?, if_neg (hall editor hmem)]
  rw [setModified_of_ne act hm hne]
  exact hlost _ hstrangers

theorem mirrors_setModified (act : Conduct) (id : Nat) (modified : Bool) (h : w.Quiet) :
    Mirrors label w (w.setModified act id modified) := by
  have htold := told_setModified act id modified h
  have hholds : (w.setModified act id modified).holds = w.holds := by
    obtain ⟨observers, log, undoManagers, heq, -⟩ := htold
    rw [heq]
  refine ⟨htold.quiet, hholds, fun e he => ?_⟩
  cases hm : w.undoManagers.get? id with
  | none =>
      have hnothing : w.setModified act id modified = w := by
        unfold setModified
        rw [hm]
      rw [hnothing]
      exact (Mirrors.refl h).editor e he
  | some m =>
      by_cases hne : m.modified = modified
      · subst hne
        have hsame (manager : Nat) : (w.undoManagers.insert id m).get? manager =
            w.undoManagers.get? manager := by
          rw [Dict.get?_insert]
          split
          · rename_i hid
            rw [← hid, hm]
          · rfl
        rw [setModified_of_same act hm]
        have haside : Aside label w { w with undoManagers := w.undoManagers.insert id m } :=
          ⟨fun hw => hw, rfl, rfl, rfl, Nat.le_refl _, fun _ _ => rfl, hsame, rfl⟩
        exact (haside.mirrors h).editor e he
      · by_cases hmanager : e.undoManager = some id
        · obtain ⟨he', hnews⟩ := reflected_setModified act h he hm hmanager hne
          exact ⟨e, he', .refl e, _, hnews⟩
        · rw [setModified_of_other act he hm hmanager hne]
          refine ⟨e, he.carried rfl rfl (Nat.le_refl _) (fun _ _ => rfl) (buses_insert hm rfl),
            .refl e, [], (List.append_nil _).symm, ?_, fun _ => rfl⟩
          refine isModified_of_alike (.refl e) fun manager hown => ?_
          have hapart : id ≠ manager := by
            rintro rfl
            exact hmanager hown
          simp [Dict.get?_insert, hapart]

theorem mirrors_inform (act : Conduct) (id : Nat) (h : w.Quiet) :
    Mirrors label w (w.inform act id) := by
  unfold inform
  split
  · have hbegin : Aside label w { w with informed := id :: w.informed } :=
      aside_of_same rfl rfl rfl rfl rfl rfl rfl
    have hset := (hbegin.mirrors h).trans (mirrors_setModified act id true h)
    have hend : Aside label
        (setModified act id true { w with informed := id :: w.informed })
        { setModified act id true { w with informed := id :: w.informed } with
          informed := w.informed } := aside_of_same rfl rfl rfl rfl rfl rfl rfl
    exact hset.trans (hend.mirrors hset.quiet)
  · exact .refl h

/-! ## Publishing and applying -/

/-- Other news of the editor. -/
theorem mirrors_report (act : Conduct) (editor : Nat) {event : EditorEvent}
    (hignored : ∀ listener, modifications label listener (.editor event) = none) (h : w.Quiet) :
    Mirrors label w (w.report act editor event) := by
  have hadds : Adds (modifications label) [] w (w.report act editor event) :=
    adds_report act editor hignored h
  exact ((told_report act editor event h).heard.aside hadds
    (undoManagers_report act editor event h)).mirrors h

theorem mirrors_hear (act : Conduct) (event : EngineEvent) (listener : EngineListener)
    (h : w.Quiet) : Mirrors label w (w.hear act event listener) := by
  cases listener with
  | session id =>
      have hadds : Adds (modifications label) [] w (w.sessionHears act event id) :=
        adds_sessionHears (fun _ _ => rfl) act event id h
      exact ((heard_sessionHears act event id h).aside hadds
        (undoManagers_sessionHears act event id h)).mirrors h
  | undoManager id => exact mirrors_inform act id h
  | metadataRelay editor =>
      cases event with
      | metadataChanged set removed => exact mirrors_report act editor (fun _ => rfl) h
      | _ => exact .refl h
  | observer id =>
      have hadds : Adds (modifications label) _ w (w.notify act (.engine event) id) :=
        adds_notify act (.engine event) id h
      rw [notices_of_ignored fun _ => rfl] at hadds
      exact ((told_notify act (.engine event) id h).heard.aside hadds
        (undoManagers_notify act (.engine event) id h)).mirrors h

theorem mirrors_publish (act : Conduct) (event : EngineEvent) (h : w.Quiet) :
    Mirrors label w (w.publish act event) :=
  Mirrors.foldl (fun listener _ hw => mirrors_hear act event listener hw) h

theorem mirrors_engine (h : w.Quiet) (engine : Engine EngineListener) :
    Mirrors label w { w with engine } :=
  (aside_of_same rfl rfl rfl rfl rfl rfl rfl : Aside label w { w with engine }).mirrors h

theorem mirrors_applyNow (h : w.Quiet) (batch : Batch) : Mirrors label w (w.applyNow batch) :=
  (mirrors_engine h _).trans
    (Mirrors.foldl (fun event _ hw => mirrors_publish conduct event hw) h)

theorem mirrors_flush (h : w.Quiet) : Mirrors label w (w.flush conduct) := by
  have hqueue : Mirrors label w (w.withQueue [] w.engine.submitted w.engine.immediate) :=
    mirrors_engine h _
  rw [flush_eq_applyAll h]
  exact List.foldlRecOn _ _ hqueue fun w' hw' batch _ =>
    hw'.trans (mirrors_applyNow hw'.quiet batch)

theorem aside_changeReservation (id : Nat) (p : Proposal)
    (change : SessionCore → StyleId → SessionCore) (w : Workspace) :
    Aside label w (w.changeReservation id p change) := by
  unfold changeReservation
  split <;> exact aside_of_same rfl rfl rfl rfl rfl rfl rfl

theorem mirrors_submission (label : String) : Submission (Mirrors label) where
  quiet := Mirrors.quiet
  refl := Mirrors.refl
  trans := Mirrors.trans
  flush := mirrors_flush
  queued := fun h _ => mirrors_engine h _
  reserve := fun h id p => (aside_changeReservation id p .reserve _).mirrors h
  release := fun h id p => (aside_changeReservation id p .release _).mirrors h

theorem mirrors_submitFor (h : w.Quiet) (id : Nat) (operation : MemberId → Operation) :
    Mirrors label w (w.submitFor conduct id operation).2 := by
  unfold submitFor
  cases w.sessions.get? id with
  | none => exact .refl h
  | some s => exact (mirrors_submission label).submit h _

theorem mirrors_closeEngine (h : w.Quiet) : Mirrors label w (w.closeEngine conduct).2 := by
  unfold closeEngine
  split
  · have hflush : Mirrors label w _ := mirrors_flush h
    exact hflush.trans (mirrors_engine hflush.quiet _)
  · exact .refl h

end Mirrors

end Workspace

end Coedit
