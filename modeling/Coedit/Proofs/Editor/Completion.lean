import Coedit.Proofs.Editor.Tally

/-!
# Closing loses nothing and leaves no trace

In every run that comes to editing, closing succeeds just if the document is closable. Then every
batch that was accepted has been applied, the local member and its cursor were taken out at the
very end, and of the subscriptions made since the editor was created only those of observers are
left. Otherwise the editor stays closing, and its subscribers were told why.
-/

namespace Coedit

/-! ## A member that leaves -/

namespace Replica

/-- The replica without a member and without its cursor. -/
def without (r : Replica) (member : MemberId) : Replica :=
  { r with members := r.members.erase member, cursors := r.cursors.erase member }

theorem removeCursor_fst (r : Replica) (member : MemberId) :
    (r.removeCursor member).1 = { r with cursors := r.cursors.erase member } := by
  unfold removeCursor
  split
  · rfl
  · rename_i habsent
    rw [Dict.erase_of_absent habsent]

theorem removeRecord_fst (r : Replica) (member : MemberId) :
    (r.removeRecord member).1 = { r with members := r.members.erase member } := by
  unfold removeRecord
  split
  · rfl
  · rename_i habsent
    rw [Dict.erase_of_absent habsent]

theorem foldl_leavingBatches (r : Replica) (member : MemberId) :
    (leavingBatches member).foldl (fun r batch => (r.applyBatch batch).1) r = r.without member := by
  simp only [leavingBatches, List.foldl_cons, List.foldl_nil, applyBatch, applyAll, apply,
    removeCursor_fst, removeRecord_fst, Dict.erase_erase, without]

end Replica

namespace Workspace

open Selection (unknownErrors)

section Completion

variable {spec : EditorSpec} {first : Nat} {options : EditorOptions}
  {base : List (Subscription EngineSignal EngineListener)} {w w' : Workspace} {e : Editor}

/-- All that was accepted has been applied, and then the member was taken out. -/
theorem Left.replica (h : Left spec first w e w') :
    w'.engine.replica = w.engine.upshot.without spec.member := by
  have hupshot := h.upshot
  rw [Replica.foldl_leavingBatches, Engine.upshot, h.empty] at hupshot
  exact hupshot

/-- Old subscriptions and those of observers are left, and no others. -/
theorem Left.subscriptions (h : Left spec first w e w') (hsettled : Settled options base w')
    (hidle : e.state.Idle) (hold : ∀ s ∈ base, s.id < first)
    {s : Subscription EngineSignal EngineListener} (hs : s ∈ w.engine.bus.subscriptions) :
    s ∈ w'.engine.bus.subscriptions ↔ s ∈ base ∨ ∃ id, s.handler = .observer id := by
  obtain ⟨-, -, hstage⟩ := hsettled.stage_of_idle h.editor hidle
  constructor
  · intro hs'
    rcases hstage.covered s hs' with hbase | hobserver | hrecord
    · exact .inl hbase
    · exact .inr hobserver
    · cases hrecord
  · rintro (hbase | ⟨id, hobserver⟩)
    · exact h.spared s hs (.inl (hold s hbase))
    · refine h.spared s hs (.inr ?_)
      rw [hobserver]
      rfl

/-- Closing a document that an editor is editing loses nothing of what was accepted, and leaves
nothing behind. -/
theorem closing_complete_in_every_run {w₀ : Workspace} (hquiet : w₀.Quiet)
    (hwelcoming : w₀.Welcoming)
    (hbounded : ∀ s ∈ w₀.engine.bus.subscriptions, s.id < w₀.engine.bus.nextId)
    (spec : EditorSpec) {commands : List Command}
    (hcommands : ∀ c ∈ commands, c.aroundEditor = true) {e : Editor}
    (heditor : (commands.foldl (fun w c => (w.execute c).2) (w₀.createEditor spec)).editor = some e)
    (hediting : e.state = .editing) :
    let start := w₀.createEditor spec
    let w := commands.foldl (fun w c => (w.execute c).2) start
    let tally := ({} : Tally).after commands start
    let answer := ((closeDocument conduct e).result w).1
    let w' := ((closeDocument conduct e).result w).2
    (answer = .ok () ↔ w.engine.isOpen = true ∧ w.engine.closeFailure = none ∧
      ∀ part ∈ sessionParts, spec.frontend.refuses part = false) ∧
    (answer = .ok () →
      (∃ document, tally.loaded = some document ∧
        w'.engine.replica = (tally.replica document).without spec.member) ∧
      w'.engine.submitted = w.engine.submitted ++
        [[.removeCursor spec.member], [.removeMember spec.member]] ∧
      w'.engine.pending = [] ∧
      w'.engine.bus.subscriptions.Sublist w.engine.bus.subscriptions ∧
      (∀ s ∈ w.engine.bus.subscriptions, s ∈ w'.engine.bus.subscriptions ↔
        s ∈ w₀.engine.bus.subscriptions ∨ ∃ id, s.handler = .observer id) ∧
      w'.editor.map (·.state) = some .closed ∧
      w'.noted unknownErrors = w.noted unknownErrors) ∧
    (∀ cause, answer = .error cause →
      w'.editor.map (·.state) = some .closing ∧
      w'.noted unknownErrors = w.noted unknownErrors ++
        w.notices unknownErrors (.editor (.unknownError cause.message))
          (e.bus.handlers .unknownError)) := by
  intro start w tally
  obtain ⟨hsettled, htallied⟩ := tallied_run (settled_createEditor hquiet hwelcoming spec)
    (tallied_createEditor hbounded spec) hcommands
  have hclosed := settling_settled.secured hsettled (secure_closeDocument hsettled heditor)
  obtain ⟨-, session, relay, hattached, hstage⟩ := hsettled.stage_of_editing heditor hediting
  have hclose := triple_close hstage.quiet hstage.welcoming htallied.partnered heditor hediting
    hattached.session w rfl
  obtain ⟨document, hloaded⟩ := Option.isSome_iff_exists.1 (htallied.editing e heditor hediting)
  cases hr : (closeDocument conduct e).result w with
  | mk answer w' =>
      rw [hr] at hclose
      replace hclosed : Settled spec.options w₀.engine.bus.subscriptions w' := by
        rw [hr] at hclosed
        exact hclosed
      cases answer with
      | ok _ =>
          obtain ⟨hclosable, hleft⟩ := hclose
          refine ⟨iff_of_true rfl hclosable, fun _ => ⟨⟨document, hloaded, ?_⟩, hleft.submitted,
            hleft.empty, hleft.fewer, fun s hs => ?_, ?_, ?_⟩,
            fun cause hcause => (by cases hcause)⟩
          · rw [← htallied.upshot document hloaded]
            exact hleft.replica
          · exact hleft.subscriptions hclosed (.inr (.inl rfl)) hbounded hs
          · rw [hleft.editor]
            rfl
          · rw [hleft.adds.noted, List.append_nil]
      | error cause =>
          obtain ⟨hnot, haborted⟩ := hclose
          obtain ⟨accepted, hdeparts⟩ := haborted.departs
          refine ⟨iff_of_false (by simp) hnot, fun hok => (by cases hok), fun cause' hcause => ?_⟩
          obtain rfl := Except.error.inj hcause
          refine ⟨?_, hdeparts.adds.noted⟩
          rw [haborted.editor]
          rfl

end Completion

/-- A document is opened, somebody listens, and somebody else joins; nothing is applied yet. -/
def joining : List Command :=
  [.engine (.register "doc" {}), .editor (.open "doc"),
    .watchEngine .memberRemoved "members" [] 0, .watchEditor .unknownError "errors" [] 0,
    .engine (.enqueue [.addMember ⟨"n"⟩ {}, .addCursor ⟨"n"⟩])]

/-- Whoever joined is still there when the local member has left, and so is who listened. -/
theorem closing_complete_after_joining :
    let w := joining.foldl (fun w c => (w.execute c).2) (createEditor { member := ⟨"m"⟩ } {})
    w.engine.pending.length = 3 ∧ ∃ e, w.editor = some e ∧
      let w' := ((closeDocument conduct e).result w).2
      ((closeDocument conduct e).result w).1 = .ok () ∧
      w'.engine.replica.members.keys = [⟨"n"⟩] ∧ w'.engine.replica.cursors.keys = [⟨"n"⟩] ∧
      ∀ s ∈ w.engine.bus.subscriptions, s ∈ w'.engine.bus.subscriptions ↔
        ∃ id, s.handler = .observer id := by
  intro w
  have hquiet : Quiet {} := fun _ _ h => by cases h
  have hwelcoming : Welcoming {} := ⟨rfl, fun signal => by cases signal <;> rfl⟩
  have hcommands : ∀ c ∈ joining, c.aroundEditor = true := by decide
  have hstate : w.editor.map (·.state) = some .editing := by decide +kernel
  have hpending : w.engine.pending.length = 3 := by decide +kernel
  obtain ⟨e, heditor, hediting⟩ := Option.map_eq_some_iff.1 hstate
  obtain ⟨hsucceeds, hcomplete, -⟩ := closing_complete_in_every_run hquiet hwelcoming
    (fun _ h => by cases h) { member := ⟨"m"⟩ } hcommands heditor hediting
  have hok := hsucceeds.2 ⟨by decide +kernel, by decide +kernel, fun _ _ => rfl⟩
  obtain ⟨⟨document, hloaded, hreplica⟩, -, -, -, hleft, -⟩ := hcomplete hok
  let tally := ({} : Tally).after joining (createEditor { member := ⟨"m"⟩ } {})
  have hmembers : tally.loaded.map (fun document =>
      ((tally.replica document).without ⟨"m"⟩).members.keys) = some [⟨"n"⟩] := by decide +kernel
  have hcursors : tally.loaded.map (fun document =>
      ((tally.replica document).without ⟨"m"⟩).cursors.keys) = some [⟨"n"⟩] := by decide +kernel
  rw [hloaded] at hmembers hcursors
  refine ⟨hpending, e, heditor, hok, ?_, ?_, fun s hs => (hleft s hs).trans (or_iff_right ?_)⟩
  · rw [hreplica]
    exact Option.some.inj hmembers
  · rw [hreplica]
    exact Option.some.inj hcursors
  · exact List.not_mem_nil

end Workspace

end Coedit
