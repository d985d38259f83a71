import Coedit.Proofs.Session.Staleness
import Coedit.Proofs.Workspace.Flags

/-!
# Members do not disturb one another

An operation carries the member who made it, and beside the document it touches only what that
member has: their record and their cursor. What a member has is therefore what their own operations
made of it, in their own order (`presence_applyBatch`), and deleting everybody else's operations
makes no difference to it.
-/

namespace Coedit

def MemberId.own (m : MemberId) (batch : Batch) : Batch := batch.filter (·.member = m)

structure Presence where
  record : Option Member
  cursor : Option Cursor

namespace Presence

def after (p : Presence) : Operation → Presence
  | .addMember member properties => { p with record := some (.ofProperties member properties) }
  | .removeMember _ => { record := none, cursor := none }
  | .addCursor member => { p with cursor := some (.initial member) }
  | .removeCursor _ => { p with cursor := none }
  | .moveCursor _ position anchor kind =>
    { p with cursor := p.cursor.map fun c => { c with position, anchor, selectionKind := kind } }
  | _ => p

structure Named (m : MemberId) (p : Presence) : Prop where
  record : ∀ found, p.record = some found → found.id = m
  cursor : ∀ found, p.cursor = some found → found.member = m

theorem named_empty (m : MemberId) : Named m { record := none, cursor := none } := ⟨nofun, nofun⟩

theorem Named.after {m : MemberId} {p : Presence} (h : p.Named m) {op : Operation}
    (hop : op.member = m) : (p.after op).Named m := by
  cases op with
  | addMember member properties =>
      refine ⟨fun found hfound => ?_, h.cursor⟩
      rw [← Option.some.inj hfound]
      exact hop
  | removeMember => exact named_empty m
  | addCursor member =>
      refine ⟨h.record, fun found hfound => ?_⟩
      rw [← Option.some.inj hfound]
      exact hop
  | removeCursor => exact ⟨h.record, nofun⟩
  | moveCursor member position anchor kind =>
      refine ⟨h.record, fun found hfound => ?_⟩
      obtain ⟨cursor, hcursor, rfl⟩ := Option.map_eq_some_iff.1 hfound
      exact h.cursor cursor hcursor
  | _ => exact h

end Presence

namespace Replica

/-! ## Operations -/

def presence (r : Replica) (m : MemberId) : Presence :=
  { record := r.members.get? m, cursor := r.cursors.get? m }

@[simp] theorem cursors_removeCursor (r : Replica) (member m : MemberId) :
    (r.removeCursor member).1.cursors.get? m = if member = m then none else r.cursors.get? m := by
  unfold removeCursor
  split
  · exact Dict.get?_erase _ _ _
  · rename_i habsent
    by_cases hm : member = m
    · subst hm
      simpa [Dict.contains] using habsent
    · rw [if_neg hm]

@[simp] theorem members_removeRecord (r : Replica) (member m : MemberId) :
    (r.removeRecord member).1.members.get? m = if member = m then none else r.members.get? m := by
  unfold removeRecord
  split
  · exact Dict.get?_erase _ _ _
  · rename_i habsent
    by_cases hm : member = m
    · subst hm
      simpa [Dict.contains] using habsent
    · rw [if_neg hm]

@[simp] theorem members_removeCursor (r : Replica) (member : MemberId) :
    (r.removeCursor member).1.members = r.members := by
  unfold removeCursor
  split <;> rfl

@[simp] theorem cursors_removeRecord (r : Replica) (member : MemberId) :
    (r.removeRecord member).1.cursors = r.cursors := by
  unfold removeRecord
  split <;> rfl

/-- A document edit leaves all members and cursors alone. -/
theorem members_of_isDocumentEdit {op : Operation} (h : op.isDocumentEdit = true) (r : Replica) :
    (r.apply op).1.members = r.members ∧ (r.apply op).1.cursors = r.cursors := by
  cases op with
  | addMember | removeMember | addCursor | removeCursor | moveCursor => cases h
  | setParagraphStyle | removeStyle | updateParagraphStyle =>
      simp only [apply]
      split <;> exact ⟨rfl, rfl⟩
  | addStyle | insertStructuredContent | updateMetadata => exact ⟨rfl, rfl⟩

/-- An operation concerns the member who made it and nobody else. -/
theorem presence_apply (r : Replica) (op : Operation) (m : MemberId) :
    (r.apply op).1.presence m =
      if op.member = m then (r.presence m).after op else r.presence m := by
  have hedit (h : op.isDocumentEdit = true) : (r.apply op).1.presence m = r.presence m := by
    obtain ⟨hmembers, hcursors⟩ := members_of_isDocumentEdit h r
    simp only [presence, hmembers, hcursors]
  cases op with
  | addMember member properties | addCursor member =>
      by_cases hm : member = m <;>
        simp [apply, presence, Dict.get?_insert, Operation.member, Presence.after, hm]
  | removeMember member =>
      by_cases hm : member = m <;>
        simp [apply, presence, Operation.member, Presence.after, hm]
  | removeCursor member =>
      by_cases hm : member = m <;>
        simp [apply, presence, Operation.member, Presence.after, hm]
  | moveCursor member position anchor kind =>
      by_cases hm : member = m
      · subst hm
        cases hcursor : r.cursors.get? member <;>
          simp [apply, presence, Dict.contains, Dict.get?_modify, hcursor, Operation.member,
            Presence.after]
      · cases hcursor : r.cursors.get? member <;>
          simp [apply, presence, Dict.contains, Dict.get?_modify, hcursor, Operation.member, hm]
  | _ =>
      rw [hedit rfl]
      exact (ite_self _).symm

/-! ## Batches -/

/-- What a member has is what their own operations made of it. -/
theorem presence_applyBatch (r : Replica) (batch : Batch) (m : MemberId) :
    (r.applyBatch batch).1.presence m = (m.own batch).foldl Presence.after (r.presence m) := by
  show (r.applyAll batch).1.presence m = _
  induction batch generalizing r with
  | nil => rfl
  | cons op rest ih =>
      have hrest := ih (r.apply op).1
      rw [presence_apply] at hrest
      unfold MemberId.own at hrest ⊢
      rw [List.filter_cons]
      by_cases hm : op.member = m
      · rw [if_pos hm] at hrest
        rw [if_pos (by simpa using hm)]
        exact hrest
      · rw [if_neg hm] at hrest
        rw [if_neg (by simpa using hm)]
        exact hrest

theorem own_own (m : MemberId) (batch : Batch) : m.own (m.own batch) = m.own batch := by
  unfold MemberId.own
  rw [List.filter_filter]
  simp only [Bool.and_self]

/-- It makes no difference to a member whether the operations of others are applied as well. -/
theorem presence_applyBatch_own {r r' : Replica} {m : MemberId}
    (h : r'.presence m = r.presence m) (batch : Batch) :
    (r'.applyBatch (m.own batch)).1.presence m = (r.applyBatch batch).1.presence m := by
  rw [presence_applyBatch, presence_applyBatch, own_own, h]

theorem presence_foldl_own {r r' : Replica} {m : MemberId} (h : r'.presence m = r.presence m)
    (batches : List Batch) :
    ((batches.map m.own).foldl (fun r batch => (r.applyBatch batch).1) r').presence m =
      (batches.foldl (fun r batch => (r.applyBatch batch).1) r).presence m := by
  induction batches generalizing r r' with
  | nil => exact h
  | cons batch rest ih => exact ih (presence_applyBatch_own h batch)

def Keyed (r : Replica) : Prop := ∀ m, (r.presence m).Named m

theorem Keyed.apply {r : Replica} (h : r.Keyed) (op : Operation) : (r.apply op).1.Keyed := by
  intro m
  rw [presence_apply]
  split
  · rename_i hop
    exact (h m).after hop
  · exact h m

theorem Keyed.applyBatch {r : Replica} (h : r.Keyed) (batch : Batch) :
    (r.applyBatch batch).1.Keyed := by
  show (r.applyAll batch).1.Keyed
  induction batch generalizing r with
  | nil => exact h
  | cons op rest ih => exact ih (h.apply op)

theorem Keyed.foldl {r : Replica} (h : r.Keyed) (batches : List Batch) :
    (batches.foldl (fun r batch => (r.applyBatch batch).1) r).Keyed := by
  induction batches generalizing r with
  | nil => exact h
  | cons batch rest ih => exact ih (h.applyBatch batch)

end Replica

/-! ## Runs -/

/-- The same turn without the operations of other members. -/
def Turn.only (m : MemberId) : Turn → Turn
  | enqueue batch => enqueue (m.own batch)
  | flush => flush
  | immediate on => immediate on

namespace Workspace

def takeTurns (w : Workspace) (turns : List Turn) : Workspace :=
  turns.foldl (fun w turn => (w.execute turn.command).2) w

/-- Both apply batches at the same times, and what is the member's is the same in both. What the
first one holds is kept under the right identifiers. -/
structure SameFor (m : MemberId) (w w' : Workspace) : Prop where
  receptive : Receptive w
  receptive' : Receptive w'
  immediate : w'.engine.immediate = w.engine.immediate
  pending : w'.engine.pending = w.engine.pending.map m.own
  presence : w'.engine.replica.presence m = w.engine.replica.presence m
  keyed : w.engine.replica.Keyed

variable {m : MemberId} {w w' : Workspace}

theorem SameFor.refl (h : Receptive w) (hpending : w.engine.pending = [])
    (hkeyed : w.engine.replica.Keyed) : SameFor m w w :=
  ⟨h, h, rfl, by rw [hpending, List.map_nil], rfl, hkeyed⟩

theorem SameFor.flush (h : SameFor m w w') : SameFor m (w.flush conduct) (w'.flush conduct) where
  receptive := receptive_flush h.receptive
  receptive' := receptive_flush h.receptive'
  immediate := by
    rw [engine_flush h.receptive.quiet, engine_flush h.receptive'.quiet]
    exact h.immediate
  pending := by
    rw [engine_flush h.receptive.quiet, engine_flush h.receptive'.quiet]
    rfl
  presence := by
    rw [engine_flush h.receptive.quiet, engine_flush h.receptive'.quiet]
    unfold drained
    rw [h.pending]
    exact Replica.presence_foldl_own h.presence _
  keyed := by
    rw [engine_flush h.receptive.quiet]
    exact h.keyed.foldl w.engine.pending

theorem SameFor.queued (h : SameFor m w w') (batch : Batch) :
    SameFor m (w.withEngine (Agenda.queued w.engine batch))
      (w'.withEngine (Agenda.queued w'.engine (m.own batch))) where
  receptive := ⟨h.receptive.quiet, h.receptive.opened⟩
  receptive' := ⟨h.receptive'.quiet, h.receptive'.opened⟩
  immediate := h.immediate
  pending := by
    show w'.engine.pending ++ [m.own batch] = (w.engine.pending ++ [batch]).map m.own
    rw [h.pending, List.map_append, List.map_singleton]
  presence := h.presence
  keyed := h.keyed

theorem SameFor.turn (h : SameFor m w w') (turn : Turn) :
    SameFor m (w.execute turn.command).2 (w'.execute (turn.only m).command).2 := by
  cases turn with
  | enqueue batch =>
      have hqueued := h.queued batch
      rw [Turn.command, Turn.only, Turn.command, execute_enqueue h.receptive,
        execute_enqueue h.receptive']
      unfold followUp
      rw [hqueued.immediate]
      split
      · exact hqueued.flush
      · exact hqueued
  | flush =>
      rw [Turn.command, Turn.only, Turn.command, execute_eq_step, execute_eq_step]
      exact h.flush
  | immediate on =>
      rw [Turn.command, Turn.only, Turn.command, execute_eq_step, execute_eq_step]
      exact ⟨⟨h.receptive.quiet, h.receptive.opened⟩, ⟨h.receptive'.quiet, h.receptive'.opened⟩,
        rfl, h.pending, h.presence, h.keyed⟩

theorem SameFor.turns (h : SameFor m w w') (turns : List Turn) :
    SameFor m (w.takeTurns turns) (w'.takeTurns (turns.map (Turn.only m))) := by
  induction turns generalizing w w' with
  | nil => exact h
  | cons turn rest ih => exact ih (h.turn turn)

/-- From a loaded document on, at any time, a member has the record and the cursor that they would
have if nobody else had ever submitted an operation. Records and cursors carry the identifiers they
are kept under; and an operation on the document changes no record and no cursor, while any other
operation does not change the document. -/
theorem members_undisturbed {w₀ : Workspace} {url : String} (hquiet : w₀.Quiet)
    (hload : w₀.loadDocument w₀.files url = (.ok (), w)) (m : MemberId) (turns : List Turn) :
    let r := (w.takeTurns turns).engine.replica
    let alone := (w.takeTurns (turns.map (Turn.only m))).engine.replica
    (r.members.get? m = alone.members.get? m ∧ r.cursors.get? m = alone.cursors.get? m) ∧
      (∀ member record, r.members.get? member = some record → record.id = member) ∧
      (∀ member cursor, r.cursors.get? member = some cursor → cursor.member = member) ∧
      ∀ (r : Replica) (op : Operation),
        (op.isDocumentEdit = false → (r.apply op).1.document = r.document) ∧
        (op.isDocumentEdit = true →
          (r.apply op).1.members = r.members ∧ (r.apply op).1.cursors = r.cursors) := by
  intro r alone
  obtain ⟨d, -, rfl⟩ := opened_of_load hload
  have hreceptive : Receptive { w₀ with engine := w₀.engine.openDocument d } := ⟨hquiet, rfl⟩
  have hstart := SameFor.refl (m := m) hreceptive rfl Presence.named_empty
  have hsame := hstart.turns turns
  have hpresence : alone.presence m = r.presence m := hsame.presence
  have hkeyed : r.Keyed := hsame.keyed
  exact ⟨⟨(congrArg Presence.record hpresence).symm, (congrArg Presence.cursor hpresence).symm⟩,
    fun member => (hkeyed member).record, fun member => (hkeyed member).cursor,
    fun r op => ⟨fun h => Replica.document_apply h r,
      fun h => Replica.members_of_isDocumentEdit h r⟩⟩

/-- Two members come, and the one removes the style of the paragraph in which the other is. -/
def company : List Turn :=
  [.enqueue [.addMember ⟨"m"⟩ {}, .addCursor ⟨"m"⟩, .addCursor ⟨"n"⟩],
    .enqueue [.removeStyle ⟨"n"⟩ .default .paragraph, .moveCursor ⟨"m"⟩ 1 2 .range,
      .removeMember ⟨"n"⟩],
    .flush]

theorem cursor_undisturbed_in_company :
    let alone := ((withDangling.loadDocument {} "doc").2.takeTurns
      (company.map (Turn.only ⟨"m"⟩))).engine.replica
    alone.cursors.get? ⟨"m"⟩ =
      some { member := ⟨"m"⟩, position := 1, anchor := 2, selectionKind := .range } := by
  intro alone
  have hquiet : withDangling.Quiet := fun _ _ h => by cases h
  have hload : withDangling.loadDocument withDangling.files "doc" =
      (.ok (), (withDangling.loadDocument {} "doc").2) := Prod.ext rfl rfl
  rw [← (members_undisturbed hquiet hload ⟨"m"⟩ company).1.2]
  decide +kernel

end Workspace

end Coedit
