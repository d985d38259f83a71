import Coedit.Document.Builder
import Coedit.Proofs.Session.Reservation
import Coedit.Proofs.Workspace.Quiet

/-!
# What becomes of an edit

An edit is looked at before anything is changed: its content is validated, its style or cursor
looked up, an identifier reserved, and only then the batch is submitted. A refused edit therefore
leaves nothing behind, and an accepted one exactly one batch. The only edit with nothing to submit
is a restyling of paragraphs that have the style already.
-/

namespace Coedit

/-- What the operation would insert, if it inserts anything, is valid content. -/
def Operation.InsertsValid : Operation → Prop
  | .insertStructuredContent _ _ content => content.validate = .ok ()
  | _ => True

namespace SessionCore

/-! ## Proposals -/

/-- A proposal acts for the local member alone and inserts only what is valid. It is empty just if
it restyles nothing, and then says so. -/
structure Sound (s : SessionCore) (e : Edit) (p : Proposal) : Prop where
  signed : ∀ op ∈ p.batch, op.member = s.member
  valid : ∀ op ∈ p.batch, op.InsertsValid
  restyled : ∀ n, p.answer = .restyled n → n = p.batch.length
  empty : p.batch = [] → p.answer = .restyled 0 ∧ ∃ style, e = .setParagraphStyle style

/-- A proposal of one operation that is not about paragraph styles. -/
theorem sound_of_single {s : SessionCore} {e : Edit} {op : Operation} {reserve : Option StyleId}
    {answer : EditAnswer} (hmember : op.member = s.member) (hvalid : op.InsertsValid)
    (hanswer : ∀ n, answer ≠ .restyled n) : s.Sound e { batch := [op], reserve, answer } where
  signed := by
    intro other hmem
    rw [List.mem_singleton.1 hmem]
    exact hmember
  valid := by
    intro other hmem
    rw [List.mem_singleton.1 hmem]
    exact hvalid
  restyled := fun n h => (hanswer n h).elim
  empty := fun h => (List.cons_ne_nil _ _ h).elim

theorem sound_proposeClone {s : SessionCore} {r : Replica} {source : StyleId}
    {displayName : String} {p : Proposal} (h : s.proposeClone r source displayName = .ok p) :
    s.Sound (.cloneStyle source displayName) p := by
  obtain ⟨definition, style, -, -, rfl⟩ := proposeClone_spec h
  exact sound_of_single rfl trivial (by simp)

theorem sound_proposeRestyle (s : SessionCore) (r : Replica) (style : StyleId) :
    s.Sound (.setParagraphStyle style) (s.proposeRestyle r style) where
  signed := by
    intro op hop
    obtain ⟨info, -, rfl⟩ := List.mem_map.1 hop
    rfl
  valid := by
    intro op hop
    obtain ⟨info, -, rfl⟩ := List.mem_map.1 hop
    trivial
  restyled := by
    intro n hn
    obtain rfl := EditAnswer.restyled.inj hn
    exact (List.length_map _).symm
  empty := by
    intro hempty
    refine ⟨?_, style, rfl⟩
    have hnone : (r.paragraphsInSelection s.member).filter (·.style ≠ style) = [] :=
      List.map_eq_nil_iff.1 hempty
    unfold proposeRestyle
    simp only [hnone, List.length_nil]

theorem sound_proposeInsert {s : SessionCore} {r : Replica} {content : StructuredContent}
    {p : Proposal} (h : s.proposeInsert r content = .ok p) :
    s.Sound (.insertContent content) p := by
  obtain ⟨cursor, hvalid, -, rfl⟩ := proposeInsert_spec h
  exact sound_of_single rfl hvalid (by simp)

theorem sound_propose {s : SessionCore} {r : Replica} {e : Edit} {p : Proposal}
    (h : s.propose r e = .ok p) : s.Sound e p := by
  cases e with
  | cloneStyle source displayName => exact sound_proposeClone h
  | insertContent content => exact sound_proposeInsert h
  | setParagraphStyle style =>
      obtain rfl := Except.ok.inj h
      exact sound_proposeRestyle s r style
  | updateMember | moveCursor | updateParagraphStyle | deleteStyle =>
      obtain rfl := Except.ok.inj h
      exact sound_of_single rfl trivial (by simp)

/-- A reservation that was not there before is taken back without a trace. -/
theorem release_reserve {s : SessionCore} {style : StyleId} (h : style ∉ s.reserved) :
    (s.reserve style).release style = s := by
  have hkept : s.reserved.filter (· ≠ style) = s.reserved := by
    refine List.filter_eq_self.2 fun other hmem => ?_
    have hne : other ≠ style := by
      rintro rfl
      exact h hmem
    simpa using hne
  unfold reserve release
  rw [if_neg h]
  simp only [List.filter_cons, ne_eq, not_true_eq_false, decide_false, Bool.false_eq_true, if_false]
  rw [hkept]

end SessionCore

namespace Workspace

variable {id : Nat} {e : Edit} {w w' : Workspace} {s : Session}

/-! ## Refusal -/

/-- What was reserved for a proposal is released again if its batch is refused. -/
theorem changeReservation_taken_back {p : Proposal} (hs : w.sessions.get? id = some s)
    (hp : s.core.propose w.engine.replica e = .ok p) :
    (w.changeReservation id p .reserve).changeReservation id p .release = w := by
  rcases SessionCore.propose_cases hp with ⟨-, -, -, style, hadds⟩ | hnone
  · have hback := SessionCore.release_reserve hadds.unreserved
    have hsessions : ((w.sessions.modify id fun s => { s with core := s.core.reserve style }).modify
        id fun s => { s with core := s.core.release style }) = w.sessions := by
      refine Dict.ext_get? fun other => ?_
      rw [Dict.get?_modify, Dict.get?_modify]
      by_cases hid : id = other
      · subst hid
        simp [hs, hback]
      · simp [hid]
    unfold changeReservation
    simp only [hadds.reserve, modifySession, hsessions]
  · unfold changeReservation
    simp only [hnone.reserve]

theorem queueEdit_of_refused {p : Proposal} {cause : EngineError}
    (hs : w.sessions.get? id = some s) (hp : s.core.propose w.engine.replica e = .ok p)
    (hbatch : p.batch ≠ [])
    (ht : (w.changeReservation id p .reserve).takeFrom p.batch = .error cause) :
    w.queueEdit id e = (.error (.engine cause), w) := by
  have hfull : p.batch.isEmpty = false := by simpa using hbatch
  unfold queueEdit
  simp only [hs, hp, hfull, Bool.false_eq_true, if_false, ht]
  rw [changeReservation_taken_back hs hp]

/-! ## One edit -/

def promised (w : Workspace) (id : Nat) (p : Proposal) : Workspace :=
  { w.changeReservation id p .reserve with engine := Agenda.queued w.engine p.batch }

theorem quiet_promised (h : w.Quiet) (id : Nat) (p : Proposal) : (w.promised id p).Quiet := by
  obtain ⟨sessions, heq⟩ := changeReservation_eq id p .reserve w
  unfold promised
  rw [heq]
  exact h

theorem takeFrom_of_admitted {batch : Batch}
    (hadmits : ∀ op ∈ batch, op.name ∉ w.refusals.operations) (hopen : w.engine.isOpen = true) :
    w.takeFrom batch = .ok { w with engine := Agenda.queued w.engine batch } := by
  have hnone : w.refused? batch = none :=
    List.find?_eq_none.2 fun op hop => by simpa using hadmits op hop
  have hphase : w.engine.phase = .opened := by simpa [Engine.isOpen] using hopen
  simp [takeFrom, hnone, take, Engine.accept, hphase, Agenda.queued]

/-- An open engine that refuses none of the operations decides nothing: an edit comes to what it
proposes. -/
theorem edit_of_admitted (hs : w.sessions.get? id = some s) (hopen : w.engine.isOpen = true)
    (hadmits : ∀ p, s.core.propose w.engine.replica e = .ok p →
      ∀ op ∈ p.batch, op.name ∉ w.refusals.operations) (act : Conduct) :
    w.edit act id e = match s.core.propose w.engine.replica e with
      | .error cause => (.error cause, w)
      | .ok p => (.ok p.answer, if p.batch = [] then w else (w.promised id p).followUp act) := by
  unfold edit queueEdit
  cases hp : s.core.propose w.engine.replica e with
  | error cause => simp [hs, hp]
  | ok p =>
      by_cases hbatch : p.batch = []
      · simp [hs, hp, hbatch]
      · obtain ⟨sessions, heq⟩ := changeReservation_eq id p .reserve w
        have htaken : (w.changeReservation id p .reserve).takeFrom p.batch =
            .ok (w.promised id p) := by
          unfold promised
          rw [heq]
          exact takeFrom_of_admitted (w := { w with sessions }) (hadmits p hp) hopen
        simp [hs, hp, hbatch, htaken]

theorem submitted_followUp (h : w.Quiet) :
    (w.followUp conduct).engine.submitted = w.engine.submitted := by
  unfold followUp
  split
  · rw [(heard_flush h).engine]
    rfl
  · rfl

/-- With nothing else in the queue, what was promised is applied by the next flush. -/
theorem engine_flush_promised (h : w.Quiet) (hempty : w.engine.pending = []) (id : Nat)
    (p : Proposal) : (((w.promised id p).followUp conduct).flush conduct).engine =
      { w.engine with
        replica := (w.engine.replica.applyBatch p.batch).1
        submitted := w.engine.submitted ++ [p.batch] } := by
  rw [(heard_flush_followUp (quiet_promised h id p)).engine]
  simp [promised, drained, Agenda.queued, hempty]

/-- The ways in which an edit ends: it is refused and nothing changes; there is nothing to do, and
nothing changes either; or its batch is accepted. -/
inductive Edited (id : Nat) (e : Edit) (w : Workspace) (s : Session) :
    Except SessionError EditAnswer × Workspace → Prop where
  | refused (cause : SessionError) : Edited id e w s (.error cause, w)
  | idle (style : StyleId) (h : e = .setParagraphStyle style) :
      Edited id e w s (.ok (.restyled 0), w)
  | accepted (p : Proposal) (hp : s.core.propose w.engine.replica e = .ok p)
      (hbatch : p.batch ≠ []) :
      Edited id e w s (.ok p.answer, (w.promised id p).followUp conduct)

theorem edited_edit (hs : w.sessions.get? id = some s) (e : Edit) :
    Edited id e w s (w.edit conduct id e) := by
  unfold edit
  cases hp : s.core.propose w.engine.replica e with
  | error cause =>
      unfold queueEdit
      simp only [hs, hp]
      exact .refused cause
  | ok p =>
      by_cases hbatch : p.batch = []
      · obtain ⟨hanswer, style, hstyle⟩ := (SessionCore.sound_propose hp).empty hbatch
        unfold queueEdit
        simp only [hs, hp, hbatch, List.isEmpty_nil, if_true, hanswer]
        exact .idle style hstyle
      · cases ht : (w.changeReservation id p .reserve).takeFrom p.batch with
        | error cause =>
            rw [queueEdit_of_refused hs hp hbatch ht]
            exact .refused (.engine cause)
        | ok w' =>
            have hfull : p.batch.isEmpty = false := by simpa using hbatch
            have htaken : w' = w.promised id p := by
              rw [takeFrom_eq ht, engine_changeReservation]
              rfl
            unfold queueEdit
            simp only [hs, hp, hfull, Bool.false_eq_true, if_false, ht, if_true]
            rw [htaken]
            exact .accepted p hp hbatch

/-- An edit that is refused changes nothing at all. One that is accepted submits exactly one batch,
which is not empty, acts for the local member alone and inserts only valid content; unless it is a
restyling that answers zero, which changes nothing either. -/
theorem edit_all_or_nothing (hquiet : w.Quiet) (hs : w.sessions.get? id = some s) (e : Edit) :
    (∀ cause, (w.edit conduct id e).1 = .error cause → (w.edit conduct id e).2 = w) ∧
      ∀ answer, (w.edit conduct id e).1 = .ok answer →
        ((∃ style, e = .setParagraphStyle style) ∧ answer = .restyled 0 ∧
          (w.edit conduct id e).2 = w) ∨
        (answer ≠ .restyled 0 ∧ ∃ batch, batch ≠ [] ∧
          (w.edit conduct id e).2.engine.submitted = w.engine.submitted ++ [batch] ∧
          ∀ op ∈ batch, op.member = s.core.member ∧ op.InsertsValid) := by
  have hedited := edited_edit hs e
  generalize w.edit conduct id e = made at hedited ⊢
  cases hedited with
  | refused cause => exact ⟨fun _ _ => rfl, nofun⟩
  | idle style hstyle =>
      refine ⟨fun _ _ => rfl, fun answer h => .inl ⟨⟨style, hstyle⟩, ?_, rfl⟩⟩
      exact (Except.ok.inj h).symm
  | accepted p hp hbatch =>
      have hsound := SessionCore.sound_propose hp
      refine ⟨nofun, fun answer h => .inr ⟨?_, p.batch, hbatch, ?_, ?_⟩⟩
      · rw [← Except.ok.inj h]
        intro hzero
        exact hbatch (List.length_eq_zero_iff.1 (hsound.restyled 0 hzero).symm)
      · exact submitted_followUp (quiet_promised hquiet id p)
      · exact fun op hop => ⟨hsound.signed op hop, hsound.valid op hop⟩

def bodyOnly : Workspace :=
  { engine := ({} : Engine EngineListener).openDocument (.build [.commonStyle ⟨"Body"⟩ "Body"]) }

def withBody : Workspace := (bodyOnly.createSession { member := ⟨"m"⟩ } .all).2

def withBodyClosed : Workspace := (withBody.execute (.engine .close)).2

/-- A clone of `Body` is one batch; on the closed engine it is refused and its reservation taken
back. -/
theorem clone_accepted_or_taken_back :
    let clone : Edit := .cloneStyle ⟨"Body"⟩ "My"
    (∃ batch, batch ≠ [] ∧ (withBody.edit conduct 0 clone).2.engine.submitted =
        withBody.engine.submitted ++ [batch]) ∧
      (withBodyClosed.edit conduct 0 clone).2 = withBodyClosed := by
  intro clone
  obtain ⟨s, hs⟩ := Option.isSome_iff_exists.1
    (by decide +kernel : (withBody.sessions.get? 0).isSome = true)
  obtain ⟨t, ht⟩ := Option.isSome_iff_exists.1
    (by decide +kernel : (withBodyClosed.sessions.get? 0).isSome = true)
  have haccepted : (withBody.edit conduct 0 clone).1 = .ok (.created ⟨"My_m"⟩) := rfl
  have hrefused : (withBodyClosed.edit conduct 0 clone).1 = .error (.engine .closed) := rfl
  constructor
  · obtain ⟨-, hzero, -⟩ | ⟨-, batch, hne, hsubmitted, -⟩ :=
      (edit_all_or_nothing (quiet_of_unobserved (by decide +kernel)) hs clone).2 _ haccepted
    · cases hzero
    · exact ⟨batch, hne, hsubmitted⟩
  · exact (edit_all_or_nothing (quiet_of_unobserved (by decide +kernel)) ht clone).1 _ hrefused

end Workspace

end Coedit
