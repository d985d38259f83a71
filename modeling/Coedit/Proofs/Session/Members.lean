import Coedit.Document.Builder
import Coedit.Proofs.Salt
import Coedit.Proofs.Session.Reservation

/-!
# Identifiers of several members

Sessions do not see each other's reservations; only the salt keeps the identifiers apart that they
give away before the engine applies anything. Every identifier that is given away is an attempt for
its display name and the salt of its member, so those of two members are the same just if they
overlap.
-/

namespace Coedit

/-- An identifier that a session gave away when it cloned a style. -/
structure Clone where
  member : MemberId
  displayName : String
  style : StyleId
  deriving DecidableEq, Repr

/-- A call of a session that clones a style, or any command. -/
inductive Call where
  | clone (session : Nat) (source : StyleId) (displayName : String)
  | command (command : Command)

namespace Clone

def request (x : Clone) (attempt : Nat) : Identifier.Request :=
  { name := x.displayName, member := x.member.text, attempt }

def Overlaps (x y : Clone) : Prop :=
  ∃ n m, x.style.text = (x.request n).id ∧ y.style.text = (y.request m).id ∧
    (x.request n).Overlaps (y.request m)

def Attempted (x : Clone) : Prop := ∃ n, x.style.text = (x.request n).id

theorem style_eq_iff {x y : Clone} (hx : x.Attempted) (hy : y.Attempted)
    (h : x.member ≠ y.member) : x.style = y.style ↔ x.Overlaps y ∨ y.Overlaps x := by
  obtain ⟨n, hn⟩ := hx
  obtain ⟨m, hm⟩ := hy
  have hmember : (x.request n).member ≠ (y.request m).member :=
    fun heq => h (congrArg MemberId.mk heq)
  constructor
  · intro hstyle
    have hid : (x.request n).id = (y.request m).id := by rw [← hn, ← hm, hstyle]
    rcases (Identifier.Request.id_eq_iff hmember).1 hid with hoverlap | hoverlap
    · exact .inl ⟨n, m, hn, hm, hoverlap⟩
    · exact .inr ⟨m, n, hm, hn, hoverlap⟩
  · rintro (⟨i, j, hi, hj, hoverlap⟩ | ⟨j, i, hj, hi, hoverlap⟩)
    · exact congrArg StyleId.mk (hi.trans (hoverlap.id_eq.trans hj.symm))
    · exact congrArg StyleId.mk (hi.trans (hoverlap.id_eq.symm.trans hj.symm))

end Clone

namespace SessionCore

theorem attempted_freshStyleId {s : SessionCore} {r : Replica} {displayName : String}
    {style : StyleId} (h : s.freshStyleId r displayName = .ok style) :
    Clone.Attempted { member := s.member, displayName, style } := by
  unfold freshStyleId at h
  cases hunique : Identifier.uniqueWithin (s.takenStyles r) (Identifier.synthesize displayName)
      s.salt with
  | error cause => simp [hunique, Except.map] at h
  | ok id =>
      simp only [hunique, Except.map, Except.ok.injEq] at h
      subst h
      obtain ⟨n, hattempt, -⟩ := Identifier.attempt_of_uniqueWithin hunique
      exact ⟨n, hattempt⟩

theorem attempted_proposeClone {s : SessionCore} {r : Replica} {source style : StyleId}
    {displayName : String} {p : Proposal} (h : s.proposeClone r source displayName = .ok p)
    (hanswer : p.answer = .created style) :
    Clone.Attempted { member := s.member, displayName, style } := by
  obtain ⟨definition, fresh, -, hfresh, rfl⟩ := proposeClone_spec h
  obtain rfl : fresh = style := EditAnswer.created.inj hanswer
  exact attempted_freshStyleId hfresh

end SessionCore

namespace Workspace

/-- Whatever a session gives away, it proposed. -/
theorem proposal_of_edit {act : Conduct} {id : Nat} {e : Edit} {w : Workspace} {s : Session}
    {style : StyleId} (hs : w.sessions.get? id = some s)
    (h : (w.edit act id e).1 = .ok (.created style)) :
    ∃ p, s.core.propose w.engine.replica e = .ok p ∧ p.answer = .created style := by
  have hcases := queueEdit_cases id e w
  unfold edit at h
  cases hqueue : w.queueEdit id e with
  | mk result w' =>
      rw [hqueue] at h hcases
      cases hcases with
      | queued s' p _ hs' hp =>
          obtain rfl := Option.some.inj (hs.symm.trans hs')
          exact ⟨p, hp, Except.ok.inj h⟩
      | kept _ _ answer =>
          cases result with
          | error cause => cases h
          | ok pair => exact absurd (Except.ok.inj h) ((answer pair.1 pair.2 rfl).2 style)

/-- Carries out a call; a clone is noted with its member if an identifier is given away. -/
def answerCall (w : Workspace) : Call → Option Clone × Workspace
  | .command c => (none, (w.execute c).2)
  | .clone session source displayName =>
    match w.sessions.get? session, w.edit conduct session (.cloneStyle source displayName) with
    | some s, (.ok (.created style), w) =>
      (some { member := s.core.member, displayName, style }, w)
    | _, (_, w) => (none, w)

/-- The identifiers that are given away while calls are carried out in turn. -/
def clones : List Call → Workspace → List Clone
  | [], _ => []
  | call :: rest, w => (w.answerCall call).1.toList ++ clones rest (w.answerCall call).2

theorem attempted_answerCall {w : Workspace} {call : Call} {x : Clone}
    (h : (w.answerCall call).1 = some x) : x.Attempted := by
  cases call with
  | command c => cases h
  | clone session source displayName =>
      unfold answerCall at h
      simp only at h
      split at h
      · rename_i s style w' hs hedit
        obtain rfl := Option.some.inj h
        obtain ⟨p, hp, hanswer⟩ := proposal_of_edit hs (congrArg Prod.fst hedit)
        exact SessionCore.attempted_proposeClone hp hanswer
      · cases h

theorem attempted_clones {calls : List Call} {w : Workspace} {x : Clone}
    (h : x ∈ clones calls w) : x.Attempted := by
  induction calls generalizing w with
  | nil => cases h
  | cons call rest ih =>
      rcases List.mem_append.1 h with hfirst | hrest
      · exact attempted_answerCall (Option.mem_toList.1 hfirst)
      · exact ih hrest

/-- Sessions of different members give away the same identifier just if the identifiers overlap:
both are numbered with two digits, and each number reads as an escaped byte of the other's name or
salt. -/
theorem clones_shared_iff_overlap {calls : List Call} {w : Workspace} {x y : Clone}
    (hx : x ∈ clones calls w) (hy : y ∈ clones calls w) (h : x.member ≠ y.member) :
    x.style = y.style ↔ x.Overlaps y ∨ y.Overlaps x :=
  Clone.style_eq_iff (attempted_clones hx) (attempted_clones hy) h

def oneStyle : Workspace :=
  { engine := Engine.openDocument {} (.build [.commonStyle ⟨"Body"⟩ "Body"]) }

def twoMembers : Workspace :=
  ((oneStyle.createSession { member := ⟨"x"⟩ } .all).2.createSession { member := ⟨" x"⟩ } .all).2

/-- The first session clones under the name `T `, the second one under the name `T`. -/
def cloneBoth (times : Nat) : List Call :=
  List.replicate times (.clone 0 ⟨"Body"⟩ "T ") ++ List.replicate times (.clone 1 ⟨"Body"⟩ "T")

theorem first_clones_apart :
    let x : Clone := { member := ⟨"x"⟩, displayName := "T ", style := ⟨"T_20__x"⟩ }
    let y : Clone := { member := ⟨" x"⟩, displayName := "T", style := ⟨"T__20_x"⟩ }
    clones (cloneBoth 1) twoMembers = [x, y] ∧ ¬ (x.Overlaps y ∨ y.Overlaps x) := by
  intro x y
  have hclones : clones (cloneBoth 1) twoMembers = [x, y] := by decide +kernel
  refine ⟨hclones, fun hoverlap => ?_⟩
  have hx : x ∈ clones (cloneBoth 1) twoMembers := by rw [hclones]; exact List.mem_cons_self
  have hy : y ∈ clones (cloneBoth 1) twoMembers := by
    rw [hclones]
    exact List.mem_cons_of_mem _ List.mem_cons_self
  have hsame := (clones_shared_iff_overlap hx hy (by decide +kernel)).2 hoverlap
  exact absurd hsame (by decide +kernel)

/-- With the number 20, which reads as the space in the name and as that in the member, they
meet. -/
theorem clones_shared_at_twenty :
    let given := clones (cloneBoth 22) twoMembers
    ∃ x ∈ given, ∃ y ∈ given, x.member = ⟨"x"⟩ ∧ y.member = ⟨" x"⟩ ∧ x.style = y.style := by
  intro given
  let x : Clone := { member := ⟨"x"⟩, displayName := "T ", style := ⟨"T_20__20_x"⟩ }
  let y : Clone := { member := ⟨" x"⟩, displayName := "T", style := ⟨"T_20__20_x"⟩ }
  have hgiven : (fun given : List Clone => (given[21]?, given[43]?)) given = (some x, some y) := by
    decide +kernel
  exact ⟨x, List.mem_of_getElem? (congrArg Prod.fst hgiven), y,
    List.mem_of_getElem? (congrArg Prod.snd hgiven), rfl, rfl, rfl⟩

end Workspace

end Coedit
