import Coedit.Proofs.CommandLine.Attendance
import Coedit.Proofs.Session.Outcome

/-!
# One line at the command line

A line that is answered with an error has changed nothing, and the error is all that is printed.
Otherwise the batches that its instruction asks for were submitted, and applied at the end of the
line. Either way the command line is ready for the next line.
-/

namespace Coedit

/-- The batches of a proposal; an empty one is not submitted. -/
def Proposal.batches (p : Proposal) : List Batch := if p.batch = [] then [] else [p.batch]

/-- The batches that an edit asks for; none if it is refused. -/
def SessionCore.batches (s : SessionCore) (r : Replica) (change : Edit) : List Batch :=
  match s.propose r change with
  | .error _ => []
  | .ok p => p.batches

namespace Workspace

variable {w : Workspace} {id : Nat} {s : Session}

def attended? (w : Workspace) : Option SessionCore :=
  ((w.editor.bind openSession?).bind w.sessions.get?).map (·.core)

theorem proceeds_promised (h : w.Quiet) (id : Nat) (p : Proposal) :
    Proceeds [p.batch] w (w.promised id p) := by
  have hreserved := proceeds_changeReservation h id p .reserve
    fun s style => (alike_reserve s style).member
  have hqueued := proceeds_queued hreserved.quiet p.batch
  rw [engine_changeReservation] at hqueued
  exact hreserved.trans hqueued

end Workspace

namespace CommandLine

open Workspace

/-! ## What is asked for -/

def Instruction.batches (s : SessionCore) (r : Replica) : Instruction → List Batch
  | .select anchor position => s.batches r (.moveCursor position anchor)
  | .setStyle style => s.batches r (.setParagraphStyle style)
  | .clone source displayName => s.batches r (.cloneStyle source displayName)
  | .delete style => s.batches r (.deleteStyle style)
  | .insert content => s.batches r (.insertContent content)
  | .setMetadata key value => [[.updateMetadata s.member (Dict.empty.insert key value) []]]
  | .removeMetadata key => [[.updateMetadata s.member ∅ [key]]]
  | .nothing | .quit | .help | .showDocument | .styles | .fonts | .undo | .redo => []

/-- The batches that a line asks for. -/
def requests (w : Workspace) (line : String) : List Batch :=
  match Instruction.ofLine line, w.attended? with
  | .ok i, some s => i.batches s w.engine.replica
  | _, _ => []

/-! ## What is printed -/

def Faultless (t : Transcript) : Prop := ∀ c, passing c ∉ t

theorem faultless_nil : Faultless [] := fun _ => List.not_mem_nil

theorem Faultless.append {t t' : Transcript} (h : Faultless t) (h' : Faultless t') :
    Faultless (t ++ t') := by
  intro c hc
  rcases List.mem_append.1 hc with hmem | hmem
  · exact h c hmem
  · exact h' c hmem

theorem say_ne_passing (line : String) (c : Complaint) : say line ≠ passing c := by
  intro h
  cases congrArg Printed.channel h

theorem faultless_say (line : String) : Faultless [say line] := by
  intro c hc
  exact say_ne_passing line c (List.mem_singleton.1 hc).symm

theorem faultless_sayEach {α : Type} (f : α → String) (l : List α) :
    Faultless (l.map fun a => say (f a)) := by
  intro c hc
  obtain ⟨a, -, ha⟩ := List.mem_map.1 hc
  exact say_ne_passing (f a) c ha

/-- What was heard is never worded as a complaint. -/
theorem shown_ne_passing (entry : LogEntry) (c : Complaint) : shown entry ≠ some (passing c) := by
  intro h
  unfold shown at h
  split at h
  · exact say_ne_passing _ c (Option.some.inj h)
  · exact say_ne_passing _ c (Option.some.inj h)
  · have htext := congrArg (fun p => p.text.toList.head?) (Option.some.inj h)
    simp [warn, passing] at htext
  · cases h

theorem faultless_shown (log : List LogEntry) : Faultless (log.filterMap shown) := by
  intro c hc
  obtain ⟨entry, -, hentry⟩ := List.mem_filterMap.1 hc
  exact shown_ne_passing entry c hentry

/-! ## Commands -/

section Lines

variable {spec : EditorSpec} {first id : Nat} {e : Editor} {w : Workspace} {s : Session}

/-- What a command comes to that is answered without an error: batches were submitted, which may
have been applied already. -/
structure Served (spec : EditorSpec) (first : Nat) (e : Editor) (id : Nat) (batches : List Batch)
    (w : Workspace) (made : Shown) : Prop where
  attending : Attending spec first e id made.2
  proceeds : Proceeds batches w made.2
  faultless : Faultless made.1

theorem Prompted.attended? (h : Prompted spec first e id w) (hs : w.sessions.get? id = some s) :
    w.attended? = some s.core := by
  simp [Workspace.attended?, h.editor, h.toAttending.openSession?, hs]

theorem served_idle (h : Prompted spec first e id w) {printed : Transcript}
    (hprinted : Faultless printed) : Served spec first e id [] w (printed, w) :=
  ⟨h.toAttending, Proceeds.refl h.quiet, hprinted⟩

/-- To a command that changes nothing there is an answer to be printed. -/
theorem performing_of_unchanged {c : Command} {reply : Reply} {print : Reply → Transcript}
    (hc : w.execute c = (reply, w)) (hlog : w.log = []) (hreply : ∀ cause, reply ≠ .failed cause) :
    performing c print w = (print reply, w) := by
  unfold performing
  rw [perform_of_unchanged hc hlog]
  cases reply
  case failed cause => exact absurd rfl (hreply cause)
  all_goals rfl

/-- Questions to the session, and what its undo manager is told. -/
theorem execute_unchanged (h : Prompted spec first e id w) {c : SessionCommand}
    (hc : ∀ v, (doSession conduct id v c).2 = v ∧
      ∀ cause, (doSession conduct id v c).1 ≠ .failed cause) :
    ∃ reply, w.execute (.session c) = (reply, w) ∧ ∀ cause, reply ≠ .failed cause := by
  obtain ⟨hsame, hreply⟩ := hc { w with holds := [(.editor, .shared)] }
  refine ⟨_, ?_, hreply⟩
  rw [h.toAttending.execute_session, hsame]
  rw [← h.free]

theorem doSession_ask (id : Nat) (q : SessionQuery) (v : Workspace) :
    (doSession conduct id v (.ask q)).2 = v ∧
      ∀ cause, (doSession conduct id v (.ask q)).1 ≠ .failed cause := by
  unfold doSession
  simp only
  cases v.sessions.get? id with
  | none => simp
  | some s =>
      refine ⟨rfl, fun cause => ?_⟩
      cases q <;> simp [askSession]

theorem served_question (h : Prompted spec first e id w) {c : SessionCommand}
    (hc : ∀ v, (doSession conduct id v c).2 = v ∧
      ∀ cause, (doSession conduct id v c).1 ≠ .failed cause)
    {print : Reply → Transcript} (hprint : ∀ reply, Faultless (print reply)) :
    Served spec first e id [] w (performing (.session c) print w) := by
  obtain ⟨reply, hexecute, hreply⟩ := execute_unchanged h hc
  rw [performing_of_unchanged hexecute h.log hreply]
  exact served_idle h (hprint reply)

theorem doSession_undo (v : Workspace) : (doSession conduct id v .undo).2 = v ∧
    ∀ cause, (doSession conduct id v .undo).1 ≠ .failed cause := by simp [doSession]

theorem doSession_redo (v : Workspace) : (doSession conduct id v .redo).2 = v ∧
    ∀ cause, (doSession conduct id v .redo).1 ≠ .failed cause := by simp [doSession]

theorem faultless_printFlag (what : String) (reply : Reply) : Faultless (printFlag what reply) := by
  unfold printFlag
  split
  · exact faultless_say _
  · exact faultless_nil

theorem served_styles (h : Prompted spec first e id w) :
    Served spec first e id [] w (showStyles w) := by
  obtain ⟨state, hstate, -⟩ := execute_unchanged h (doSession_ask id .state)
  unfold showStyles
  rw [perform_of_unchanged hstate h.log]
  refine served_question h (doSession_ask id .styles) fun reply => ?_
  cases reply
  case styles styles => exact faultless_sayEach _ styles
  all_goals exact faultless_nil

theorem Served.after {batches : List Batch} {made : Shown} {printed : Transcript}
    (h : Served spec first e id batches w made) (hprinted : Faultless printed) :
    Served spec first e id batches w (printed ++ made.1, made.2) :=
  ⟨h.attending, h.proceeds, hprinted.append h.faultless⟩

theorem served_fonts (h : Prompted spec first e id w) :
    Served spec first e id [] w (showFonts w) := by
  obtain ⟨reply, hdeclared, hreply⟩ := execute_unchanged h (doSession_ask id .declaredFonts)
  unfold showFonts
  rw [performing_of_unchanged hdeclared h.log hreply]
  refine Served.after (served_question h (doSession_ask id .availableFonts) fun reply => ?_) ?_
  · cases reply
    case availableFonts families => exact faultless_sayEach _ families
    all_goals exact faultless_nil
  · cases reply
    case declaredFonts fonts => exact faultless_sayEach _ fonts
    all_goals exact faultless_nil

/-- What the command did while it held the editor decides what it comes to. -/
theorem served_of_held (h : Prompted spec first e id w) {c : Command} {reply : Reply}
    {print : Reply → Transcript} {access : Access} {batches : List Batch} {v : Workspace}
    (hexecute : w.execute c = (reply, { v with holds := [] }))
    (hproceeds : Proceeds batches { w with holds := [(.editor, access)] } v)
    (hdoor : v.door = w.door) (hreply : ∀ cause, reply ≠ .failed cause)
    (hprint : Faultless (print reply)) :
    Served spec first e id batches w (performing c print w) := by
  have hmade : performing c print w =
      (v.log.filterMap shown ++ print reply, { v with holds := [], log := [] }) := by
    unfold performing
    rw [perform_of_held hexecute]
    cases reply
    case failed cause => exact absurd rfl (hreply cause)
    all_goals rfl
  have hall := proceeds_meantime h.quiet hproceeds
  rw [hmade]
  exact ⟨h.toAttending.proceeds hall hdoor rfl, hall, (faultless_shown _).append hprint⟩

theorem faultless_printAnswer (reply : Reply) : Faultless (printAnswer reply) := by
  unfold printAnswer
  split
  · exact faultless_say _
  · exact faultless_say _
  · exact faultless_nil

/-- An edit is refused by what is proposed, or its proposal is submitted. -/
theorem served_edit (h : Prompted spec first e id w) (hs : w.sessions.get? id = some s)
    (change : Edit) :
    match s.core.propose w.engine.replica change with
    | .error cause => edit change w = ([passing (complaint (.session cause))], w)
    | .ok p => Served spec first e id p.batches w (edit change w) := by
  let held : Workspace := { w with holds := [(.editor, .shared)] }
  have hedit := edit_of_admitted (w := held) (e := change) hs h.toAttending.isOpen
    (fun p _ op _ => by simp [held, h.welcoming.refusals]) conduct
  have hdoor : (held.edit conduct id change).2.door = w.door :=
    (door_submission.edit (w := held) h.quiet id change).2
  have hexecute : w.execute (.session (.edit change)) =
      ((held.doSession conduct id (.edit change)).1,
        { (held.doSession conduct id (.edit change)).2 with holds := [] }) :=
    h.toAttending.execute_session (.edit change)
  have hreleased : ({ held with holds := [] } : Workspace) = w := by
    simp only [held]
    rw [← h.free]
  unfold edit
  simp only [doSession, hedit, show held.engine.replica = w.engine.replica from rfl] at hexecute
  cases hp : s.core.propose w.engine.replica change with
  | error cause =>
      simp only [hp, hreleased] at hexecute
      unfold performing
      rw [perform_of_unchanged hexecute h.log]
      rfl
  | ok p =>
      by_cases hbatch : p.batch = []
      · simp only [hp, hbatch, if_true, hreleased] at hexecute
        have hnone : p.batches = [] := if_pos hbatch
        rw [performing_of_unchanged hexecute h.log (by simp)]
        simp only [hnone]
        exact served_idle h (faultless_printAnswer _)
      · simp only [hedit, show held.engine.replica = w.engine.replica from rfl, hp, hbatch,
          if_false] at hexecute hdoor
        have hpromised := proceeds_promised (w := held) h.quiet id p
        have hfollowed := hpromised.trans (proceeds_followUp hpromised.quiet)
        rw [List.append_nil] at hfollowed
        have hone : p.batches = [p.batch] := if_neg hbatch
        simp only [hone]
        exact served_of_held h hexecute hfollowed hdoor (by simp) (faultless_printAnswer _)

theorem served_metadata (h : Prompted spec first e id w) (set : Dict String String)
    (removed : List String) :
    Served spec first e id [[.updateMetadata e.member set removed]] w
      (setMetadata set removed w) := by
  let held : Workspace := { w with holds := [(.editor, .shared)] }
  let batch : Batch := [.updateMetadata e.member set removed]
  have hwelcoming : held.Welcoming := ⟨h.welcoming.refusals, h.welcoming.declared⟩
  have hsubmitted : held.submit conduct batch = (.ok (), (held.submit conduct batch).2) :=
    Prod.ext (submit_of_opened hwelcoming h.toAttending.opened batch) rfl
  have hexecute : w.execute (.editor (.setMetadata set removed)) =
      (.done, { (held.submit conduct batch).2 with holds := [] }) := by
    rw [execute_editor_of_free h.editor h.free]
    simp only [doEditor, editorAccess, Workspace.setMetadata, h.toAttending.openSession?, byEngine,
      Attempt.result_of]
    rw [show submit conduct [.updateMetadata e.member set removed]
      { w with holds := [(.editor, .shared)] } = _ from hsubmitted]
    rfl
  exact served_of_held h hexecute
    (proceeds_submit (w := held) h.quiet hwelcoming h.toAttending.opened batch)
    (door_submission.submit (w := held) h.quiet batch).2 (by simp) faultless_nil

/-! ## A whole line -/

/-- What a line comes to: an error is all that is printed, and nothing else has happened; or the
line was served. -/
def Settles (spec : EditorSpec) (first : Nat) (e : Editor) (id : Nat) (batches : List Batch)
    (w : Workspace) (made : Shown) : Prop :=
  (∃ c, made = ([passing c], w) ∧ batches = []) ∨ Served spec first e id batches w made

theorem settles_edit (h : Prompted spec first e id w) (hs : w.sessions.get? id = some s)
    (change : Edit) :
    Settles spec first e id (s.core.batches w.engine.replica change) w (edit change w) := by
  have hserved := served_edit h hs change
  unfold SessionCore.batches
  cases hp : s.core.propose w.engine.replica change with
  | error cause =>
      rw [hp] at hserved
      exact .inl ⟨_, hserved, rfl⟩
  | ok p =>
      rw [hp] at hserved
      exact .inr hserved

theorem settles_follow (h : Prompted spec first e id w) (hs : w.sessions.get? id = some s)
    (hmember : s.core.member = e.member) (i : Instruction) :
    Settles spec first e id (i.batches s.core w.engine.replica) w (follow i w) := by
  cases i with
  | select | setStyle | clone | delete | insert => exact settles_edit h hs _
  | nothing | quit => exact .inr (served_idle h faultless_nil)
  | help => exact .inr (served_idle h (faultless_say _))
  | showDocument => exact .inr (served_idle h (faultless_sayEach _ _))
  | styles => exact .inr (served_styles h)
  | fonts => exact .inr (served_fonts h)
  | setMetadata | removeMetadata =>
      unfold Instruction.batches
      rw [hmember]
      exact .inr (served_metadata h _ _)
  | undo => exact .inr (served_question h (fun _ => doSession_undo _) (faultless_printFlag _))
  | redo => exact .inr (served_question h (fun _ => doSession_redo _) (faultless_printFlag _))

theorem settles_line (h : Prompted spec first e id w) (hs : w.sessions.get? id = some s)
    (hmember : s.core.member = e.member) (line : String) :
    Settles spec first e id (requests w line) w (match Instruction.ofLine line with
      | .ok i => follow i w
      | .error c => ([passing c], w)) := by
  unfold requests
  cases Instruction.ofLine line with
  | error c => exact .inl ⟨c, rfl, rfl⟩
  | ok i =>
      simp only [Prompted.attended? h hs]
      exact settles_follow h hs hmember i

theorem Settles.flushed {batches : List Batch} {made : Shown} (h : Prompted spec first e id w)
    (hmade : Settles spec first e id batches w made) :
    let done : Shown := (made.1 ++ (flush made.2).1, (flush made.2).2)
    Prompted spec first e id done.2 ∧ Proceeds batches w done.2 ∧
      ∀ c, passing c ∈ done.1 → done = ([passing c], w) := by
  intro done
  rcases hmade with ⟨c, rfl, rfl⟩ | hserved
  · have hdone : done = ([passing c], w) := by
      simp [done, flush_of_prompted h]
    rw [hdone]
    refine ⟨h, Proceeds.refl h.quiet, fun c' hc' => ?_⟩
    rw [List.mem_singleton.1 hc']
  · obtain ⟨hprompted, hflushed⟩ := prompted_flush hserved.attending
    have hproceeds := hserved.proceeds.trans hflushed
    rw [List.append_nil] at hproceeds
    exact ⟨hprompted, hproceeds,
      fun c hc => absurd hc (hserved.faultless.append (faultless_shown _) c)⟩

/-- A line was followed. If it was answered with an error, that is all, and nothing is different.
What it asked for was submitted and has been applied. -/
structure Followed (w : Workspace) (line : String) (made : Shown) : Prop where
  refused : ∀ c, passing c ∈ made.1 → made = ([passing c], w)
  submitted : made.2.engine.submitted = w.engine.submitted ++ requests w line
  applied : made.2.engine.replica =
    (requests w line).foldl (fun r batch => (r.applyBatch batch).1) w.engine.replica
  empty : made.2.engine.pending = []

theorem upshot_of_empty {engine : Engine EngineListener} (h : engine.pending = []) :
    engine.upshot = engine.replica := by
  rw [Engine.upshot, h]
  rfl

/-- The command line survives every line. -/
theorem followed_line (h : Prompted spec first e id w) (line : String) :
    Prompted spec first e id (followLine (Instruction.ofLine line) w).2 ∧
      Followed w line (followLine (Instruction.ofLine line) w) := by
  obtain ⟨s, hs, hmember⟩ := h.toAttending.partner
  have hsettles := settles_line h hs (hmember.trans h.toAttending.member.symm) line
  obtain ⟨hprompted, hproceeds, hrefused⟩ := hsettles.flushed h
  refine ⟨hprompted, hrefused, hproceeds.submitted, ?_, hprompted.empty⟩
  have hupshot := hproceeds.upshot
  rwa [upshot_of_empty hprompted.empty, upshot_of_empty h.empty] at hupshot

end Lines

end CommandLine

end Coedit
