import Coedit.Proofs.CommandLine.Lines
import Coedit.Proofs.Editor.Completion

/-!
# Whole scripts at the command line

Whatever lines are typed, the command line gets to the end of them. Each line that fails leaves
everything as it was; all that the other lines asked for has been applied, in order, when the
editor leaves; and leaving cannot fail.
-/

namespace Coedit.CommandLine

open Workspace
open Attempt (Triple)

/-! ## The dialogue -/

def quits (line : String) : Bool :=
  match Instruction.ofLine line with
  | .ok .quit => true
  | _ => false

/-- The lines that are followed: those before the first one that ends the dialogue. -/
def heeded (lines : List String) : List String := lines.takeWhile fun line => !quits line

def dialogue : List String → Workspace → Shown
  | [], w => ([], w)
  | line :: rest, w =>
    let made := followLine (Instruction.ofLine line) w
    let later := dialogue rest made.2
    (prompt :: made.1 ++ later.1, later.2)

/-- The batches that lines ask for, each where the lines before it have been followed. -/
def allRequests : List String → Workspace → List Batch
  | [], _ => []
  | line :: rest, w =>
    requests w line ++ allRequests rest (followLine (Instruction.ofLine line) w).2

def decoded (input : List UInt8) : List (Option String) :=
  (Text.keptLinesFrom [] input).map fun line => String.fromUTF8? ⟨line.toArray⟩

section Dialogue

variable {spec : EditorSpec} {first id : Nat} {e : Editor} {w : Workspace}

theorem prompted_dialogue (h : Prompted spec first e id w) (lines : List String) :
    Prompted spec first e id (dialogue lines w).2 := by
  induction lines generalizing w with
  | nil => exact h
  | cons line rest ih => exact ih (followed_line h line).1

/-- All that was asked for was submitted and applied in order. -/
theorem applied_dialogue (h : Prompted spec first e id w) (lines : List String) :
    (dialogue lines w).2.engine.submitted = w.engine.submitted ++ allRequests lines w ∧
      (dialogue lines w).2.engine.replica =
        (allRequests lines w).foldl (fun r batch => (r.applyBatch batch).1) w.engine.replica := by
  induction lines generalizing w with
  | nil => exact ⟨(List.append_nil _).symm, rfl⟩
  | cons line rest ih =>
      obtain ⟨hnext, hfollowed⟩ := followed_line h line
      obtain ⟨hsubmitted, happlied⟩ := ih hnext
      constructor
      · rw [hfollowed.submitted, List.append_assoc] at hsubmitted
        exact hsubmitted
      · rw [hfollowed.applied] at happlied
        rw [allRequests, List.foldl_append]
        exact happlied

/-! ## Reading lines -/

theorem readLine_of_quits {bytes : List UInt8} {line : String}
    (hline : String.fromUTF8? ⟨bytes.toArray⟩ = some line) (hquits : quits line = true)
    (w : Workspace) : readLine bytes w = .quit := by
  unfold quits at hquits
  split at hquits
  · rename_i hquit
    simp [readLine, hline, hquit]
  · cases hquits

theorem readLine_of_heeded {bytes : List UInt8} {line : String}
    (hline : String.fromUTF8? ⟨bytes.toArray⟩ = some line) (hquits : quits line = false)
    (w : Workspace) :
    readLine bytes w = .more (followLine (Instruction.ofLine line) w).1
      (followLine (Instruction.ofLine line) w).2 := by
  unfold quits at hquits
  split at hquits
  · cases hquits
  · simp only [readLine, hline]

/-- Input that is UTF-8 leads to the dialogue about its lines, and then the editor leaves. -/
theorem followLines_eq {bytes : List (List UInt8)} {lines : List String} {left : Transcript}
    (hlines : bytes.map (fun line => String.fromUTF8? ⟨line.toArray⟩) = lines.map some)
    (hleft : finish (dialogue (heeded lines) w).2 = (left, .ended 0)) :
    followLines bytes w = ((dialogue (heeded lines) w).1 ++ prompt :: left, 0) := by
  induction bytes generalizing lines w with
  | nil =>
      obtain rfl : lines = [] := by simpa using hlines.symm
      simp only [heeded, List.takeWhile_nil, dialogue] at hleft ⊢
      simp only [followLines, hleft, List.nil_append]
  | cons line rest ih =>
      cases lines with
      | nil => cases hlines
      | cons text later =>
          simp only [List.map_cons, List.cons.injEq] at hlines
          obtain ⟨hline, hrest⟩ := hlines
          cases hquits : quits text with
          | true =>
              simp only [heeded, List.takeWhile_cons, hquits, Bool.not_true, Bool.false_eq_true,
                if_false, dialogue] at hleft ⊢
              simp only [followLines, continueWith, readLine_of_quits hline hquits, hleft,
                List.nil_append]
          | false =>
              simp only [heeded, List.takeWhile_cons, hquits, Bool.not_false, if_true, dialogue]
                at hleft ⊢
              have hafter := ih hrest hleft
              simp only [followLines, continueWith, readLine_of_heeded hline hquits, hafter]
              simp [heeded]

/-! ## Leaving -/

/-- A closed editor without a user interface is destroyed. -/
theorem result_destroyEditor (heditor : w.editor = some e) (hclosed : e.state = .closed)
    (hheadless : e.frontend = .headless) :
    (destroyEditor e).result w =
      (.ok (), (w.modifyEditor fun e => { e with state := .destroyed }).modifyEditor
        fun e => { e with bus := e.bus.clear }) := by
  have hnext : e.state.next? .destroy = some .destroyed := by
    rw [hclosed]
    rfl
  unfold destroyEditor
  rw [Attempt.result_bind_of_ok (result_advance_of_legal heditor hnext), hheadless]
  rfl

structure Departed (member : MemberId) (state : EditorState) (w w' : Workspace) : Prop where
  state : w'.editor.map (·.state) = some state
  submitted : w'.engine.submitted = w.engine.submitted ++ leavingBatches member
  replica : w'.engine.replica = w.engine.replica.without member
  empty : w'.engine.pending = []

/-- The editor closes its document. -/
theorem closed_of_prompted (h : Prompted spec first e id w)
    (hheadless : spec.frontend = .headless) :
    let closed := perform (.editor .close) w
    closed.1 = .done ∧ closed.2.2.holds = [] ∧
      closed.2.2.editor = some { e.parted with state := .closed } ∧
      Departed spec.member .closed w closed.2.2 := by
  let held : Workspace := { w with holds := [(.editor, .exclusive)] }
  have hpartnered : Partnered spec first held :=
    (works_holding h.partnered h.quiet [(.editor, .exclusive)]).partnered
  have hwelcoming : held.Welcoming := ⟨h.welcoming.refusals, h.welcoming.declared⟩
  have hclosable : Closable spec.frontend held :=
    ⟨h.toAttending.isOpen, congrArg Prod.snd h.door, fun _ _ => by rw [hheadless]; rfl⟩
  have hquiet : held.Quiet := h.quiet
  have hclose := triple_close hquiet hwelcoming hpartnered h.editor h.editing h.session held rfl
  have hexecute : w.execute (.editor .close) =
      ((reply .editor ((closeDocument conduct e).result held)).1,
        { (reply .editor ((closeDocument conduct e).result held)).2 with holds := [] }) :=
    execute_editor_of_free h.editor h.free .close
  cases hr : (closeDocument conduct e).result held with
  | mk answer w' =>
      rw [hr] at hclose hexecute
      cases answer with
      | error cause => exact absurd hclosable hclose.1
      | ok _ =>
          obtain ⟨-, hleft⟩ := hclose
          have hreplica := hleft.replica
          rw [upshot_of_empty h.empty] at hreplica
          intro closed
          have hclosed : closed = (.done, w'.log.filterMap shown,
              { w' with holds := [], log := [] }) := perform_of_held hexecute
          rw [hclosed]
          exact ⟨rfl, rfl, hleft.editor, congrArg (Option.map (·.state)) hleft.editor,
            hleft.submitted, hreplica, hleft.empty⟩

/-- Leaving cannot fail. -/
theorem departed_of_prompted (h : Prompted spec first e id w)
    (hheadless : spec.frontend = .headless) :
    let closed := perform (.editor .close) w
    let destroyed := perform (.editor .destroy) closed.2.2
    finish w = (closed.2.1 ++ destroyed.2.1, .ended 0) ∧ closed.1 = .done ∧ destroyed.1 = .done ∧
      Departed spec.member .destroyed w destroyed.2.2 := by
  intro closed destroyed
  obtain ⟨hclosed, hfree, heditor, hdeparted⟩ := closed_of_prompted h hheadless
  let held : Workspace := { closed.2.2 with holds := [(.editor, .exclusive)] }
  have hfrontend : e.parted.frontend = .headless :=
    (h.partnered.matched e h.editor).frontend.trans hheadless
  have hresult := result_destroyEditor (w := held) heditor rfl hfrontend
  have hexecute : closed.2.2.execute (.editor .destroy) =
      ((reply .editor ((destroyEditor { e.parted with state := .closed }).result held)).1,
        { (reply .editor ((destroyEditor { e.parted with state := .closed }).result held)).2
          with holds := [] }) := execute_editor_of_free heditor hfree .destroy
  rw [hresult] at hexecute
  let left := (held.modifyEditor fun e => { e with state := .destroyed }).modifyEditor
    fun e => { e with bus := e.bus.clear }
  have hdestroyed : destroyed = (.done, left.log.filterMap shown,
      { left with holds := [], log := [] }) := perform_of_held hexecute
  have hclosing : perform (.editor .close) w = (.done, closed.2.1, closed.2.2) := by
    rw [← hclosed]
  have hdestroying : perform (.editor .destroy) closed.2.2 =
      (.done, destroyed.2.1, destroyed.2.2) := by
    rw [← show destroyed.1 = .done from congrArg Prod.fst hdestroyed]
  refine ⟨?_, hclosed, congrArg Prod.fst hdestroyed, ?_⟩
  · simp only [finish, hclosing, hdestroying]
  · rw [hdestroyed]
    refine ⟨?_, hdeparted.submitted, hdeparted.replica, hdeparted.empty⟩
    simp [left, Workspace.modifyEditor, held, heditor, closed]

end Dialogue

/-- Whatever document was opened, and whatever lines of text are typed: each line that is answered
with an error leaves everything as it was, and the next line is followed; in the end the document is
closed and the editor destroyed, and all that was asked for has been submitted and applied in
order, before the member was taken out. -/
theorem every_script_survived {i : Invocation} {opening : Transcript} {w : Workspace}
    (hstart : start i = (opening, .running w)) {input : List UInt8} {lines : List String}
    (hinput : decoded input = lines.map some) :
    let followed := heeded lines
    let closed := perform (.editor .close) (dialogue followed w).2
    let destroyed := perform (.editor .destroy) closed.2.2
    let final := destroyed.2.2
    (∀ earlier line later, followed = earlier ++ line :: later →
      let before := (dialogue earlier w).2
      Followed before line (followLine (Instruction.ofLine line) before)) ∧
    run i input =
      (opening ++ ((dialogue followed w).1 ++ prompt :: (closed.2.1 ++ destroyed.2.1)), 0) ∧
    closed.1 = .done ∧ destroyed.1 = .done ∧
    final.editor.map (·.state) = some .destroyed ∧ final.engine.pending = [] ∧
    ∃ s, w.attended? = some s ∧
      final.engine.submitted =
        w.engine.submitted ++ allRequests followed w ++ leavingBatches s.member ∧
      final.engine.replica = Replica.without
        ((allRequests followed w).foldl (fun r batch => (r.applyBatch batch).1) w.engine.replica)
        s.member := by
  obtain ⟨spec, first, e, id, hheadless, hprompted⟩ := prompted_of_start hstart
  obtain ⟨s, hs, hmember⟩ := hprompted.toAttending.partner
  intro followed closed destroyed final
  have hend := prompted_dialogue hprompted followed
  obtain ⟨hsubmitted, happlied⟩ := applied_dialogue hprompted followed
  obtain ⟨hfinish, hclosed, hdestroyed, hdeparted⟩ := departed_of_prompted hend hheadless
  refine ⟨fun earlier line later _ => ?_, ?_, hclosed, hdestroyed, hdeparted.state,
    hdeparted.empty, s.core, Prompted.attended? hprompted hs, ?_, ?_⟩
  · exact (followed_line (prompted_dialogue hprompted earlier) line).2
  · have hfollowed := followLines_eq hinput hfinish
    simp only [run, hstart, hfollowed]
    rfl
  · rw [hmember, ← hsubmitted]
    exact hdeparted.submitted
  · rw [hmember, ← happlied]
    exact hdeparted.replica

def onNotes : Invocation where
  name := "docsession"
  arguments := ["notes.txt"]
  files := ({} : FileTree).set ["notes.txt"] (.file "one line".toUTF8.data.toList)
  env := fun _ => none
  home := "/home/ada"
  fresh := ⟨"m"⟩

/-- A command that does not exist, a selection, and a line after the end. -/
def typed : List UInt8 := "bogus\nselect 0 3\nquit\nselect 1".toUTF8.data.toList

def atNotes : Workspace :=
  match (start onNotes).2 with
  | .running w => w
  | .ended _ => {}

theorem start_onNotes : start onNotes = ((start onNotes).1, .running atNotes) := by
  have hruns : (match (start onNotes).2 with | .running _ => true | .ended _ => false) = true := by
    decide +kernel
  unfold atNotes
  cases hstage : start onNotes with
  | mk opening stage =>
      rw [hstage] at hruns
      cases stage with
      | ended code => cases hruns
      | running w => rfl

theorem complains_followLine (c : Complaint) (w : Workspace) :
    passing c ∈ (followLine (.error c) w).1 :=
  List.mem_append_left _ (List.mem_singleton_self _)

/-- The unknown command changes nothing, the selection is made, the last line is not read, and the
program ends well. -/
theorem misspelt_command_survived :
    let followed := ["bogus\n", "select 0 3\n"]
    let final := (perform (.editor .destroy)
      (perform (.editor .close) (dialogue followed atNotes).2).2.2).2.2
    (∃ c, followLine (Instruction.ofLine "bogus\n") atNotes = ([passing c], atNotes)) ∧
      (run onNotes typed).2 = 0 ∧ final.editor.map (·.state) = some .destroyed ∧
      final.engine.submitted.length = atNotes.engine.submitted.length + 3 := by
  have hstart := start_onNotes
  have hdecoded : decoded typed = ["bogus\n", "select 0 3\n", "quit\n", "select 1"].map some := by
    decide +kernel
  have hheeded : heeded ["bogus\n", "select 0 3\n", "quit\n", "select 1"] =
      ["bogus\n", "select 0 3\n"] := by decide +kernel
  have hasked : (allRequests ["bogus\n", "select 0 3\n"] atNotes).length = 1 := by decide +kernel
  obtain ⟨c, hunknown⟩ : ∃ c, Instruction.ofLine "bogus\n" = .error c := by
    have hfails : (Instruction.ofLine "bogus\n").toOption.isSome = false := by decide +kernel
    cases hread : Instruction.ofLine "bogus\n" with
    | error c => exact ⟨c, rfl⟩
    | ok i => simp [hread, Except.toOption] at hfails
  generalize atNotes = w at hstart hasked ⊢
  intro followed final
  obtain ⟨hlines, hrun, -, -, hdestroyed, -, s, -, hsubmitted, -⟩ :=
    every_script_survived hstart hdecoded
  rw [hheeded] at hlines hrun hdestroyed hsubmitted
  dsimp only [final, followed]
  refine ⟨?_, congrArg Prod.snd hrun, hdestroyed, ?_⟩
  · have hrefused := (hlines [] "bogus\n" ["select 0 3\n"] rfl).refused c
    rw [hunknown] at hrefused ⊢
    exact ⟨c, hrefused (complains_followLine c w)⟩
  · have hlength := congrArg List.length hsubmitted
    simpa [hasked, leavingBatches] using hlength

end Coedit.CommandLine
