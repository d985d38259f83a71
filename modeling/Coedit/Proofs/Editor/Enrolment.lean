import Coedit.Proofs.Editor.LocalMember
import Coedit.Proofs.Workspace.Dates

/-!
# The local member's record at every moment

In every run the editor and the engine agree about the local member, at every moment between two
steps of a delivery as well as between two commands. So whenever the editor is editing and the
queue is empty, the member's record is what the editor knows of its member.
-/

namespace Coedit

namespace Workspace

section Execution

variable {m : MemberId} {w w' : Workspace}

/-! ## Between two commands -/

theorem Returned.harmless (h : Returned m [] w) (hw : Harmless m w w') : Returned m [] w' := by
  refine ⟨h.1.harmless hw, fun e he => h.2 e ?_⟩
  rw [← hw.editor]
  exact he

theorem Orderly.apart (h : Orderly w) (hw : Apart w w') : Orderly w' := by
  refine ⟨fun e he => h.ready e ?_, hw.numbered h.numbered⟩
  rw [← hw.editor]
  exact he

/-- A command that is given from outside leaves no editor loading. -/
theorem returned_execute (h : Returned m [] w) (horderly : Orderly w) {c : Command}
    (hc : c.sparesRecord m = true) : Returned m [] (w.execute c).2 := by
  have hagreed : Agreed m [] (w.execute c).2 := agrees_conduct m [] c w hc horderly h.1
  have htended : Tended w.holds w.editor (w.execute c).2 :=
    tends_conduct w.holds w.editor c w ⟨horderly, rfl, fun _ => rfl⟩
  refine ⟨hagreed, fun e he hloading => ?_⟩
  have hheld := (hagreed.editor e he).held hloading
  rw [htended.under] at hheld
  exact h.2 e ((htended.editor hheld).symm.trans he) hloading

theorem returned_of_empty (hrefusals : w.refusals = {}) (hsessions : w.sessions = ∅)
    (hobservers : w.observers = ∅) (heditor : w.editor = none) : Returned m [] w := by
  refine ⟨⟨by rw [hrefusals], ?_, nofun, ?_, ?_⟩, ?_⟩
  · intro id s hs
    rw [hsessions] at hs
    cases hs
  · intro id o ho
    rw [hobservers] at ho
    cases ho
  · intro e he
    rw [heditor] at he
    cases he
  · intro e he
    rw [heditor] at he
    cases he

/-- What the agreement comes to when nothing is queued. -/
theorem Agreed.record_of_drained (h : Agreed m [] w) {e : Editor} (he : w.editor = some e)
    (hstate : e.state = .editing) (hpending : w.engine.pending = []) :
    w.engine.replica.members.get? m = some (.ofProperties m e.user) := by
  have hrecord := ((h.editor e he).record (.inl hstate)).record
  unfold drained at hrecord
  rw [hpending] at hrecord
  exact hrecord

end Execution

end Workspace

/-! ## Between two steps -/

namespace Agenda

open Workspace (Returned Agreed)

variable {m : MemberId} {reply : Reply} {w : Workspace}

structure Permitted (m : MemberId) (task : Task) : Prop where
  ne_shut : task ≠ .shut
  command : ∀ c, task = .perform c → c.sparesRecord m = true

/-- At this moment the editor agrees with the engine, and whatever is left to do leaves it so. -/
structure Agreeing (m : MemberId) (a : Agenda) : Prop where
  tasks : ∀ task ∈ a.tasks, Permitted m task
  returned : Returned m [] a.workspace
  orderly : Workspace.Orderly a.workspace

theorem permitted_of_minor {task : Task} (h : task.isMinor = true)
    (hcommand : ∀ c, task = .perform c → c.sparesRecord m = true) : Permitted m task :=
  ⟨fun hshut => (by rw [hshut] at h; cases h), hcommand⟩

theorem permitted_of_dull {task : Task} (hshut : task ≠ .shut) (hcommand : ∀ c, task ≠ .perform c) :
    Permitted m task := ⟨hshut, fun c hc => absurd hc (hcommand c)⟩

/-- Taking events to those who hear them brings no command but those of observers. -/
theorem permitted_begin {task : Task} (h : task.delivers = true)
    (hgives : ObserversGive (fun c => c.sparesRecord m = true) w) {part : Task}
    (hpart : part ∈ (begin reply w task).tasks) : Permitted m part := by
  have hwithin : Within (fun c => c.sparesRecord m = true) (begin reply w task) :=
    within_begin hgives fun c hc => by
      subst hc
      cases h
  have hminor (hpart' : part.isMinor = true) : Permitted m part :=
    permitted_of_minor hpart' fun c hc => hwithin.commands c (hc ▸ hpart)
  cases task with
  | perform | drain | shut => cases h
  | publish event =>
      obtain ⟨listener, -, rfl⟩ := List.mem_map.1 hpart
      exact permitted_of_dull (by simp) (by simp)
  | hear event listener => exact hminor (minor_hear hpart)
  | react id reaction => exact hminor (minor_react hpart)
  | tell event observer => exact hminor (minor_tell hpart)
  | report editor event => exact hminor (minor_report hpart)
  | note | answer | settle | reporting | informed | holding => cases hpart

theorem permitted_followUp {rest : List Task} (hrest : ∀ task ∈ rest, Permitted m task) :
    ∀ task ∈ followUp w ++ rest, Permitted m task := by
  intro task htask
  rcases List.mem_append.1 htask with hfollow | hlater
  · unfold followUp at hfollow
    split at hfollow
    · rw [List.mem_singleton.1 hfollow]
      exact permitted_of_dull (by simp) (by simp)
    · cases hfollow
  · exact hrest task hlater

theorem permitted_answer (answer : Reply) : Permitted m (.answer answer) :=
  permitted_of_dull (by simp) (by simp)

theorem Agreeing.of_done {a : Agenda} (htasks : a.tasks = []) (hreturned : Returned m [] a.workspace)
    (horderly : Workspace.Orderly a.workspace) : Agreeing m a :=
  ⟨by rw [htasks]; exact fun _ h => (List.not_mem_nil h).elim, hreturned, horderly⟩

theorem agreeing_edit (hreturned : Returned m [] w) (horderly : Workspace.Orderly w) {e : Edit}
    (he : ∀ properties, e ≠ .updateMember properties) : Agreeing m (edit reply w e) := by
  unfold edit
  split
  · rename_i place id _
    split
    · let held : Workspace := { w with holds := (place, .shared) :: w.holds }
      have hheld : Returned m [] held :=
        ⟨hreturned.1.holding fun e he hloading => absurd hloading (hreturned.2 e he), hreturned.2⟩
      have hharmless := Workspace.harmless_queueEdit (m := m) he id held
      have hqueued := hheld.harmless hharmless
      have hheldOrderly : Workspace.Orderly held := horderly.congr rfl rfl
      have horderly' : Workspace.Orderly (held.queueEdit id e).2 :=
        hheldOrderly.apart hharmless.toApart
      cases hr : held.queueEdit id e with
      | mk answer w' =>
          rw [hr] at hqueued horderly'
          cases answer with
          | error cause =>
              exact .of_done rfl ⟨hqueued.1.holding fun e he hloading =>
                absurd hloading (hqueued.2 e he), hqueued.2⟩ (horderly'.congr rfl rfl)
          | ok made =>
              obtain ⟨answer, queued⟩ := made
              have hlast : ∀ task ∈ [Task.answer (.edited answer), Task.holding w.holds],
                  Permitted m task := by
                intro task htask
                rcases List.mem_cons.1 htask with rfl | hholding
                · exact permitted_answer _
                · rw [List.mem_singleton.1 hholding]
                  exact permitted_of_dull (by simp) (by simp)
              refine ⟨?_, hqueued, horderly'⟩
              cases queued with
              | false => exact hlast
              | true => exact permitted_followUp hlast
    · exact .of_done rfl hreturned horderly
  · split <;> exact .of_done rfl hreturned horderly
  · exact .of_done rfl hreturned horderly

theorem agreeing_perform (hreturned : Returned m [] w) (horderly : Workspace.Orderly w) {c : Command}
    (hc : c.sparesRecord m = true) : Agreeing m (perform reply w c) := by
  have hdone : Agreeing m ⟨[], (w.execute c).1, (w.execute c).2⟩ :=
    .of_done rfl (Workspace.returned_execute hreturned horderly hc)
      (Workspace.orderly_execute horderly c)
  cases c with
  | engine c =>
      cases c with
      | enqueue batch =>
          simp only [perform, enqueue]
          split
          · exact .of_done rfl hreturned horderly
          · rename_i w' htake
            obtain ⟨-, rfl⟩ := engine_take htake
            have hqueued := Workspace.harmless_queued (m := m) hc w
            refine ⟨permitted_followUp fun task htask => ?_, hreturned.harmless hqueued,
              horderly.apart hqueued.toApart⟩
            rw [List.mem_singleton.1 htask]
            exact permitted_answer _
      | flush =>
          refine ⟨fun task htask => ?_, hreturned, horderly⟩
          rcases List.mem_cons.1 htask with rfl | hanswer
          · exact permitted_of_dull (by simp) (by simp)
          · rw [List.mem_singleton.1 hanswer]
            exact permitted_answer _
      | close => cases hc
      | _ => exact hdone
  | session c =>
      cases c with
      | edit e =>
          refine agreeing_edit hreturned horderly ?_
          rintro properties rfl
          cases hc
      | _ => exact hdone
  | _ => exact hdone

theorem agreeing_begin (hreturned : Returned m [] w) (horderly : Workspace.Orderly w) {task : Task}
    (htask : Permitted m task) : Agreeing m (begin reply w task) := by
  by_cases hdelivers : task.delivers = true
  · have hstirred : Returned m [] (begin reply w task).workspace ∧
        Workspace.Orderly (begin reply w task).workspace := by
      refine stirred_begin (P := fun w => Returned m [] w ∧ Workspace.Orderly w) (fun hw hstir => ?_)
        (fun holds hw => ?_) hdelivers ⟨hreturned, horderly⟩ reply
      · exact ⟨hw.1.harmless hstir.harmless, hw.2.apart hstir.passing.apart⟩
      · exact ⟨⟨hw.1.1.holding fun e he hloading => absurd hloading (hw.1.2 e he), hw.1.2⟩,
          hw.2.congr rfl rfl⟩
    exact ⟨fun _ => permitted_begin hdelivers hreturned.1.gives, hstirred.1, hstirred.2⟩
  · cases task with
    | perform c => exact agreeing_perform hreturned horderly (htask.command c rfl)
    | drain =>
        simp only [begin, drain]
        split
        · exact .of_done rfl hreturned horderly
        · rename_i events engine hnext
          have happlied := Workspace.Stir.applied hnext
          refine ⟨fun part hpart => ?_, hreturned.harmless happlied.harmless,
            horderly.apart happlied.passing.apart⟩
          rcases List.mem_append.1 hpart with hpublish | hlast
          · obtain ⟨event, -, rfl⟩ := List.mem_map.1 hpublish
            exact permitted_of_dull (by simp) (by simp)
          · rw [List.mem_singleton.1 hlast]
            exact permitted_of_dull (by simp) (by simp)
    | shut => exact absurd rfl htask.ne_shut
    | _ => exact absurd rfl hdelivers

theorem agreeing_next {a : Agenda} (h : Agreeing m a) : Agreeing m a.next := by
  unfold next
  cases ht : a.tasks with
  | nil => exact h
  | cons task rest =>
      have hrest := h.tasks
      rw [ht] at hrest
      have hfirst : Agreeing m (begin a.reply a.workspace task) :=
        agreeing_begin h.returned h.orderly (hrest task List.mem_cons_self)
      refine ⟨fun part hpart => ?_, hfirst.returned, hfirst.orderly⟩
      rcases List.mem_append.1 hpart with hnew | hold
      · exact hfirst.tasks part hnew
      · exact hrest part (List.mem_cons_of_mem _ hold)

theorem agreeing_after {a : Agenda} (h : Agreeing m a) (n : Nat) : Agreeing m (a.after n) := by
  induction n generalizing a with
  | zero => exact h
  | succ n ih => exact ih (agreeing_next h)

theorem agreeing_start {commands : List Command}
    (hcommands : ∀ c ∈ commands, c.sparesRecord m = true) (hreturned : Returned m [] w)
    (horderly : Workspace.Orderly w) : Agreeing m (start commands w) := by
  refine ⟨fun task htask => ?_, hreturned, horderly⟩
  obtain ⟨c, hc, rfl⟩ := List.mem_map.1 htask
  refine ⟨by simp, fun c' hc' => ?_⟩
  obtain rfl := Task.perform.inj hc'
  exact hcommands c hc

end Agenda

namespace Workspace

/-- From an empty workspace on, whatever is done to the editor and its session, and whatever the
observers do: whenever the editor is editing and the queue is empty, the engine has a record of the
local member, which is what the editor says about the member, and nothing in it is empty. This is so
between two commands, and at every moment while commands are carried out. -/
theorem local_member_presented (m : MemberId) (files : FileTree) {commands : List Command}
    (hcommands : ∀ c ∈ commands, c.sparesRecord m = true) (w : Workspace)
    (hw : w = commands.foldl (fun w c => (w.execute c).2) { files := files } ∨
      ∃ n, w = ((Agenda.start commands { files := files }).after n).workspace)
    (e : Editor) (he : w.editor = some e) (hstate : e.state = .editing)
    (hpending : w.engine.pending = []) :
    e.member = m ∧ ∃ record, w.engine.replica.members.get? m = some record ∧ record.id = m ∧
      record.displayName = e.user.displayName ∧ record.color = e.user.color ∧
      record.imageRef = e.user.imageRef ∧
      record.displayName ≠ "" ∧ record.color ≠ "" ∧ record.imageRef ≠ "" := by
  have hempty : Returned m [] { files := files } := returned_of_empty rfl rfl rfl rfl
  have horderly : Orderly { files := files } :=
    ⟨fun _ he => (by cases he), fun _ hs => (List.not_mem_nil hs).elim⟩
  have hreturned : Returned m [] w := by
    rcases hw with rfl | ⟨n, rfl⟩
    · have hrun := List.foldlRecOn (motive := fun w => Returned m [] w ∧ Orderly w) commands
        (fun w c => (w.execute c).2) ⟨hempty, horderly⟩ fun w hw c hc =>
          ⟨returned_execute hw.1 hw.2 (hcommands c hc), orderly_execute hw.2 c⟩
      exact hrun.1
    · exact (Agenda.agreeing_after (Agenda.agreeing_start hcommands hempty horderly) n).returned
  have hpresents := hreturned.1.editor e he
  have hrecord := hreturned.1.record_of_drained he hstate hpending
  exact ⟨hpresents.member, .ofProperties m e.user, hrecord, rfl, rfl, rfl, rfl,
    hpresents.filled.displayName, hpresents.filled.color, hpresents.filled.imageRef⟩

/-- A document is visited twice, by a member with few details, who changes them before, while and
between. Whoever comes as well is watched by somebody who flushes the queue. -/
def namings : List Command :=
  [.newEditor { member := ⟨"m"⟩, user := { displayName := "", color := "red" } },
    .engine (.register "doc" {}),
    .editor (.setUser { displayName := "Ada", color := "", imageRef := "" }),
    .editor (.open "doc"),
    .watchEngine .memberAdded "watcher" [.engine .flush] 2,
    .engine (.enqueue [.addMember ⟨"n"⟩ {}, .removeMember ⟨"n"⟩]),
    .editor (.setUser { displayName := "Ada L." }),
    .editor .close,
    .editor (.setUser { displayName := "Ada", color := "blue", imageRef := "" }),
    .editor (.open "doc"),
    .editor (.setUser { displayName := "", color := "blue" }),
    .engine .flush]

theorem local_member_presented_after_namings :
    let w := namings.foldl (fun (w : Workspace) c => (w.execute c).2) {}
    ∃ record, w.engine.replica.members.get? ⟨"m"⟩ = some record ∧
      record.displayName = "Unknown Author" ∧ record.color = "blue" ∧ record.imageRef ≠ "" := by
  intro w
  have hcommands : ∀ c ∈ namings, c.sparesRecord ⟨"m"⟩ = true := by decide
  have heditor : w.editor.map (fun e => (e.state, e.user.displayName, e.user.color)) =
      some (.editing, "Unknown Author", "blue") := by decide +kernel
  have hpending : w.engine.pending = [] := by decide +kernel
  obtain ⟨e, he, hdetails⟩ := Option.map_eq_some_iff.1 heditor
  obtain ⟨hstate, hname, hcolor⟩ : e.state = .editing ∧ e.user.displayName = "Unknown Author" ∧
      e.user.color = "blue" := by simpa using hdetails
  obtain ⟨-, record, hrecord, -, hsameName, hsameColor, -, -, -, himage⟩ :=
    local_member_presented ⟨"m"⟩ {} hcommands w (.inl rfl) e he hstate hpending
  exact ⟨record, hrecord, hsameName.trans hname, hsameColor.trans hcolor, himage⟩

end Workspace

end Coedit
