import Coedit.FileTree
import Mathlib.Data.List.Basic

/-!
# Files that were written

Where every entry lies in a directory, a file that was written can be read: the directories that
were made on the way lead to it by the same path. What was a directory before is one afterwards. A
file that can be read can be written again.
-/

namespace Coedit.FileTree

variable {t t' : FileTree} {here l : Location} {name path : String} {names : List String}

/-! ## Entries -/

@[simp] theorem entry?_root (t : FileTree) : t.entry? [] = some .directory := rfl

theorem entry?_set (t : FileTree) (h : l ≠ []) (e : FileEntry) : entry? (t.set l e) l = some e := by
  simp [set, entry?, h]

theorem lookup_filter_ne {entries : List (Location × FileEntry)} {l' : Location} (h : l' ≠ l) :
    (entries.filter fun x => x.1 != l).lookup l' = entries.lookup l' := by
  induction entries with
  | nil => rfl
  | cons x entries ih =>
      by_cases hx : x.1 = l
      · have hne : (l' == x.1) = false := by simpa [hx] using h
        rw [List.filter_cons_of_neg (by simp [hx]), ih, List.lookup_cons, hne]
      · rw [List.filter_cons_of_pos (by simp [hx]), List.lookup_cons, List.lookup_cons, ih]

theorem entry?_set_ne (t : FileTree) {l' : Location} (h : l' ≠ l) (e : FileEntry) :
    entry? (t.set l e) l' = t.entry? l' := by
  have hne : (l' == l) = false := by simpa using h
  simp [set, entry?, List.lookup_cons, hne, lookup_filter_ne h]

/-- Every entry lies in a directory, and work starts in one. -/
structure Rooted (t : FileTree) : Prop where
  parent {l : Location} {e : FileEntry} (h : t.entry? l = some e) :
    t.entry? l.dropLast = some .directory
  working : t.entry? t.workingDirectory = some .directory

theorem entry?_empty (h : l ≠ []) : FileTree.entry? {} l = none := by
  simp [FileTree.entry?, h]

theorem rooted_empty : ({} : FileTree).Rooted where
  parent {l e} h := by
    by_cases hl : l = []
    · rw [hl]
      rfl
    · rw [entry?_empty hl] at h
      cases h
  working := rfl

structure Keeps (t t' : FileTree) : Prop where
  directory {l : Location} (h : t.entry? l = some .directory) : t'.entry? l = some .directory
  working : t'.workingDirectory = t.workingDirectory

theorem Keeps.refl (t : FileTree) : t.Keeps t := ⟨id, rfl⟩

theorem Keeps.trans {u : FileTree} (h : t.Keeps t') (h' : t'.Keeps u) : t.Keeps u :=
  ⟨fun hl => h'.directory (h.directory hl), h'.working.trans h.working⟩

theorem keeps_set (h : t.entry? l ≠ some .directory) (e : FileEntry) : t.Keeps (t.set l e) where
  directory {l'} hl' := by
    have hne : l' ≠ l := fun heq => h (heq ▸ hl')
    rw [entry?_set_ne t hne, hl']
  working := rfl

/-- A new entry in a directory, or another one in the place of a file, leaves all in order. -/
theorem Rooted.set (h : t.Rooted) (hhere : t.entry? here = some .directory)
    (hname : t.entry? (here ++ [name]) ≠ some .directory) (e : FileEntry) :
    (t.set (here ++ [name]) e).Rooted := by
  have hkeeps := keeps_set hname e
  refine ⟨fun {l e'} hl => hkeeps.directory ?_, hkeeps.directory h.working⟩
  by_cases hl' : l = here ++ [name]
  · rw [hl', List.dropLast_concat]
    exact hhere
  · rw [entry?_set_ne t hl'] at hl
    exact h.parent hl

theorem start_directory (h : t.Rooted) (path : String) :
    t.entry? (t.start path) = some .directory := by
  unfold start
  split_ifs
  · rfl
  · exact h.working

theorem Keeps.start (h : t.Keeps t') (path : String) : t'.start path = t.start path := by
  rw [FileTree.start, FileTree.start, h.working]

/-! ## Steps and walks -/

structure Ordinary (name : String) : Prop where
  notHere : ¬(name = "" ∨ name = ".")
  notParent : name ≠ ".."
  short : name.utf8ByteSize ≤ 255

theorem step_ordinary (h : Ordinary name) (hhere : t.entry? here = some .directory) :
    t.step here name =
      if (t.entry? (here ++ [name])).isSome then .ok (here ++ [name]) else .error .notFound := by
  have hnotHere := h.notHere
  have hshort : ¬ 255 < name.utf8ByteSize := by have := h.short; omega
  simp [step, hhere, hnotHere, h.notParent, hshort]

/-- Where a step leads: nowhere, to the parent, or to an entry of the directory. -/
theorem step_cases {next : Location} (h : t.step here name = .ok next) :
    t.entry? here = some .directory ∧ (next = here ∨ next = here.dropLast ∨
      Ordinary name ∧ next = here ++ [name] ∧ (t.entry? next).isSome = true) := by
  unfold step at h
  split at h
  · cases h
  · cases h
  · cases h
  · rename_i hhere
    refine ⟨hhere, ?_⟩
    split_ifs at h with hnotHere hparent hlong hentry
    · exact Or.inl (Except.ok.inj h).symm
    · exact Or.inr (Or.inl (Except.ok.inj h).symm)
    · cases h
      exact Or.inr (Or.inr ⟨⟨by simpa using hnotHere, hparent, by omega⟩, rfl, hentry⟩)

theorem exists_entry_of_step (hrooted : t.Rooted) {next : Location}
    (h : t.step here name = .ok next) : ∃ e, t.entry? next = some e := by
  obtain ⟨hhere, rfl | rfl | ⟨-, -, hnext⟩⟩ := step_cases h
  · exact ⟨_, hhere⟩
  · exact ⟨_, hrooted.parent hhere⟩
  · exact Option.isSome_iff_exists.1 hnext

theorem step_notFound (hhere : t.entry? here = some .directory)
    (h : t.step here name = .error .notFound) :
    Ordinary name ∧ t.entry? (here ++ [name]) = none := by
  simp only [step, hhere] at h
  split_ifs at h with hnotHere hparent hlong hentry
  · cases h
  · exact ⟨⟨by simpa using hnotHere, hparent, by omega⟩, by simpa using hentry⟩

theorem Keeps.step (h : t.Keeps t') {next : Location} (hstep : t.step here name = .ok next)
    (hnext : t.entry? next = some .directory) : t'.step here name = .ok next := by
  have hhere := (step_cases hstep).1
  have hthere := h.directory hnext
  simp only [FileTree.step, hhere] at hstep
  simp only [FileTree.step, h.directory hhere]
  by_cases hnotHere : (name = "" || name = ".") = true
  · rwa [if_pos hnotHere] at hstep ⊢
  by_cases hparent : name = ".."
  · rwa [if_neg hnotHere, if_pos hparent] at hstep ⊢
  rw [if_neg hnotHere, if_neg hparent] at hstep ⊢
  split_ifs at hstep with hlong hentry
  cases hstep
  rw [if_neg hlong, hthere]
  rfl

theorem walk_append (t : FileTree) (here : Location) (names names' : List String) :
    t.walk here (names ++ names') =
      match t.walk here names with
      | .ok l => t.walk l names'
      | .error e => .error e := by
  induction names generalizing here with
  | nil => rfl
  | cons name names ih =>
      simp only [List.cons_append, walk]
      cases t.step here name with
      | ok next => exact ih next
      | error e => rfl

/-- A walk that ends in a directory passes directories only. -/
theorem directory_of_walk {names : List String} (h : t.walk here names = .ok l)
    (hl : t.entry? l = some .directory) : t.entry? here = some .directory := by
  cases names with
  | nil =>
      cases h
      exact hl
  | cons name names =>
      unfold walk at h
      cases hstep : t.step here name with
      | ok next => exact (step_cases hstep).1
      | error e => simp [hstep] at h

theorem Keeps.walk (h : t.Keeps t') {names : List String} (hwalk : t.walk here names = .ok l)
    (hl : t.entry? l = some .directory) : t'.walk here names = .ok l := by
  induction names generalizing here with
  | nil => exact hwalk
  | cons name names ih =>
      unfold FileTree.walk at hwalk ⊢
      cases hstep : t.step here name with
      | ok next =>
          simp only [hstep] at hwalk
          simp only [h.step hstep (directory_of_walk hwalk hl), ih hwalk]
      | error e => simp [hstep] at hwalk

/-! ## Making directories -/

/-- What lies on the way is a directory, or the way cannot be made. -/
theorem directory_of_makeDirectories {names : List String} {e : FileEntry}
    {made : FileTree × Location} (he : t.entry? here = some e)
    (h : t.makeDirectories here names = .ok made) :
    e = .directory := by
  cases names with
  | nil =>
      cases e <;> simp_all [makeDirectories]
  | cons name names =>
      cases e <;> simp_all [makeDirectories, step]

structure Made (t : FileTree) (here : Location) (names : List String) (made : FileTree × Location) :
    Prop where
  keeps : t.Keeps made.1
  rooted : made.1.Rooted
  directory : entry? made.1 made.2 = some .directory
  walk : made.1.walk here names = .ok made.2

theorem made_makeDirectories (hrooted : t.Rooted) (hhere : t.entry? here = some .directory)
    {names : List String} {made : FileTree × Location}
    (h : t.makeDirectories here names = .ok made) : Made t here names made := by
  induction names generalizing t here with
  | nil =>
      simp only [makeDirectories, hhere] at h
      cases h
      exact ⟨Keeps.refl t, hrooted, hhere, rfl⟩
  | cons name names ih =>
      rw [makeDirectories] at h
      cases hstep : t.step here name with
      | ok next =>
          simp only [hstep] at h
          have hnext : t.entry? next = some .directory := by
            obtain ⟨e, he⟩ := exists_entry_of_step hrooted hstep
            rw [he, directory_of_makeDirectories he h]
          obtain ⟨hkeeps, hrooted', hdirectory, hwalk⟩ := ih hrooted hnext h
          refine ⟨hkeeps, hrooted', hdirectory, ?_⟩
          simp only [FileTree.walk, hkeeps.step hstep hnext, hwalk]
      | error e =>
          cases e with
          | notFound =>
              simp only [hstep] at h
              obtain ⟨hordinary, hnone⟩ := step_notFound hhere hstep
              have hnew : t.entry? (here ++ [name]) ≠ some .directory := by simp [hnone]
              have hset := keeps_set hnew .directory
              obtain ⟨hkeeps, hrooted', hdirectory, hwalk⟩ :=
                ih (hrooted.set hhere hnew .directory) (entry?_set t (by simp) .directory) h
              refine ⟨hset.trans hkeeps, hrooted', hdirectory, ?_⟩
              have hthere := hkeeps.directory (entry?_set t (by simp) .directory)
              simp only [FileTree.walk,
                step_ordinary hordinary ((hset.trans hkeeps).directory hhere), hthere,
                Option.isSome_some, if_true, hwalk]
          | _ => simp [hstep] at h

/-- Where a way can be gone, nothing has to be made. -/
theorem makeDirectories_of_walk {names : List String} (h : t.walk here names = .ok l)
    (hl : t.entry? l = some .directory) : t.makeDirectories here names = .ok (t, l) := by
  induction names generalizing here with
  | nil =>
      cases h
      simp [makeDirectories, hl]
  | cons name names ih =>
      unfold walk at h
      cases hstep : t.step here name with
      | ok next =>
          simp only [hstep] at h
          simp only [makeDirectories, hstep, ih h]
      | error e => simp [hstep] at h

/-! ## Files -/

/-- Where a path leads: through the names before the last one, and by the last one. -/
theorem resolve_eq (hnames : components path = names ++ [name]) (hcheck : checkPath path = .ok ())
    (hwalk : t.walk (t.start path) names = .ok here) : t.resolve path = t.step here name := by
  simp only [resolve, hcheck, hnames, walk_append, hwalk, walk]
  cases t.step here name <;> rfl

/-- Where a file is put: behind directories that are there or were made, under its own name. -/
theorem write_cases {bytes : List UInt8} (h : t.write path bytes = .ok t') :
    ∃ names name u here, components path = names ++ [name] ∧ checkPath path = .ok () ∧
      Ordinary name ∧ t.makeDirectories (t.start path) names = .ok (u, here) ∧
      u.entry? (here ++ [name]) ≠ some .directory ∧
      t' = u.set (here ++ [name]) (.file bytes) := by
  unfold write at h
  cases hcheck : checkPath path with
  | error e => simp [hcheck] at h
  | ok _ =>
      cases hmake : t.makeDirectories (t.start path) (components path).dropLast with
      | error e => simp [hcheck, hmake] at h
      | ok made =>
          obtain ⟨u, here⟩ := made
          simp only [hcheck, hmake] at h
          split_ifs at h with hmark hlong
          rcases List.eq_nil_or_concat (components path) with hnil | ⟨names, name, hnames⟩
          · simp [hnil] at hmark
          · rw [List.concat_eq_append] at hnames
            rw [hnames, List.dropLast_concat] at hmake
            rw [hnames, List.getLastD_concat] at h hmark hlong
            have hname : Ordinary name := by
              simp only [Bool.or_eq_true, decide_eq_true_eq, not_or] at hmark
              exact ⟨by simpa using hmark.1, hmark.2, by omega⟩
            refine ⟨names, name, u, here, hnames, rfl, hname, hmake, ?_⟩
            split at h
            · cases h
            · rename_i hfree
              exact ⟨hfree, (Except.ok.inj h).symm⟩

theorem write_of_makeDirectories {u : FileTree} (hnames : components path = names ++ [name])
    (hcheck : checkPath path = .ok ()) (hname : Ordinary name)
    (hmake : t.makeDirectories (t.start path) names = .ok (u, here))
    (hfree : u.entry? (here ++ [name]) ≠ some .directory) (bytes : List UInt8) :
    t.write path bytes = .ok (u.set (here ++ [name]) (.file bytes)) := by
  have hmark : ¬ (name = "" || name = "." || name = "..") = true := by
    simpa [hname.notParent] using hname.notHere
  have hlong : ¬ 255 < name.utf8ByteSize := by have := hname.short; omega
  simp only [write, hcheck, hnames, List.dropLast_concat, List.getLastD_concat, hmake]
  rw [if_neg hmark, if_neg hlong]

/-- A file that was written can be read, and the tree is in order as before. -/
theorem bytes_of_write (hrooted : t.Rooted) {bytes : List UInt8}
    (h : t.write path bytes = .ok t') : t'.bytes path = .ok bytes ∧ t'.Rooted := by
  obtain ⟨names, name, u, here, hnames, hcheck, hname, hmake, hfree, rfl⟩ := write_cases h
  have hmade := made_makeDirectories hrooted (start_directory hrooted path) hmake
  have hkeeps := keeps_set hfree (.file bytes)
  have hentry := entry?_set u (l := here ++ [name]) (by simp) (.file bytes)
  have hwalk := hkeeps.walk hmade.walk hmade.directory
  have hresolve : (u.set (here ++ [name]) (.file bytes)).resolve path = .ok (here ++ [name]) := by
    rw [← (hmade.keeps.trans hkeeps).start path] at hwalk
    rw [resolve_eq hnames hcheck hwalk,
      step_ordinary hname (hkeeps.directory hmade.directory), hentry]
    rfl
  refine ⟨?_, hmade.rooted.set hmade.directory hfree (.file bytes)⟩
  simp [FileTree.bytes, hresolve, hentry]

theorem bytes_cases {bytes : List UInt8} (h : t.bytes path = .ok bytes) :
    ∃ l, t.resolve path = .ok l ∧ t.entry? l = some (.file bytes) := by
  unfold FileTree.bytes at h
  cases hresolve : t.resolve path with
  | error e => simp [hresolve] at h
  | ok l =>
      simp only [hresolve] at h
      split at h
      · rename_i hl
        cases h
        exact ⟨l, rfl, hl⟩
      all_goals cases h

/-- A file that can be read can be written. -/
theorem write_of_bytes (hrooted : t.Rooted) {old : List UInt8} (h : t.bytes path = .ok old)
    (bytes : List UInt8) : ∃ t', t.write path bytes = .ok t' := by
  obtain ⟨l, hresolve, hl⟩ := bytes_cases h
  unfold resolve at hresolve
  cases hcheck : checkPath path with
  | error e => simp [hcheck] at hresolve
  | ok _ =>
      simp only [hcheck] at hresolve
      rcases List.eq_nil_or_concat (components path) with hnil | ⟨names, name, hnames⟩
      · rw [hnil, walk, Except.ok.injEq] at hresolve
        simp [← hresolve, start_directory hrooted path] at hl
      · rw [List.concat_eq_append] at hnames
        rw [hnames, walk_append] at hresolve
        cases hwalk : t.walk (t.start path) names with
        | error e => simp [hwalk] at hresolve
        | ok here =>
            simp only [hwalk, walk] at hresolve
            cases hstep : t.step here name with
            | error e => simp [hstep] at hresolve
            | ok next =>
                obtain rfl : next = l := by simpa [hstep] using hresolve
                obtain ⟨hhere, rfl | rfl | ⟨hname, rfl, -⟩⟩ := step_cases hstep
                · simp [hhere] at hl
                · simp [hrooted.parent hhere] at hl
                · exact ⟨_, write_of_makeDirectories hnames hcheck hname
                    (makeDirectories_of_walk hwalk hhere) (by simp [hl]) bytes⟩

theorem bytes_of_text {text : String} (h : t.text path = .ok text) :
    ∃ bytes, t.bytes path = .ok bytes := by
  unfold FileTree.text at h
  cases hbytes : t.bytes path with
  | error e => simp [hbytes] at h
  | ok bytes => exact ⟨bytes, rfl⟩

/-- A text that was written is read back. -/
theorem text_of_write (hrooted : t.Rooted) {text : String}
    (h : t.write path text.toUTF8.data.toList = .ok t') : t'.text path = .ok text := by
  have hutf8 : String.fromUTF8? ⟨text.toUTF8.data.toList.toArray⟩ = some text :=
    dif_pos text.isValidUTF8
  unfold FileTree.text
  simp only [(bytes_of_write hrooted h).1, hutf8]

end Coedit.FileTree
