import Coedit.Config.Storage
import Coedit.Proofs.Config.Text
import Coedit.Proofs.FileTree

/-!
# Saving what was loaded

Loading expands the path of the stylesheet and fills in the user; saving writes what it is given. A
configuration that was loaded and saved is loaded again as it was, except that its path is expanded
once more. That changes nothing where a path is plain or names a variable that is not set; but a
dollar sign that was doubled in the file is a single one after loading, and is then saved as such.
-/

namespace Coedit

/-! ## Paths in which nothing is expanded -/

/-- A path without variables, and without a tilde that stands for the home directory. -/
structure IsPlainPath (path : String) : Prop where
  noVariable : '$' ∉ path.toList
  noTilde : path.toList ≠ ['~']
  noHome (rest : List Char) : path.toList ≠ '~' :: '/' :: rest

theorem PathPiece.ofChars_cons {c : Char} (h : c ≠ '$') (rest : List Char) :
    ofChars (c :: rest) = .literal c.toString :: ofChars rest := by
  rw [ofChars]
  all_goals simp [h]

theorem PathPiece.fill_ofChars {s : List Char} (h : '$' ∉ s) (env : Environment) :
    fill env (ofChars s) = some (String.ofList s) := by
  induction s with
  | nil =>
      rw [ofChars]
      rfl
  | cons c s ih =>
      obtain ⟨hc, hs⟩ := not_or.1 (mt List.mem_cons.2 h)
      obtain ⟨texts, htexts, hjoin⟩ := Option.map_eq_some_iff.1 (ih hs)
      have hrest : String.join (c.toString :: texts) = String.ofList (c :: s) := by
        rw [String.join_cons, hjoin, String.ofList_cons]
        rfl
      rw [ofChars_cons (Ne.symm hc), fill, List.mapM_cons, htexts]
      exact congrArg some hrest

theorem expandTilde_plain {path : String} (h : IsPlainPath path) (home : String) :
    expandTilde home path = path := by
  unfold expandTilde
  split
  · exact absurd ‹_› h.noTilde
  · exact absurd ‹_› (h.noHome _)
  · rfl

theorem expandPath_plain {path : String} (h : IsPlainPath path) (env : Environment)
    (home : String) : expandPath env home path = path := by
  have hfill : PathPiece.fill env (PathPiece.ofPath path) = some path := by
    rw [PathPiece.ofPath, PathPiece.fill_ofChars h.noVariable, String.ofList_toList]
  simp [expandPath, hfill, expandTilde_plain h]

/-- A path with a variable that has no value stays as it is. -/
theorem expandPath_unset {env : Environment} {path : String}
    (h : PathPiece.fill env (PathPiece.ofPath path) = none) (home : String) :
    expandPath env home path = path := by
  simp [expandPath, h]

theorem MemberProperties.withDefaults_idem (p : MemberProperties) :
    p.withDefaults.withDefaults = p.withDefaults := by
  simp only [withDefaults]
  split_ifs <;> simp_all

namespace Config

variable {files files' : FileTree} {env : Environment} {home path target : String} {c : Config}

/-! ## Loading and saving -/

/-- A configuration that was saved is loaded with its path expanded and its user complete. -/
theorem load_of_save (hrooted : files.Rooted) (h : save files target c = .ok files')
    (env : Environment) (home : String) :
    load files' env home target = .ok (some (c.complete env home)) := by
  have htext : files'.text target = .ok c.toText := FileTree.text_of_write hrooted h
  obtain ⟨bytes, hbytes⟩ := FileTree.bytes_of_text htext
  obtain ⟨l, hresolve, -⟩ := FileTree.bytes_cases hbytes
  have hhas : files'.has target = true := by simp [FileTree.has, hresolve]
  simp [load, readFile, hhas, htext, ofText?_toText, Except.map]

/-- What was loaded was read from a file. -/
theorem load_cases (h : load files env home path = .ok (some c)) :
    ∃ text raw, files.text path = .ok text ∧ ofText? text = some raw ∧
      c = raw.complete env home := by
  unfold load readFile at h
  split_ifs at h
  · cases h
  · cases htext : files.text path with
    | error cause =>
        rw [htext] at h
        cases h
    | ok text =>
        cases hraw : ofText? text with
        | none =>
            simp only [htext, hraw] at h
            cases h
        | some raw =>
            simp only [htext, hraw] at h
            cases h
            exact ⟨text, raw, rfl, hraw, rfl⟩

/-- A configuration that was loaded can be saved to the same place, and is loaded again, from
wherever it was saved to, as it was, but with its path expanded once more. It is the same just if
that changes nothing, as where the path is plain or names a variable that is not set. -/
theorem loaded_configuration_comes_back (hrooted : files.Rooted)
    (hload : load files env home path = .ok (some c)) :
    (∃ files', save files path c = .ok files') ∧
      ∀ target files', save files target c = .ok files' →
        ∃ c', load files' env home target = .ok (some c') ∧
          c'.memberId = c.memberId ∧ c'.editor = c.editor ∧ c'.user = c.user ∧
          c'.fontsCss = c.fontsCss.map (expandPath env home) ∧
          (c' = c ↔ ∀ css ∈ c.fontsCss, expandPath env home css = css) ∧
          ((∀ css ∈ c.fontsCss, IsPlainPath css ∨
              PathPiece.fill env (PathPiece.ofPath css) = none) → c' = c) := by
  obtain ⟨text, raw, htext, -, hc⟩ := load_cases hload
  have huser : c.user.withDefaults = c.user := by
    rw [hc]
    exact raw.user.withDefaults_idem
  have hsame : c.complete env home = c ↔ ∀ css ∈ c.fontsCss, expandPath env home css = css := by
    obtain ⟨memberId, fontsCss, editor, user⟩ := c
    cases fontsCss <;> simp [complete, show user.withDefaults = user from huser]
  constructor
  · obtain ⟨bytes, hbytes⟩ := FileTree.bytes_of_text htext
    exact FileTree.write_of_bytes hrooted hbytes _
  · intro target files' hsave
    refine ⟨c.complete env home, load_of_save hrooted hsave env home, rfl, rfl, huser, rfl, hsame,
      fun hplain => hsame.2 fun css hcss => ?_⟩
    rcases hplain css hcss with hplain | hunset
    · exact expandPath_plain hplain env home
    · exact expandPath_unset hunset home

def withStylesheet (path : String) : FileTree :=
  ({} : FileTree).set ["config.toml"] (.file (textLine "fonts_css" path).toUTF8.data.toList)

theorem rooted_withStylesheet (path : String) : (withStylesheet path).Rooted := by
  have hroot : FileTree.entry? {} [] = some .directory := rfl
  have hfree : FileTree.entry? {} ([] ++ ["config.toml"]) ≠ some .directory := by decide
  exact FileTree.rooted_empty.set hroot hfree _

def homeOnly : Environment := fun name => if name = "HOME" then some "/home/ada" else none

/-- A path with a variable is replaced once and for all. -/
theorem expanded_path_comes_back :
    let c : Config :=
      { fontsCss := some "/home/ada/fonts.css", user := ({} : MemberProperties).withDefaults }
    load (withStylesheet "$HOME/fonts.css") homeOnly "/home/ada" "config.toml" = .ok (some c) ∧
      ∃ files', save (withStylesheet "$HOME/fonts.css") "config.toml" c = .ok files' ∧
        load files' homeOnly "/home/ada" "config.toml" = .ok (some c) := by
  intro c
  have hload : load (withStylesheet "$HOME/fonts.css") homeOnly "/home/ada" "config.toml" =
      .ok (some c) := by decide +kernel
  obtain ⟨⟨files', hsave⟩, hback⟩ :=
    loaded_configuration_comes_back (rooted_withStylesheet "$HOME/fonts.css") hload
  obtain ⟨c', hload', -, -, -, -, -, hsame⟩ := hback "config.toml" files' hsave
  have hplain : IsPlainPath "/home/ada/fonts.css" := ⟨by decide, by decide, by simp⟩
  obtain rfl : c' = c := hsame fun css hcss => Or.inl (Option.some.inj hcss ▸ hplain)
  exact ⟨hload, files', hsave, hload'⟩

/-- A dollar sign that is doubled in the file is lost: what is saved names a variable. -/
theorem doubled_dollar_is_lost :
    ∃ c files' c', load (withStylesheet "$$HOME/fonts.css") homeOnly "/home/ada" "config.toml" =
        .ok (some c) ∧
      save (withStylesheet "$$HOME/fonts.css") "config.toml" c = .ok files' ∧
      load files' homeOnly "/home/ada" "config.toml" = .ok (some c') ∧
      c.fontsCss = some "$HOME/fonts.css" ∧ c'.fontsCss = some "/home/ada/fonts.css" := by
  let c : Config :=
    { fontsCss := some "$HOME/fonts.css", user := ({} : MemberProperties).withDefaults }
  have hload : load (withStylesheet "$$HOME/fonts.css") homeOnly "/home/ada" "config.toml" =
      .ok (some c) := by decide +kernel
  have hrooted := rooted_withStylesheet "$$HOME/fonts.css"
  obtain ⟨text, -, htext, -⟩ := load_cases hload
  obtain ⟨bytes, hbytes⟩ := FileTree.bytes_of_text htext
  obtain ⟨files', hsave⟩ := FileTree.write_of_bytes hrooted hbytes c.toText.toUTF8.data.toList
  exact ⟨c, files', _, hload, hsave, load_of_save hrooted hsave homeOnly "/home/ada", rfl,
    by decide +kernel⟩

end Config

end Coedit
