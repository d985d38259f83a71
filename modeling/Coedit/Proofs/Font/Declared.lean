import Coedit.Dict
import Coedit.Font
import Mathlib.Data.String.Basic
import Mathlib.Order.Bounds.Basic
import Mathlib.Order.Compare

/-!
# One declared font for each family

A document can declare several fonts of one family. Its fonts stand in name order, and a walk over
them leaves out each one whose family an earlier one had. The families seen so far are those that
the walk is done with: it keeps the first font of each other family, and in name order this is the
font with the smallest name. Fonts without a family are never taken for repetitions.
-/

namespace Coedit.Font

def ofFamily (family : String) (fonts : List (String × String)) : List (String × String) :=
  fonts.filter (·.2 = family)

theorem mem_ofFamily {family : String} {fonts : List (String × String)} {font : String × String} :
    font ∈ ofFamily family fonts ↔ font ∈ fonts ∧ font.2 = family := by
  simp [ofFamily]

theorem ofFamily_cons_self (name family : String) (fonts : List (String × String)) :
    ofFamily family ((name, family) :: fonts) = (name, family) :: ofFamily family fonts := by
  simp [ofFamily]

theorem ofFamily_cons_of_ne {family other : String} (h : other ≠ family) (name : String)
    (fonts : List (String × String)) :
    ofFamily family ((name, other) :: fonts) = ofFamily family fonts := by
  simp [ofFamily, h]

/-! ## The walk -/

section Walk

variable {family : String}

theorem dropRepeated_sublist (seen : List String) (fonts : List (String × String)) :
    (dropRepeated seen fonts).Sublist fonts := by
  fun_induction dropRepeated seen fonts with
  | case1 seen => exact List.Sublist.slnil
  | case2 seen name rest ih => exact ih.cons_cons _
  | case3 seen name family rest hfamily hseen ih => exact ih.cons _
  | case4 seen name family rest hfamily hseen ih => exact ih.cons_cons _

theorem ofFamily_empty_dropRepeated (seen : List String) (fonts : List (String × String)) :
    ofFamily "" (dropRepeated seen fonts) = ofFamily "" fonts := by
  fun_induction dropRepeated seen fonts with
  | case1 seen => rfl
  | case2 seen name rest ih => rw [ofFamily_cons_self, ofFamily_cons_self, ih]
  | case3 seen name other rest hother hseen ih => rw [ofFamily_cons_of_ne hother, ih]
  | case4 seen name other rest hother hseen ih =>
      rw [ofFamily_cons_of_ne hother, ofFamily_cons_of_ne hother, ih]

/-- The walk is done with the families that it saw. -/
theorem ofFamily_dropRepeated_of_mem {seen : List String} (hfamily : family ≠ "")
    (h : family ∈ seen) (fonts : List (String × String)) :
    ofFamily family (dropRepeated seen fonts) = [] := by
  fun_induction dropRepeated seen fonts with
  | case1 seen => rfl
  | case2 seen name rest ih => rw [ofFamily_cons_of_ne hfamily.symm, ih h]
  | case3 seen name other rest hother hseen ih => exact ih h
  | case4 seen name other rest hother hseen ih =>
      have hne : other ≠ family := fun heq => hseen (heq ▸ h)
      rw [ofFamily_cons_of_ne hne, ih (List.mem_cons_of_mem other h)]

/-- The walk keeps the first font of each family that it did not see yet. -/
theorem ofFamily_dropRepeated_of_not_mem {seen : List String} (hfamily : family ≠ "")
    (h : family ∉ seen) (fonts : List (String × String)) :
    ofFamily family (dropRepeated seen fonts) = (ofFamily family fonts).take 1 := by
  fun_induction dropRepeated seen fonts with
  | case1 seen => rfl
  | case2 seen name rest ih =>
      rw [ofFamily_cons_of_ne hfamily.symm, ofFamily_cons_of_ne hfamily.symm, ih h]
  | case3 seen name other rest hother hseen ih =>
      have hne : other ≠ family := fun heq => h (heq ▸ hseen)
      rw [ofFamily_cons_of_ne hne, ih h]
  | case4 seen name other rest hother hseen ih =>
      by_cases heq : other = family
      · subst heq
        rw [ofFamily_cons_self, ofFamily_cons_self,
          ofFamily_dropRepeated_of_mem hfamily List.mem_cons_self, List.take_succ_cons,
          List.take_zero]
      · have hunseen : family ∉ other :: seen := by simp [Ne.symm heq, h]
        rw [ofFamily_cons_of_ne heq, ofFamily_cons_of_ne heq, ih hunseen]

end Walk

/-! ## Name order -/

section Order

variable {family : String}

theorem names_increase (fonts : Dict String String) :
    fonts.toList.Pairwise fun a b => a.1 < b.1 :=
  fonts.sorted.imp compare_lt_iff_lt.1

theorem mem_ofFamily_toList {fonts : Dict String String} {name : String} :
    (name, family) ∈ ofFamily family fonts.toList ↔ fonts.get? name = some family := by
  rw [mem_ofFamily, fonts.get?_eq_some_iff_mem]
  simp

/-- The first font of a family has its smallest name. -/
theorem isLeast_of_ofFamily_eq_cons {fonts : Dict String String} {font : String × String}
    {rest : List (String × String)} (h : ofFamily family fonts.toList = font :: rest) :
    font.2 = family ∧ IsLeast {name | fonts.get? name = some family} font.1 := by
  have hfont : font ∈ ofFamily family fonts.toList := by
    rw [h]
    exact List.mem_cons_self
  have hincrease : (font :: rest).Pairwise fun a b => a.1 < b.1 := by
    rw [← h]
    exact (names_increase fonts).filter _
  have hfamily : font.2 = family := (mem_ofFamily.1 hfont).2
  refine ⟨hfamily, ?_, ?_⟩
  · subst hfamily
    exact mem_ofFamily_toList.1 hfont
  · intro name hname
    have hmem : (name, family) ∈ font :: rest := by
      rw [← h]
      exact mem_ofFamily_toList.2 hname
    rcases List.mem_cons.1 hmem with heq | hbehind
    · rw [← heq]
    · exact le_of_lt ((List.pairwise_cons.1 hincrease).1 _ hbehind)

theorem ofFamily_declared {fonts : Dict String String} {other : String} (hfamily : family ≠ "")
    (hother : fonts.get? other = some family) :
    ∃ least, IsLeast {name | fonts.get? name = some family} least ∧
      ofFamily family (declared fonts.toList) = [(least, family)] := by
  have hmem := mem_ofFamily_toList.2 hother
  cases hfonts : ofFamily family fonts.toList with
  | nil =>
      rw [hfonts] at hmem
      cases hmem
  | cons font rest =>
      obtain ⟨hfont, hleast⟩ := isLeast_of_ofFamily_eq_cons hfonts
      refine ⟨font.1, hleast, ?_⟩
      rw [declared, ofFamily_dropRepeated_of_not_mem hfamily List.not_mem_nil, hfonts, ← hfont]
      rfl

end Order

/-- The declared fonts are fonts of the document, in name order. All fonts without a family are
among them, and of each family of the document the font with the smallest name and no other. So
each family stays. -/
theorem one_name_kept_per_family (fonts : Dict String String) :
    (declared fonts.toList).Sublist fonts.toList ∧
    (declared fonts.toList).Pairwise (fun a b => a.1 < b.1) ∧
    ofFamily "" (declared fonts.toList) = ofFamily "" fonts.toList ∧
    (∀ family ≠ "", (∃ name, fonts.get? name = some family) →
      ∃ least, IsLeast {name | fonts.get? name = some family} least ∧
        ofFamily family (declared fonts.toList) = [(least, family)]) ∧
    ∀ name family, fonts.get? name = some family →
      ∃ kept, (kept, family) ∈ declared fonts.toList := by
  have hsublist : (declared fonts.toList).Sublist fonts.toList := dropRepeated_sublist [] _
  have hwithout : ofFamily "" (declared fonts.toList) = ofFamily "" fonts.toList :=
    ofFamily_empty_dropRepeated [] _
  refine ⟨hsublist, (names_increase fonts).sublist hsublist, hwithout, ?_, ?_⟩
  · rintro family hfamily ⟨name, hname⟩
    exact ofFamily_declared hfamily hname
  · intro name family hname
    by_cases hfamily : family = ""
    · subst hfamily
      have hmem := mem_ofFamily_toList.2 hname
      rw [← hwithout] at hmem
      exact ⟨name, (mem_ofFamily.1 hmem).1⟩
    · obtain ⟨least, -, honly⟩ := ofFamily_declared hfamily hname
      have hmem : (least, family) ∈ ofFamily family (declared fonts.toList) := by
        rw [honly]
        exact List.mem_cons_self
      exact ⟨least, (mem_ofFamily.1 hmem).1⟩

/-- Of two fonts of one family the one that was declared later can have the smaller name. -/
theorem smaller_name_kept_of_two :
    let fonts := Dict.ofList
      [("Arial1", "Arial"), ("Symbol", ""), ("Arial", "Arial"), ("Symbol2", "")]
    "Arial" ≠ "" ∧ fonts.get? "Arial1" = some "Arial" ∧
      IsLeast {name | fonts.get? name = some "Arial"} "Arial" ∧
      ofFamily "Arial" (declared fonts.toList) = [("Arial", "Arial")] := by
  intro fonts
  have hname : fonts.get? "Arial1" = some "Arial" := by decide +kernel
  have hfonts : ofFamily "Arial" fonts.toList = [("Arial", "Arial"), ("Arial1", "Arial")] := by
    decide +kernel
  have hfirst : IsLeast {name | fonts.get? name = some "Arial"} "Arial" :=
    (isLeast_of_ofFamily_eq_cons hfonts).2
  obtain ⟨least, hleast, honly⟩ :=
    (one_name_kept_per_family fonts).2.2.2.1 "Arial" (by decide) ⟨"Arial1", hname⟩
  rw [hleast.unique hfirst] at honly
  exact ⟨by decide, hname, hfirst, honly⟩

end Coedit.Font
