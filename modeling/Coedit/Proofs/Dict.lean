import Coedit.Dict
import Mathlib.Data.Finset.Dedup
import Mathlib.Data.Finset.Erase
import Mathlib.Data.Finset.Insert

/-!
# Laws of ordered dictionaries

What look-ups say about membership, which keys a dictionary has, what it finds when it was
extended, and how a sum over its values changes when one value is set.
-/

namespace Coedit.Dict

section Lookup

variable {κ α : Type} [Ord κ] [Std.TransOrd κ] [Std.LawfulEqOrd κ] [DecidableEq κ]

@[simp] theorem get?_insert_self (d : Dict κ α) (k : κ) (v : α) :
    (d.insert k v).get? k = some v := by
  rw [get?_insert, if_pos rfl]

theorem contains_insert (d : Dict κ α) (k : κ) (v : α) (q : κ) :
    (d.insert k v).contains q = (decide (k = q) || d.contains q) := by
  unfold contains
  rw [get?_insert]
  by_cases h : k = q <;> simp [h]

omit [Std.TransOrd κ] in
theorem contains_erase (d : Dict κ α) (k q : κ) :
    (d.erase k).contains q = (!decide (k = q) && d.contains q) := by
  unfold contains
  rw [get?_erase]
  by_cases h : k = q <;> simp [h]

/-- Erasing what is not there changes nothing. -/
theorem erase_of_absent {d : Dict κ α} {k : κ} (h : ¬ d.contains k = true) : d.erase k = d := by
  refine ext_get? fun q => ?_
  rw [get?_erase]
  split
  · rename_i hq
    rw [← hq]
    exact (Option.not_isSome_iff_eq_none.1 h).symm
  · rfl

theorem erase_erase (d : Dict κ α) (k : κ) : (d.erase k).erase k = d.erase k :=
  erase_of_absent (by simp [contains_erase])

omit [Std.TransOrd κ] in
theorem mem_keys {d : Dict κ α} {k : κ} : k ∈ d.keys ↔ d.contains k = true := by
  simp only [keys, contains, List.mem_map, Option.isSome_iff_exists]
  constructor
  · rintro ⟨⟨k', v⟩, hmem, rfl⟩
    exact ⟨v, (d.get?_eq_some_iff_mem _ _).2 hmem⟩
  · rintro ⟨v, hv⟩
    exact ⟨(k, v), (d.get?_eq_some_iff_mem _ _).1 hv, rfl⟩

end Lookup

section Keys

variable {κ α : Type} [Ord κ] [Std.TransOrd κ] [Std.LawfulEqOrd κ] [DecidableEq κ]

def keySet (d : Dict κ α) : Finset κ := d.keys.toFinset

omit [Std.TransOrd κ] in
@[simp] theorem mem_keySet {d : Dict κ α} {k : κ} : k ∈ d.keySet ↔ d.contains k = true := by
  rw [keySet, List.mem_toFinset, mem_keys]

theorem keySet_insert (d : Dict κ α) (k : κ) (v : α) :
    (d.insert k v).keySet = Insert.insert k d.keySet := by
  ext q
  rw [Finset.mem_insert, mem_keySet, mem_keySet, contains_insert, Bool.or_eq_true,
    decide_eq_true_eq, eq_comm]

omit [Std.TransOrd κ] in
theorem keySet_erase (d : Dict κ α) (k : κ) : (d.erase k).keySet = d.keySet.erase k := by
  ext q
  rw [Finset.mem_erase, mem_keySet, mem_keySet, contains_erase, Bool.and_eq_true,
    Bool.not_eq_true', decide_eq_false_iff_not, ne_comm]

omit [Std.TransOrd κ] in
theorem keySet_modify (d : Dict κ α) (k : κ) (f : α → α) : (d.modify k f).keySet = d.keySet := by
  ext q
  simp only [mem_keySet, contains, get?_modify]
  split <;> simp

/-- Values that are set in turn, each from what was there: under different keys they do not get in
each other's way. -/
theorem get?_foldl_insert {β : Type} (g : Option α → β → α) {entries : List (κ × β)}
    (h : entries.Pairwise fun a b => compare a.1 b.1 = .lt) (d : Dict κ α) (k : κ) :
    (entries.foldl (fun d e => d.insert e.1 (g (d.get? e.1) e.2)) d).get? k =
      ((entries.find? fun e => compare e.1 k == .eq).map fun e => g (d.get? k) e.2).or
        (d.get? k) := by
  induction entries generalizing d with
  | nil => rfl
  | cons e rest ih =>
      obtain ⟨hbehind, hrest⟩ := List.pairwise_cons.1 h
      rw [List.foldl_cons, ih hrest, get?_insert, List.find?_cons]
      by_cases hkey : e.1 = k
      · have hnone : (rest.find? fun e => compare e.1 k == .eq) = none := by
          refine List.find?_eq_none.2 fun other hmem => ?_
          have hlt := hbehind other hmem
          rw [hkey] at hlt
          have hne : other.1 ≠ k := by
            rintro rfl
            simp at hlt
          simp [hne]
        simp [hnone, hkey]
      · rw [if_neg hkey, show (compare e.1 k == .eq) = false by simp [hkey]]

theorem get?_insertAll {entries : List (κ × α)}
    (h : entries.Pairwise fun a b => compare a.1 b.1 = .lt) (d : Dict κ α) (k : κ) :
    (d.insertAll entries).get? k =
      ((entries.find? fun e => compare e.1 k == .eq).map (·.2)).or (d.get? k) :=
  get?_foldl_insert (fun _ v => v) h d k

/-- An extended dictionary has what `upper` has, else what it had. -/
theorem get?_extend (d upper : Dict κ α) (k : κ) :
    (d.extend upper).get? k = (upper.get? k).or (d.get? k) :=
  get?_insertAll upper.sorted d k

omit [Std.TransOrd κ] in
theorem get?_eraseAll (d : Dict κ α) (keys : List κ) (k : κ) :
    (keys.foldl erase d).get? k = if k ∈ keys then none else d.get? k := by
  induction keys generalizing d with
  | nil => rfl
  | cons key rest ih =>
      rw [List.foldl_cons, ih, get?_erase]
      by_cases hkey : key = k
      · simp [hkey]
      · simp [hkey, Ne.symm hkey]

omit [Std.TransOrd κ] in
/-- A key stands in at most one entry. -/
theorem filter_toList (d : Dict κ α) (k : κ) :
    (d.toList.filter fun e => e.1 = k) = ((d.get? k).map (k, ·)).toList := by
  obtain ⟨entries, hsorted⟩ := d
  unfold get?
  simp only
  induction entries with
  | nil => rfl
  | cons e rest ih =>
      obtain ⟨hbehind, hrest⟩ := List.pairwise_cons.1 hsorted
      by_cases hkey : e.1 = k
      · subst hkey
        have hnone : (rest.filter fun other => other.1 = e.1) = [] := by
          refine List.filter_eq_nil_iff.2 fun other hmem hother => ?_
          have hlt := hbehind other hmem
          rw [of_decide_eq_true hother] at hlt
          simp at hlt
        rw [List.filter_cons_of_pos (by simp), hnone]
        simp
      · simp [hkey, ih hrest]

end Keys

section Sum

variable {κ α : Type} [Ord κ]

def sum (f : α → Nat) (d : Dict κ α) : Nat := d.toList.foldr (fun e n => f e.2 + n) 0

variable [Std.TransOrd κ] [Std.LawfulEqOrd κ] [DecidableEq κ]

omit [DecidableEq κ] in
private theorem sum_insertEntry (f : α → Nat) (k : κ) (v : α) {l : List (κ × α)}
    (h : l.Pairwise fun a b => compare a.1 b.1 = .lt) :
    (insertEntry k v l).foldr (fun e n => f e.2 + n) 0 +
        ((l.find? fun e => compare e.1 k == .eq).map (·.2)).elim 0 f =
      l.foldr (fun e n => f e.2 + n) 0 + f v := by
  induction l with
  | nil => simp [insertEntry]
  | cons x rest ih =>
      obtain ⟨k', v'⟩ := x
      obtain ⟨hx, hr⟩ := List.pairwise_cons.1 h
      simp only [insertEntry]
      split <;> rename_i hc
      · have hfind : ((k', v') :: rest).find? (fun e => compare e.1 k == .eq) = none := by
          rw [List.find?_eq_none]
          intro e he
          have hlt : compare k e.1 = .lt := by
            rcases List.mem_cons.1 he with rfl | he
            · exact hc
            · exact Std.TransCmp.lt_trans hc (hx e he)
          have hswap : compare e.1 k = (compare k e.1).swap := Std.OrientedCmp.eq_swap
          rw [hswap, hlt]
          decide
        rw [hfind]
        simp only [List.foldr_cons, Option.map_none, Option.elim_none]
        omega
      · have hk : k = k' := Std.LawfulEqOrd.eq_of_compare hc
        subst hk
        simp only [List.foldr_cons, List.find?_cons, Std.ReflCmp.compare_self, beq_self_eq_true,
          Option.map_some, Option.elim_some]
        omega
      · have hne : (compare k' k == Ordering.eq) = false := by
          have hswap : compare k' k = (compare k k').swap := Std.OrientedCmp.eq_swap
          rw [hswap, hc]
          decide
        have hrest := ih hr
        simp only [List.foldr_cons, List.find?_cons, hne]
        omega

omit [DecidableEq κ] in
/-- Setting a value trades the old measure at its key for the new one. -/
theorem sum_insert (f : α → Nat) (d : Dict κ α) (k : κ) (v : α) :
    (d.insert k v).sum f + (d.get? k).elim 0 f = d.sum f + f v :=
  sum_insertEntry f k v d.sorted

end Sum

end Coedit.Dict
