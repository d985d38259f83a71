/-!
# Ordered dictionaries

A `Dict κ α` keeps its entries in strictly increasing key order. The order is part of the
type, so `toList` is the iteration order and two dictionaries with the same look-ups are
equal (`Dict.ext_get?`).
-/

namespace Coedit

structure Dict (κ α : Type) [Ord κ] where
  toList : List (κ × α)
  sorted : toList.Pairwise fun a b => compare a.1 b.1 = .lt

namespace Dict

section Basic

variable {κ α : Type} [Ord κ]

instance [DecidableEq κ] [DecidableEq α] : DecidableEq (Dict κ α) := fun a b =>
  match decEq a.toList b.toList with
  | isTrue h => isTrue (by cases a; cases b; cases h; rfl)
  | isFalse h => isFalse fun e => h (e ▸ rfl)

def empty : Dict κ α := ⟨[], .nil⟩

instance : EmptyCollection (Dict κ α) := ⟨empty⟩
instance : Inhabited (Dict κ α) := ⟨empty⟩

def get? (d : Dict κ α) (k : κ) : Option α :=
  (d.toList.find? fun e => compare e.1 k == .eq).map (·.2)

@[simp] theorem get?_empty (k : κ) : (empty : Dict κ α).get? k = none := rfl

def contains (d : Dict κ α) (k : κ) : Bool := (d.get? k).isSome

def size (d : Dict κ α) : Nat := d.toList.length

def keys (d : Dict κ α) : List κ := d.toList.map (·.1)

def erase (d : Dict κ α) (k : κ) : Dict κ α :=
  ⟨d.toList.filter fun e => compare e.1 k != .eq, d.sorted.filter _⟩

def mapValues {β : Type} (f : κ → α → β) (d : Dict κ α) : Dict κ β :=
  ⟨d.toList.map fun e => (e.1, f e.1 e.2), List.pairwise_map.2 d.sorted⟩

def modify (d : Dict κ α) (k : κ) (f : α → α) : Dict κ α :=
  d.mapValues fun k' v => if compare k' k == .eq then f v else v

def insertEntry (k : κ) (v : α) : List (κ × α) → List (κ × α)
  | [] => [(k, v)]
  | (k', v') :: rest =>
    match compare k k' with
    | .lt => (k, v) :: (k', v') :: rest
    | .eq => (k, v) :: rest
    | .gt => (k', v') :: insertEntry k v rest

theorem fst_of_mem_insertEntry {k : κ} {v : α} {e : κ × α} {l : List (κ × α)}
    (h : e ∈ insertEntry k v l) : e.1 = k ∨ e ∈ l := by
  induction l with
  | nil => simp_all [insertEntry]
  | cons x rest ih =>
    obtain ⟨k', v'⟩ := x
    simp only [insertEntry] at h
    split at h <;> simp only [List.mem_cons] at h ⊢
    · rcases h with rfl | rfl | h <;> simp_all
    · rcases h with rfl | h <;> simp_all
    · rcases h with rfl | h
      · simp
      · rcases ih h with h | h <;> simp [h]

end Basic

section Lawful

variable {κ α : Type} [Ord κ] [Std.TransOrd κ] [Std.LawfulEqOrd κ]

theorem sorted_insertEntry (k : κ) (v : α) {l : List (κ × α)}
    (h : l.Pairwise fun a b => compare a.1 b.1 = .lt) :
    (insertEntry k v l).Pairwise fun a b => compare a.1 b.1 = .lt := by
  induction l with
  | nil => simp [insertEntry]
  | cons x rest ih =>
    obtain ⟨k', v'⟩ := x
    obtain ⟨hx, hr⟩ := List.pairwise_cons.1 h
    simp only [insertEntry]
    split <;> rename_i hc
    · refine List.pairwise_cons.2 ⟨fun e he => ?_, h⟩
      rcases List.mem_cons.1 he with rfl | he
      · exact hc
      · exact Std.TransCmp.lt_trans hc (hx e he)
    · have hk : k = k' := Std.LawfulEqOrd.eq_of_compare hc
      subst hk
      exact List.pairwise_cons.2 ⟨hx, hr⟩
    · refine List.pairwise_cons.2 ⟨fun e he => ?_, ih hr⟩
      rcases fst_of_mem_insertEntry he with hk | he
      · simpa [hk] using Std.OrientedCmp.lt_of_gt hc
      · exact hx e he

def insert (d : Dict κ α) (k : κ) (v : α) : Dict κ α :=
  ⟨insertEntry k v d.toList, sorted_insertEntry k v d.sorted⟩

/-- Inserts the entries in order, so a later entry wins. -/
def insertAll (d : Dict κ α) (entries : List (κ × α)) : Dict κ α :=
  entries.foldl (fun d e => d.insert e.1 e.2) d

def ofList (entries : List (κ × α)) : Dict κ α := insertAll empty entries

/-- The entries of both, those of `upper` winning. -/
def extend (d upper : Dict κ α) : Dict κ α := d.insertAll upper.toList

end Lawful

section Lookup

variable {κ α : Type} [Ord κ] [Std.LawfulEqOrd κ] [DecidableEq κ]

theorem find?_insertEntry (k : κ) (v : α) (q : κ) (l : List (κ × α)) :
    ((insertEntry k v l).find? fun e => compare e.1 q == .eq) =
      if k = q then some (k, v) else l.find? fun e => compare e.1 q == .eq := by
  induction l with
  | nil => by_cases h : k = q <;> simp [insertEntry, h]
  | cons x rest ih =>
    obtain ⟨k', v'⟩ := x
    simp only [insertEntry]
    split <;> rename_i hc
    · by_cases h : k = q <;> simp [List.find?_cons, h]
    · have hk : k = k' := Std.LawfulEqOrd.eq_of_compare hc
      subst hk
      by_cases h : k = q <;> simp [h]
    · by_cases h : k' = q
      · subst h
        have hn : k ≠ k' := fun e => by simp [e] at hc
        simp [hn]
      · simp [h, ih]

theorem get?_insert [Std.TransOrd κ] (d : Dict κ α) (k : κ) (v : α) (q : κ) :
    (d.insert k v).get? q = if k = q then some v else d.get? q := by
  by_cases h : k = q <;> simp [get?, insert, find?_insertEntry, h]

theorem get?_erase (d : Dict κ α) (k q : κ) :
    (d.erase k).get? q = if k = q then none else d.get? q := by
  simp only [get?, erase, List.find?_filter]
  by_cases h : k = q
  · subst h
    simp [List.find?_eq_none]
  · rw [if_neg h]
    congr 2
    funext e
    by_cases he : e.1 = q
    · have : q ≠ k := fun hq => h hq.symm
      simp [he, this]
    · simp [he]

theorem get?_modify (d : Dict κ α) (k : κ) (f : α → α) (q : κ) :
    (d.modify k f).get? q = if k = q then (d.get? q).map f else d.get? q := by
  simp only [get?, modify, mapValues, List.find?_map, Option.map_map]
  have hp : ((fun e : κ × α => compare e.1 q == .eq) ∘
      fun e : κ × α => (e.1, if compare e.1 k == .eq then f e.2 else e.2)) =
      fun e => compare e.1 q == .eq := rfl
  rw [hp]
  cases hf : d.toList.find? fun e => compare e.1 q == .eq with
  | none => simp
  | some e =>
    have he : e.1 = q := by simpa using List.find?_some hf
    by_cases h : k = q
    · simp [h, he]
    · have : q ≠ k := fun hq => h hq.symm
      simp [h, he, this]

/-- After an entry was put in, an entry is that one or an old one. -/
theorem insert_cases [Std.TransOrd κ] {d : Dict κ α} {k q : κ} {v u : α}
    (h : (d.insert k v).get? q = some u) : k = q ∧ v = u ∨ k ≠ q ∧ d.get? q = some u := by
  rw [get?_insert] at h
  split at h
  · rename_i hsame
    exact .inl ⟨hsame, Option.some.inj h⟩
  · rename_i hother
    exact .inr ⟨hother, h⟩

/-- What holds of all entries and of the one that is put in holds of all afterwards. -/
theorem forall_insert [Std.TransOrd κ] {d : Dict κ α} {P : κ → α → Prop} {k : κ} {v : α}
    (hnew : P k v) (hold : ∀ q u, d.get? q = some u → P q u) :
    ∀ q u, (d.insert k v).get? q = some u → P q u := by
  intro q u h
  obtain ⟨rfl, rfl⟩ | ⟨-, h⟩ := insert_cases h
  · exact hnew
  · exact hold q u h

/-- After the entry of a key was changed, an entry is what it was or the changed one. -/
theorem modify_cases {d : Dict κ α} {k q : κ} {f : α → α} {u : α}
    (h : (d.modify k f).get? q = some u) :
    ∃ v, d.get? q = some v ∧ (k ≠ q ∧ u = v ∨ k = q ∧ u = f v) := by
  rw [get?_modify] at h
  split at h
  · rename_i hsame
    obtain ⟨v, hv, rfl⟩ := Option.map_eq_some_iff.1 h
    exact ⟨v, hv, .inr ⟨hsame, rfl⟩⟩
  · rename_i hother
    exact ⟨u, h, .inl ⟨hother, rfl⟩⟩

/-- What a change keeps of an entry is kept of all. -/
theorem map_get?_modify {β : Type} {f : α → α} {g : α → β} (h : ∀ v, g (f v) = g v)
    (d : Dict κ α) (k q : κ) : ((d.modify k f).get? q).map g = (d.get? q).map g := by
  rw [get?_modify]
  split
  · rw [Option.map_map]
    exact congrArg (Option.map · _) (funext h)
  · rfl

theorem get?_eq_some_iff_mem (d : Dict κ α) (k : κ) (v : α) :
    d.get? k = some v ↔ (k, v) ∈ d.toList := by
  obtain ⟨l, h⟩ := d
  simp only [get?]
  induction l with
  | nil => simp
  | cons x rest ih =>
    obtain ⟨k', v'⟩ := x
    obtain ⟨hx, hr⟩ := List.pairwise_cons.1 h
    by_cases hk : k' = k
    · subst hk
      have hn : (k', v) ∉ rest := fun hm => by simpa using hx _ hm
      simp [hn, eq_comm]
    · have hk' : k ≠ k' := fun e => hk e.symm
      simpa [List.find?_cons, hk, hk'] using ih hr

/-- Look-ups determine a dictionary. -/
theorem ext_get? [Std.TransOrd κ] {d e : Dict κ α} (h : ∀ k, d.get? k = e.get? k) : d = e := by
  have hm : ∀ x, x ∈ d.toList ↔ x ∈ e.toList := fun ⟨k, v⟩ => by
    rw [← get?_eq_some_iff_mem, ← get?_eq_some_iff_mem, h]
  obtain ⟨l, hl⟩ := d
  obtain ⟨m, hm'⟩ := e
  have : l = m := by
    clear h
    induction l generalizing m with
    | nil =>
      cases m with
      | nil => rfl
      | cons y ys => simpa using hm y
    | cons x xs ih =>
      cases m with
      | nil => simpa using hm x
      | cons y ys =>
        obtain ⟨hx, hxs⟩ := List.pairwise_cons.1 hl
        obtain ⟨hy, hys⟩ := List.pairwise_cons.1 hm'
        have hxy : x = y := by
          rcases List.mem_cons.1 ((hm x).1 (by simp)) with h | h
          · exact h
          · rcases List.mem_cons.1 ((hm y).2 (by simp)) with h' | h'
            · exact h'.symm
            · have h₁ := hy x h
              have h₂ := hx y h'
              exact absurd (Std.TransCmp.lt_trans h₁ h₂) (by simp)
        subst hxy
        have hmem : ∀ z, z ∈ xs ↔ z ∈ ys := fun z => by
          have := hm z
          simp only [List.mem_cons] at this
          constructor <;> intro hz
          · rcases this.1 (.inr hz) with rfl | h
            · exact absurd (hx z hz) (by simp)
            · exact h
          · rcases this.2 (.inr hz) with rfl | h
            · exact absurd (hy z hz) (by simp)
            · exact h
        rw [ih hxs ys hys hmem]
  subst this
  rfl

end Lookup

end Dict

end Coedit
