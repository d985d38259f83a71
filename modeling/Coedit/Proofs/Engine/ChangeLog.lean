import Coedit.Proofs.Engine.Paragraphs

/-!
# Events as a change log

A listener that only hears of events can keep books on an engine: who is there, who has a cursor,
which styles there are, and the metadata. The books always agree with the engine, and no event
contradicts them. The events of a batch also name every paragraph and every style that it
changed.
-/

namespace Coedit

/-! ## The books -/

/-- What a listener can know of an engine from its events. -/
structure Inventory where
  members : Finset MemberId
  cursors : Finset MemberId
  styles : Finset StyleId
  metadata : String → Option String

namespace Inventory

/-- The right books for a replica. -/
def of (r : Replica) : Inventory :=
  { members := r.members.keySet
    cursors := r.cursors.keySet
    styles := r.document.styles.keySet
    metadata := r.document.metadata.get? }

def revise (metadata : String → Option String) (set : Dict String String)
    (removed : List String) : String → Option String :=
  fun key => if key ∈ removed then none else (set.get? key).or (metadata key)

/-- Enters an event. An event that contradicts the books cannot be entered: nobody who is there
is added as new, and nothing that is not there is updated, moved or removed. -/
def enter (v : Inventory) : EngineEvent → Option Inventory
  | .memberAdded m => if m ∈ v.members then none else some { v with members := insert m v.members }
  | .memberUpdated m => if m ∈ v.members then some v else none
  | .memberRemoved m =>
    if m ∈ v.members then some { v with members := v.members.erase m } else none
  | .cursorAdded m => some { v with cursors := insert m v.cursors }
  | .cursorMoved m => if m ∈ v.cursors then some v else none
  | .cursorRemoved m =>
    if m ∈ v.cursors then some { v with cursors := v.cursors.erase m } else none
  | .styleCreated style => some { v with styles := insert style v.styles }
  | .styleDeleted style =>
    if style ∈ v.styles then some { v with styles := v.styles.erase style } else none
  | .metadataChanged set removed => some { v with metadata := revise v.metadata set removed }
  | .paragraphChanged _ _ | .paragraphStyleModified _ | .undoStackChanged => some v

def enterAll (events : List EngineEvent) (v : Inventory) : Option Inventory := events.foldlM enter v

theorem enterAll_append (events later : List EngineEvent) (v : Inventory) :
    enterAll (events ++ later) v = (enterAll events v).bind (enterAll later) := by
  unfold enterAll
  rw [List.foldlM_append]
  rfl

theorem enterAll_singleton (event : EngineEvent) (v : Inventory) :
    enterAll [event] v = v.enter event := by
  unfold enterAll
  rw [List.foldlM_cons]
  cases v.enter event <;> rfl

/-- Events about what the books do not record leave them as they are. -/
theorem enterAll_of_unrecorded {events : List EngineEvent} {v : Inventory}
    (h : ∀ event ∈ events, v.enter event = some v) : enterAll events v = some v := by
  induction events with
  | nil => rfl
  | cons event rest ih =>
      unfold enterAll
      rw [List.foldlM_cons, h event List.mem_cons_self]
      exact ih fun other hmem => h other (List.mem_cons_of_mem _ hmem)

/-! ## Operations -/

theorem of_withDocument {r : Replica} {d : Document}
    (hstyles : d.styles.keySet = r.document.styles.keySet)
    (hmetadata : d.metadata = r.document.metadata) : of (r.withDocument d) = of r := by
  simp only [of, Replica.withDocument, hstyles, hmetadata]

theorem enterAll_removeCursor (r : Replica) (member : MemberId) :
    enterAll (r.removeCursor member).2 (of r) = some (of (r.removeCursor member).1) := by
  unfold Replica.removeCursor
  split
  · rename_i hthere
    have hmem : member ∈ (of r).cursors := Dict.mem_keySet.2 hthere
    rw [enterAll_singleton, enter, if_pos hmem]
    simp only [of, Dict.keySet_erase]
  · rfl

theorem enterAll_removeRecord (r : Replica) (member : MemberId) :
    enterAll (r.removeRecord member).2 (of r) = some (of (r.removeRecord member).1) := by
  unfold Replica.removeRecord
  split
  · rename_i hthere
    have hmem : member ∈ (of r).members := Dict.mem_keySet.2 hthere
    rw [enterAll_singleton, enter, if_pos hmem]
    simp only [of, Dict.keySet_erase]
  · rfl

theorem styles_modifyDefinition (d : Document) (style : StyleId)
    (f : StyleDefinition → StyleDefinition) :
    (d.modifyDefinition style f).styles.keySet = d.styles.keySet := by
  unfold Document.modifyDefinition
  split
  · rfl
  · exact Dict.keySet_modify _ _ _

theorem metadata_modifyDefinition (d : Document) (style : StyleId)
    (f : StyleDefinition → StyleDefinition) :
    (d.modifyDefinition style f).metadata = d.metadata := by
  unfold Document.modifyDefinition
  split <;> rfl

theorem enterAll_addMember (r : Replica) (member : MemberId) (properties : MemberProperties) :
    enterAll (r.apply (.addMember member properties)).2 (of r) =
      some (of (r.apply (.addMember member properties)).1) := by
  simp only [Replica.apply, enterAll_singleton]
  have hkeys : (r.members.insert member (.ofProperties member properties)).keySet =
      insert member r.members.keySet := Dict.keySet_insert _ _ _
  split
  · rename_i hthere
    have hmem : member ∈ (of r).members := Dict.mem_keySet.2 hthere
    have hsame : insert member r.members.keySet = r.members.keySet :=
      Finset.insert_eq_of_mem hmem
    rw [enter, if_pos hmem]
    simp only [of, hkeys, hsame]
  · rename_i habsent
    have hmem : member ∉ (of r).members := fun hmem => habsent (Dict.mem_keySet.1 hmem)
    rw [enter, if_neg hmem]
    simp only [of, hkeys]

theorem enterAll_removeStyle (r : Replica) (member : MemberId) (style : StyleId)
    (family : StyleFamily) : enterAll (r.apply (.removeStyle member style family)).2 (of r) =
      some (of (r.apply (.removeStyle member style family)).1) := by
  simp only [Replica.apply]
  split
  · rename_i hthere
    have hmem : style ∈ (of r).styles := Dict.mem_keySet.2 hthere
    have hchanged : enterAll ((r.document.paragraphs.filter (·.style == style)).map fun p =>
        .paragraphChanged p.id member) (of r) = some (of r) := by
      refine enterAll_of_unrecorded fun event hevent => ?_
      obtain ⟨p, -, rfl⟩ := List.mem_map.1 hevent
      rfl
    rw [enterAll_append, hchanged, Option.bind_some, enterAll_singleton, enter, if_pos hmem]
    simp only [of, Replica.withDocument, Dict.keySet_erase]
  · rfl

/-- The events of an operation carry the right books before it over into those after it. -/
theorem enterAll_apply (r : Replica) (op : Operation) :
    enterAll (r.apply op).2 (of r) = some (of (r.apply op).1) := by
  cases op with
  | addMember member properties => exact enterAll_addMember r member properties
  | removeMember member =>
      have hcursor := enterAll_removeCursor r member
      have hrecord := enterAll_removeRecord (r.removeCursor member).1 member
      simp only [Replica.apply]
      rw [enterAll_append, hcursor]
      exact hrecord
  | addCursor member =>
      simp only [Replica.apply, enterAll_singleton, enter, of, Dict.keySet_insert]
  | removeCursor member => exact enterAll_removeCursor r member
  | moveCursor member position anchor kind =>
      simp only [Replica.apply]
      split
      · rename_i hthere
        have hmem : member ∈ (of r).cursors := Dict.mem_keySet.2 hthere
        rw [enterAll_singleton, enter, if_pos hmem]
        simp only [of, Dict.keySet_modify]
      · rfl
  | setParagraphStyle member paragraph position style =>
      simp only [Replica.apply]
      split
      · exact enterAll_singleton _ _
      · rfl
  | addStyle member style family properties =>
      simp only [Replica.apply, Replica.withDocument, enterAll_singleton, enter, of,
        Dict.keySet_insert]
  | removeStyle member style family => exact enterAll_removeStyle r member style family
  | updateParagraphStyle member style set removed =>
      simp only [Replica.apply]
      split
      · rw [enterAll_singleton, enter, of_withDocument (styles_modifyDefinition r.document style _)
          (metadata_modifyDefinition r.document style _)]
      · rfl
  | insertStructuredContent member position content =>
      simp only [Replica.apply]
      split
      · exact enterAll_singleton _ _
      · rfl
  | updateMetadata member set removed =>
      simp only [Replica.apply, Replica.withDocument, enterAll_singleton, enter, of]
      congr 2
      funext key
      simp only [revise, Replica.updateMetadata, Dict.get?_eraseAll, Dict.get?_extend]

/-! ## Batches -/

theorem enterAll_applyAll (r : Replica) (batch : Batch) :
    enterAll (r.applyAll batch).2 (of r) = some (of (r.applyAll batch).1) := by
  induction batch generalizing r with
  | nil => rfl
  | cons op rest ih =>
      simp only [Replica.applyAll]
      rw [enterAll_append, enterAll_apply]
      exact ih (r.apply op).1

theorem enterAll_applyBatch (r : Replica) (batch : Batch) :
    enterAll (r.applyBatch batch).2 (of r) = some (of (r.applyBatch batch).1) := by
  have hall := enterAll_applyAll r batch
  simp only [Replica.applyBatch]
  split
  · rw [enterAll_append, hall]
    exact enterAll_singleton _ _
  · exact hall

end Inventory

namespace Replica

/-- All that is announced when batches are applied one after the other. -/
def history (r : Replica) : List Batch → List EngineEvent
  | [] => []
  | batch :: rest => (r.applyBatch batch).2 ++ (r.applyBatch batch).1.history rest

theorem history_append (r : Replica) (batches later : List Batch) :
    r.history (batches ++ later) = r.history batches ++
      (batches.foldl (fun r batch => (r.applyBatch batch).1) r).history later := by
  induction batches generalizing r with
  | nil => rfl
  | cons batch rest ih =>
      rw [List.cons_append, history, ih, history, List.append_assoc]
      rfl

end Replica

/-- The books are right after every run of batches, and no event contradicts them. -/
theorem Inventory.enterAll_history (r : Replica) (batches : List Batch) :
    enterAll (r.history batches) (of r) =
      some (of (batches.foldl (fun r batch => (r.applyBatch batch).1) r)) := by
  induction batches generalizing r with
  | nil => rfl
  | cons batch rest ih =>
      rw [Replica.history, enterAll_append, enterAll_applyBatch]
      exact ih (r.applyBatch batch).1

/-! ## Changes to paragraphs and styles -/

/-- Between two replicas with the same paragraphs, the events name each paragraph to which
another style was attached and each style that is not what it was. -/
structure Announced (events : List EngineEvent) (r r' : Replica) : Prop where
  same : r'.document.paragraphs.map (·.id) = r.document.paragraphs.map (·.id)
  paragraph : ∀ (i : Nat) (p p' : Paragraph), r.document.paragraphs[i]? = some p →
    r'.document.paragraphs[i]? = some p' → p'.style ≠ p.style →
      ∃ member, .paragraphChanged p.id member ∈ events
  style : ∀ style, r'.document.styles.get? style ≠ r.document.styles.get? style →
    .styleCreated style ∈ events ∨ .styleDeleted style ∈ events ∨
      .paragraphStyleModified style ∈ events
  default : r'.document.defaultStyle ≠ r.document.defaultStyle →
    .paragraphStyleModified .default ∈ events

namespace Announced

variable {events later : List EngineEvent} {r r' r'' : Replica}

theorem mono (h : Announced events r r') (hsub : ∀ event ∈ events, event ∈ later) :
    Announced later r r' where
  same := h.same
  paragraph := by
    intro i p p' hp hp' hne
    obtain ⟨member, hmem⟩ := h.paragraph i p p' hp hp' hne
    exact ⟨member, hsub _ hmem⟩
  style := by
    intro style hne
    rcases h.style style hne with hmem | hmem | hmem
    · exact .inl (hsub _ hmem)
    · exact .inr (.inl (hsub _ hmem))
    · exact .inr (.inr (hsub _ hmem))
  default := fun hne => hsub _ (h.default hne)

theorem trans (h : Announced events r r') (h' : Announced later r' r'') :
    Announced (events ++ later) r r'' := by
  have hfirst := h.mono fun _ hmem => List.mem_append_left later hmem
  have hsecond := h'.mono fun _ hmem => List.mem_append_right events hmem
  refine ⟨h'.same.trans h.same, ?_, ?_, ?_⟩
  · intro i p p'' hp hp'' hne
    have hid : r'.document.paragraphs[i]?.map (·.id) = some p.id := by
      rw [← List.getElem?_map, h.same, List.getElem?_map, hp]
      rfl
    obtain ⟨p', hp', hsame⟩ := Option.map_eq_some_iff.1 hid
    by_cases hstep : p'.style = p.style
    · rw [← hstep] at hne
      rw [← hsame]
      exact hsecond.paragraph i p' p'' hp' hp'' hne
    · exact hfirst.paragraph i p p' hp hp' hstep
  · intro style hne
    by_cases hstep : r'.document.styles.get? style = r.document.styles.get? style
    · rw [← hstep] at hne
      exact hsecond.style style hne
    · exact hfirst.style style hstep
  · intro hne
    by_cases hstep : r'.document.defaultStyle = r.document.defaultStyle
    · rw [← hstep] at hne
      exact hsecond.default hne
    · exact hfirst.default hstep

/-- Nothing was restyled, and no style is other than it was. -/
theorem of_unchanged (hparagraphs : r'.document.paragraphs = r.document.paragraphs)
    (hstyles : r'.document.styles = r.document.styles)
    (hdefault : r'.document.defaultStyle = r.document.defaultStyle) : Announced events r r' where
  same := by rw [hparagraphs]
  paragraph := by
    intro i p p' hp hp' hne
    rw [hparagraphs, hp] at hp'
    exact (hne (congrArg Paragraph.style (Option.some.inj hp').symm)).elim
  style := fun style hne => (hne (by rw [hstyles])).elim
  default := fun hne => (hne hdefault).elim

theorem refl : Announced events r r := of_unchanged rfl rfl rfl

end Announced

namespace Replica

/-- Only the paragraph with the given number is restyled. -/
theorem id_of_restyleFirst {paragraph : ParagraphRef} {style : StyleId} {l : List Paragraph}
    {i : Nat} {p p' : Paragraph} (hp : l[i]? = some p)
    (hp' : (restyleFirst paragraph style l)[i]? = some p') (hne : p'.style ≠ p.style) :
    p.id = paragraph := by
  induction l generalizing i with
  | nil => cases hp
  | cons first rest ih =>
      unfold restyleFirst at hp'
      split at hp'
      · rename_i hid
        cases i with
        | zero =>
            obtain rfl := Option.some.inj hp
            exact hid
        | succ i =>
            obtain rfl := Option.some.inj (hp.symm.trans hp')
            exact (hne rfl).elim
      · cases i with
        | zero =>
            obtain rfl := Option.some.inj hp
            obtain rfl := Option.some.inj hp'
            exact (hne rfl).elim
        | succ i => exact ih hp hp'

theorem announced_removeStyle (r : Replica) (member : MemberId) (style : StyleId)
    (family : StyleFamily) :
    Announced (r.apply (.removeStyle member style family)).2 r
      (r.apply (.removeStyle member style family)).1 := by
  have hsame := ids_apply r (.removeStyle member style family)
  simp only [apply] at hsame ⊢
  split
  · rename_i hthere
    rw [if_pos hthere] at hsame
    refine ⟨hsame, ?_, ?_, fun hne => (hne rfl).elim⟩
    · intro i p p' hp hp' hne
      have hdetached : p' = detachStyle style p := by
        have hmap : (r.document.paragraphs.map (detachStyle style))[i]? = some p' := hp'
        rw [List.getElem?_map, hp] at hmap
        exact (Option.some.inj hmap).symm
      have hattached : p.style = style := by
        by_contra hother
        rw [hdetached, detachStyle, if_neg hother] at hne
        exact hne rfl
      refine ⟨member, List.mem_append_left _ (List.mem_map.2 ⟨p, ?_, rfl⟩)⟩
      exact List.mem_filter.2 ⟨List.mem_of_getElem? hp, by simp [hattached]⟩
    · intro other hne
      simp only [withDocument, Dict.get?_erase] at hne
      by_cases hother : style = other
      · subst hother
        exact .inr (.inl (by simp))
      · exact (hne (if_neg hother)).elim
  · exact Announced.refl

theorem announced_updateParagraphStyle (r : Replica) (member : MemberId) (style : StyleId)
    (set : StyleDefinition) (removed : List String) :
    Announced (r.apply (.updateParagraphStyle member style set removed)).2 r
      (r.apply (.updateParagraphStyle member style set removed)).1 := by
  simp only [apply]
  split
  · simp only [withDocument, Document.modifyDefinition]
    split
    · rename_i hdefault
      have hid : style = .default := by
        cases style
        exact congrArg StyleId.mk (beq_iff_eq.1 hdefault)
      refine ⟨rfl, ?_, fun _ hne => (hne rfl).elim, fun _ => by simp [hid]⟩
      intro i p p' hp hp' hne
      obtain rfl := Option.some.inj (hp.symm.trans hp')
      exact (hne rfl).elim
    · refine ⟨rfl, ?_, fun other hne => ?_, fun hne => (hne rfl).elim⟩
      · intro i p p' hp hp' hne
        obtain rfl := Option.some.inj (hp.symm.trans hp')
        exact (hne rfl).elim
      · simp only [Dict.get?_modify] at hne
        by_cases hother : style = other
        · exact .inr (.inr (by simp [hother]))
        · exact (hne (if_neg hother)).elim
  · exact Announced.refl

theorem all_announced_apply (r : Replica) (op : Operation) :
    Announced (r.apply op).2 r (r.apply op).1 := by
  cases op with
  | setParagraphStyle member paragraph position style =>
      have hsame := ids_apply r (.setParagraphStyle member paragraph position style)
      simp only [apply] at hsame ⊢
      split
      · rename_i hany
        rw [if_pos hany] at hsame
        refine ⟨hsame, ?_, fun _ hne => (hne rfl).elim, fun hne => (hne rfl).elim⟩
        intro i p p' hp hp' hne
        have hid := id_of_restyleFirst hp hp' hne
        exact ⟨member, by simp [hid]⟩
      · exact Announced.refl
  | addStyle member style family properties =>
      refine ⟨rfl, ?_, ?_, fun hne => (hne rfl).elim⟩
      · intro i p p' hp hp' hne
        obtain rfl := Option.some.inj (hp.symm.trans hp')
        exact (hne rfl).elim
      · intro other hne
        simp only [apply, withDocument, Dict.get?_insert] at hne
        by_cases hother : style = other
        · exact .inl (by simp [apply, hother])
        · exact (hne (if_neg hother)).elim
  | removeStyle member style family => exact announced_removeStyle r member style family
  | updateParagraphStyle member style set removed =>
      exact announced_updateParagraphStyle r member style set removed
  | removeMember member =>
      have hdocument : (r.apply (.removeMember member)).1.document = r.document := by
        simp only [apply, document_removeRecord, document_removeCursor]
      exact Announced.of_unchanged (by rw [hdocument]) (by rw [hdocument]) (by rw [hdocument])
  | removeCursor member =>
      have hdocument : (r.apply (.removeCursor member)).1.document = r.document :=
        document_removeCursor r member
      exact Announced.of_unchanged (by rw [hdocument]) (by rw [hdocument]) (by rw [hdocument])
  | moveCursor member position anchor kind =>
      simp only [apply]
      split
      · exact Announced.of_unchanged rfl rfl rfl
      · exact Announced.refl
  | _ => exact Announced.of_unchanged rfl rfl rfl

theorem all_announced_applyAll (r : Replica) (batch : Batch) :
    Announced (r.applyAll batch).2 r (r.applyAll batch).1 := by
  induction batch generalizing r with
  | nil => exact Announced.refl
  | cons op rest ih => exact (all_announced_apply r op).trans (ih (r.apply op).1)

/-- The events of a batch name every paragraph that it restyled and every style that it
changed. -/
theorem all_announced_applyBatch (r : Replica) (batch : Batch) :
    Announced (r.applyBatch batch).2 r (r.applyBatch batch).1 := by
  have hall := all_announced_applyAll r batch
  simp only [applyBatch]
  split
  · exact hall.mono fun _ hmem => List.mem_append_left _ hmem
  · exact hall

end Replica

end Coedit
