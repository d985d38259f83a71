import Coedit.Proofs.Dict
import Coedit.Wire.Operation

/-!
# Operations come back from the wire

Every operation can be read back from the value that it is written as, whatever its dictionaries,
lists and contents hold. Two things of the wire are narrower than the types here: whole numbers have
64 bits, and floats are finite.
-/

namespace Coedit

/-- A number that fits 64 bits. -/
def IsWord (n : Nat) : Prop := n < Decimal.wordLimit

instance (n : Nat) : Decidable (IsWord n) := inferInstanceAs (Decidable (n < Decimal.wordLimit))

/-- Content whose numbers can be written. -/
def StructuredContent.Writable : StructuredContent → Prop
  | .table t => IsWord t.rows ∧ IsWord t.columns
  | .image i => i.width.isFinite = true ∧ i.height.isFinite = true

def Operation.Writable : Operation → Prop
  | moveCursor _ position anchor _ => IsWord position ∧ IsWord anchor
  | setParagraphStyle _ paragraph position _ => IsWord paragraph ∧ IsWord position
  | insertStructuredContent _ position content => IsWord position ∧ content.Writable
  | _ => True

namespace Wire

/-! ## Scalars and containers -/

@[simp] theorem readText_text (s : String) : readText (.text s) = some s := rfl

@[simp] theorem readMemberId_ofMemberId (id : MemberId) : readMemberId (ofMemberId id) = some id :=
  rfl

@[simp] theorem readStyleId_ofStyleId (id : StyleId) : readStyleId (ofStyleId id) = some id := rfl

attribute [simp] readSelectionKind_ofSelectionKind readStyleFamily_ofStyleFamily

theorem readWord_ofWord {n : Nat} (h : IsWord n) : readWord (ofWord n) = some n := by
  have hword : (0 : Int) ≤ n ∧ (n : Int).toNat < Decimal.wordLimit :=
    ⟨Int.natCast_nonneg n, by rwa [Int.toNat_natCast]⟩
  calc readWord (ofWord n) = some (n : Int).toNat := if_pos hword
    _ = some n := congrArg some (Int.toNat_natCast n)

theorem readFloat_ofFloat {x : Float} (h : x.isFinite = true) : readFloat (ofFloat x) = some x := by
  simp only [ofFloat, h, if_true, readFloat]

/-- What is not null is read back as something that is there. -/
theorem readOption_ofOption {α : Type} {read : Reader α} {write : α → Value} {a : Option α}
    (hread : ∀ x ∈ a, read (write x) = some x) (hnull : ∀ x ∈ a, write x ≠ .null) :
    readOption read (ofOption write a) = some a := by
  cases a with
  | none => rfl
  | some x =>
      have hx := hnull x rfl
      unfold ofOption readOption
      split
      · rename_i heq
        exact absurd heq hx
      · rw [hread x rfl]
        rfl

/-- Items that are read back one by one are read back together. -/
theorem mapM_map {α β : Type} {read : β → Option α} {write : α → β} {items : List α}
    (h : ∀ x ∈ items, read (write x) = some x) : (items.map write).mapM read = some items := by
  induction items with
  | nil => rfl
  | cons x rest ih =>
      rw [List.map_cons, List.mapM_cons, h x List.mem_cons_self,
        ih fun y hy => h y (List.mem_cons_of_mem x hy)]
      rfl

theorem readList_ofList {α : Type} {read : Reader α} {write : α → Value} {items : List α}
    (h : ∀ x ∈ items, read (write x) = some x) : readList read (ofList write items) = some items :=
  mapM_map h

end Wire

theorem Dict.ofList_toList {κ α : Type} [Ord κ] [Std.TransOrd κ] [Std.LawfulEqOrd κ]
    [DecidableEq κ] (d : Dict κ α) : ofList d.toList = d := by
  refine ext_get? fun k => ?_
  have hextend : (ofList d.toList).get? k = _ := get?_extend empty d k
  rw [hextend, get?_empty, Option.or_none]

namespace Wire

/-- The entries of a dictionary travel in its own order. -/
theorem readDict_ofDict {α : Type} {read : Reader α} {write : α → Value} {d : Dict String α}
    (h : ∀ e ∈ d.toList, read (write e.2) = some e.2) :
    readDict read (ofDict write d) = some d := by
  have hentries : (d.toList.map fun e => (e.1, write e.2)).mapM
      (fun f => (read f.2).map fun v => (f.1, v)) = some d.toList :=
    mapM_map fun e he => by rw [h e he, Option.map_some]
  calc readDict read (ofDict write d)
      = (some d.toList).map Dict.ofList := congrArg (Option.map Dict.ofList) hentries
    _ = some d := congrArg some (Dict.ofList_toList d)

@[simp] theorem readTextDict_ofTextDict (d : Dict String String) :
    readTextDict (ofTextDict d) = some d :=
  readDict_ofDict fun _ _ => rfl

@[simp] theorem readTexts_ofTexts (items : List String) :
    readList readText (ofTexts items) = some items :=
  readList_ofList fun _ _ => rfl

/-! ## Records -/

@[simp] theorem readRecord_object (names : List String) (fields : Fields) :
    readRecord names (.object fields) = some fields := rfl

/-- A field is found behind those with other names. -/
@[simp] theorem Fields.get_cons {α : Type} (key name : String) (v : Value) (fields : Fields)
    (read : Reader α) :
    Fields.get ((key, v) :: fields) name read =
      if name = key then read v else fields.get name read := by
  unfold Fields.get
  rw [List.lookup_cons]
  by_cases h : name = key
  · rw [if_pos h, beq_iff_eq.2 h]
    rfl
  · rw [if_neg h, beq_false_of_ne h]

@[simp] theorem Fields.getD_cons {α : Type} (key name : String) (v : Value) (fields : Fields)
    (read : Reader α) (default : α) :
    Fields.getD ((key, v) :: fields) name read default =
      if name = key then read v else fields.getD name read default := by
  unfold Fields.getD
  rw [List.lookup_cons]
  by_cases h : name = key
  · rw [if_pos h, beq_iff_eq.2 h]
  · rw [if_neg h, beq_false_of_ne h]

@[simp] theorem Fields.getOption_cons {α : Type} (key name : String) (v : Value) (fields : Fields)
    (read : Reader α) :
    Fields.getOption ((key, v) :: fields) name read =
      if name = key then readOption read v else fields.getOption name read :=
  Fields.getD_cons ..

theorem readMemberProperties_ofMemberProperties (p : MemberProperties) :
    readMemberProperties .json (ofMemberProperties p) = some p := by
  simp [readMemberProperties, ofMemberProperties, readDefaulted]

theorem readStyleDefinition_ofStyleDefinition (d : StyleDefinition) :
    readStyleDefinition (ofStyleDefinition d) = some d := by
  have hgroups : readDict readTextDict (ofDict ofTextDict d.properties) = some d.properties :=
    readDict_ofDict fun e _ => readTextDict_ofTextDict e.2
  simp [readStyleDefinition, ofStyleDefinition, hgroups]

theorem readTableParams_ofTableParams {t : TableParams} (hrows : IsWord t.rows)
    (hcolumns : IsWord t.columns) : readTableParams (ofTableParams t) = some t := by
  have hstyle : ∀ s : Option StyleId, readOption readStyleId (ofOption ofStyleId s) = some s :=
    fun s => readOption_ofOption (fun _ _ => rfl) fun _ _ => nofun
  have hcells : readOption (readList (readList readStyleId))
      (ofOption (ofList (ofList ofStyleId)) t.cellStyles) = some t.cellStyles :=
    readOption_ofOption
      (fun _ _ => readList_ofList fun _ _ => readList_ofList fun _ _ => rfl) fun _ _ => nofun
  simp [readTableParams, ofTableParams, readWord_ofWord hrows, readWord_ofWord hcolumns, hstyle,
    hcells]

theorem readImageParams_ofImageParams {i : ImageParams} (hwidth : i.width.isFinite = true)
    (hheight : i.height.isFinite = true) : readImageParams (ofImageParams i) = some i := by
  simp [readImageParams, ofImageParams, readFloat_ofFloat hwidth, readFloat_ofFloat hheight]

theorem readContent_ofContent {c : StructuredContent} (h : c.Writable) :
    readContent (ofContent c) = some c := by
  cases c with
  | table t =>
      have hparams := readTableParams_ofTableParams h.1 h.2
      simp [ofContent, readContent, readChoice, hparams]
  | image i =>
      have hparams := readImageParams_ofImageParams h.1 h.2
      simp [ofContent, readContent, readChoice, hparams]

/-! ## Operations -/

/-- What is written under the name of an operation is given to the reader of that name. -/
theorem readOperation_ofOperation {op : Operation} {read : Reader Operation}
    (hread : operationReader? op.name = some read) :
    readOperation (ofOperation op) =
      read (.object (("member_id", ofMemberId op.member) :: operationFields op)) := by
  simp [readOperation, ofOperation, readChoice, hread]

/-- The member stands first in every record. -/
@[simp] theorem memberField_cons (member : MemberId) (fields : Fields) :
    memberField (("member_id", ofMemberId member) :: fields) = some member := by
  simp [memberField]

theorem readMemberOnly_object (make : MemberId → Operation) (member : MemberId) :
    readMemberOnly make (.object [("member_id", ofMemberId member)]) = some (make member) := by
  simp [readMemberOnly]

/-- Every operation whose numbers can be written is read back as it was. -/
theorem operations_come_back {op : Operation} (h : op.Writable) :
    readOperation (ofOperation op) = some op := by
  cases op with
  | removeMember member | addCursor member | removeCursor member =>
      rw [readOperation_ofOperation rfl]
      exact readMemberOnly_object _ member
  | addMember member properties =>
      have hproperties := readMemberProperties_ofMemberProperties properties
      rw [readOperation_ofOperation rfl]
      simp [readAddMember, Operation.member, operationFields, hproperties]
  | moveCursor member position anchor kind =>
      have hposition := readWord_ofWord h.1
      have hanchor := readWord_ofWord h.2
      rw [readOperation_ofOperation rfl]
      simp [readMoveCursor, Operation.member, operationFields, hposition, hanchor]
  | setParagraphStyle member paragraph position style =>
      have hparagraph := readWord_ofWord h.1
      have hposition := readWord_ofWord h.2
      rw [readOperation_ofOperation rfl]
      simp [readSetParagraphStyle, Operation.member, operationFields, hparagraph, hposition]
  | addStyle member style family properties =>
      have hproperties := readStyleDefinition_ofStyleDefinition properties
      rw [readOperation_ofOperation rfl]
      simp [readAddStyle, Operation.member, operationFields, hproperties]
  | removeStyle member style family =>
      rw [readOperation_ofOperation rfl]
      simp [readRemoveStyle, Operation.member, operationFields]
  | updateParagraphStyle member style set removed =>
      have hset := readStyleDefinition_ofStyleDefinition set
      rw [readOperation_ofOperation rfl]
      simp [readUpdateParagraphStyle, Operation.member, operationFields, hset]
  | insertStructuredContent member position content =>
      have hposition := readWord_ofWord h.1
      have hcontent := readContent_ofContent h.2
      rw [readOperation_ofOperation rfl]
      simp [readInsertContent, Operation.member, operationFields, hposition, hcontent]
  | updateMetadata member set removed =>
      rw [readOperation_ofOperation rfl]
      simp [readUpdateMetadata, Operation.member, operationFields]

/-- A table at the largest position with names that are empty or hold a quote, and an image that is
a tenth wide. -/
theorem inserted_content_comes_back :
    let table : Operation := .insertStructuredContent ⟨"m"⟩ (Decimal.wordLimit - 1)
      (.table { rows := 2, columns := 1, tableStyle := some ⟨""⟩,
                cellStyles := some [[⟨"a"⟩], [⟨"\""⟩]] })
    let image : Operation := .insertStructuredContent ⟨""⟩ 0
      (.image { href := "", width := 0.1, height := 4.5 })
    (table.Writable ∧ readOperation (ofOperation table) = some table) ∧
      image.Writable ∧ readOperation (ofOperation image) = some image := by
  intro table image
  have htable : table.Writable := ⟨by decide, by decide, by decide⟩
  have himage : image.Writable := ⟨by decide, by decide, by decide⟩
  exact ⟨⟨htable, operations_come_back htable⟩, himage, operations_come_back himage⟩

end Wire

end Coedit
