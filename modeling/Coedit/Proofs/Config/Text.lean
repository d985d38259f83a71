import Coedit.Config.Text
import Coedit.Proofs.Toml.Settings
import Coedit.Proofs.Wire.Operations

/-!
# Configurations come back from their texts

The text of a configuration is read as the fields that were written, and from these the
configuration is read: what is left out, because it has no value, is read as having none.
-/

namespace Coedit

open Toml

namespace Wire

/-! ## Fields that may be missing -/

def presentFields {α : Type} (write : α → Value) (items : List (String × Option α)) : Fields :=
  items.filterMap fun item => item.2.map fun a => (item.1, write a)

@[simp] theorem presentFields_nil {α : Type} (write : α → Value) :
    presentFields write [] = [] := rfl

@[simp] theorem presentFields_none {α : Type} (write : α → Value) (name : String)
    (items : List (String × Option α)) :
    presentFields write ((name, none) :: items) = presentFields write items := rfl

@[simp] theorem presentFields_some {α : Type} (write : α → Value) (name : String) (a : α)
    (items : List (String × Option α)) :
    presentFields write ((name, some a) :: items) =
      (name, write a) :: presentFields write items := rfl

theorem keys_presentFields {α : Type} (write : α → Value) (items : List (String × Option α)) :
    ((presentFields write items).map (·.1)).Sublist (items.map (·.1)) := by
  induction items with
  | nil => exact List.Sublist.refl _
  | cons item rest ih =>
      obtain ⟨name, a⟩ := item
      cases a with
      | none => exact ih.cons name
      | some a => exact ih.cons_cons name

theorem lookup_presentFields {α : Type} (write : α → Value) {items : List (String × Option α)}
    (hnodup : (items.map (·.1)).Nodup) {name : String} {a : Option α} (h : (name, a) ∈ items) :
    (presentFields write items).lookup name = a.map write := by
  induction items with
  | nil => cases h
  | cons item rest ih =>
      obtain ⟨k, b⟩ := item
      obtain ⟨hk, hrest⟩ := List.nodup_cons.1 hnodup
      rcases List.mem_cons.1 h with heq | hmem
      · cases heq
        cases a with
        | none =>
            refine List.lookup_eq_none_iff.2 fun f hf => ?_
            have hf' := (keys_presentFields write rest).subset (List.mem_map_of_mem hf)
            have hne : name ≠ f.1 := fun heq => hk (heq ▸ hf')
            simpa using hne
        | some a => simp
      · have hne : (name == k) = false := by
          have hname : name ≠ k := fun heq => hk (List.mem_map.2 ⟨_, hmem, heq⟩)
          simpa using hname
        cases b with
        | none => exact ih hrest hmem
        | some b => rw [presentFields_some, List.lookup_cons, hne, ih hrest hmem]

@[simp] theorem Fields.getOption_nil {α : Type} (name : String) (read : Reader α) :
    Fields.getOption [] name read = some none := rfl

/-- An optional field is read as it was written, whether it was left out or not. -/
theorem getOption_presentFields {α : Type} {read : Reader α} (write : α → Value)
    (hread : ∀ a, read (write a) = some a) (hnull : ∀ a, write a ≠ .null)
    {items : List (String × Option α)} (hnodup : (items.map (·.1)).Nodup) {name : String}
    {a : Option α} (h : (name, a) ∈ items) :
    (presentFields write items).getOption name read = some a := by
  unfold Fields.getOption Fields.getD
  rw [lookup_presentFields write hnodup h]
  cases a with
  | none => rfl
  | some a => exact readOption_ofOption (a := some a) (by simp [hread]) (by simp [hnull])

end Wire

namespace Config

open Wire

/-! ## The text as lines -/

theorem toList_textLine (key value : String) :
    (textLine key value).toList = settingChars (key, .text value) := by
  simp [textLine, settingChars, valueChars, Toml.quoted]

theorem toList_flagLine (key : String) (flag : Bool) :
    (flagLine key flag).toList = settingChars (key, .bool flag) := by
  simp [flagLine, settingChars, valueChars, flagChars]

theorem toList_optionalLine {α : Type} {line : String → α → String} {write : α → Value}
    (hline : ∀ key a, (line key a).toList = settingChars (key, write a)) (key : String)
    (a : Option α) :
    (optionalLine line key a).toList = (presentFields write [(key, a)]).flatMap settingChars := by
  cases a with
  | none => rfl
  | some a => simp [optionalLine, presentFields, hline]

def settingFields (c : Config) : Fields :=
  presentFields .text [("member_id", c.memberId), ("fonts_css", c.fontsCss)]

def editorFields (o : EditorOptions) : Fields :=
  [("modus", .text (modusName o.modus)), ("all_features_enabled", .bool o.allFeatures)] ++
    presentFields .bool (editorSwitches o)

def userFields (p : MemberProperties) : Fields :=
  [("display_name", .text p.displayName), ("color", .text p.color), ("image_ref", .text p.imageRef)]

theorem flatMap_presentFields {α : Type} (write : α → Value) (items : List (String × Option α)) :
    (presentFields write items).flatMap settingChars =
      items.flatMap fun item => (presentFields write [item]).flatMap settingChars := by
  induction items with
  | nil => rfl
  | cons item rest ih =>
      have hfront : presentFields write (item :: rest) =
          presentFields write [item] ++ presentFields write rest := by
        rw [← List.singleton_append, presentFields, List.filterMap_append]
        rfl
      rw [hfront, List.flatMap_append, ih]
      rfl

theorem toList_settingLines (c : Config) :
    c.settingLines.toList = c.settingFields.flatMap settingChars := by
  have htext := toList_optionalLine toList_textLine
  rw [settingLines, settingFields, flatMap_presentFields]
  simp [htext]

theorem toList_editorLines (o : EditorOptions) :
    (editorLines o).toList = (editorFields o).flatMap settingChars := by
  have hflag := toList_optionalLine toList_flagLine
  rw [editorLines, editorFields, List.flatMap_append, flatMap_presentFields]
  simp [toList_textLine, toList_flagLine, String.toList_join, hflag, List.flatMap_map]

theorem toList_userLines (p : MemberProperties) :
    (userLines p).toList = (userFields p).flatMap settingChars := by
  simp [userLines, userFields, toList_textLine]

def fileFields (c : Config) : Fields :=
  c.settingFields ++
    [("editor", Value.object (editorFields c.editor)), ("user", Value.object (userFields c.user))]

theorem keys_settingFields (c : Config) :
    (c.settingFields.map (·.1)).Sublist ["member_id", "fonts_css"] :=
  keys_presentFields _ _

theorem keys_editorFields (o : EditorOptions) :
    ((editorFields o).map (·.1)).Sublist editorOptionFields :=
  ((keys_presentFields .bool (editorSwitches o)).cons_cons "all_features_enabled").cons_cons "modus"

theorem keys_userFields (p : MemberProperties) :
    (userFields p).map (·.1) = ["display_name", "color", "image_ref"] := rfl

/-! ## Reading the text -/

theorem isFlat_presentFields {α : Type} {write : α → Value} {items : List (String × Option α)}
    (hwrite : ∀ a, IsFlat (write a)) : ∀ f ∈ presentFields write items, IsFlat f.2 := by
  intro f hf
  obtain ⟨item, -, hwritten⟩ := List.mem_filterMap.1 hf
  obtain ⟨a, -, rfl⟩ := Option.map_eq_some_iff.1 hwritten
  exact hwrite a

theorem isSetting_settingFields (c : Config) : ∀ f ∈ c.settingFields, IsSetting f := by
  have hbare : ∀ k ∈ ["member_id", "fonts_css"], IsBareKey k := by decide
  intro f hf
  exact ⟨hbare _ ((keys_settingFields c).subset (List.mem_map_of_mem hf)),
    isFlat_presentFields isFlat_text f hf⟩

theorem isSetting_editorFields (o : EditorOptions) : ∀ f ∈ editorFields o, IsSetting f := by
  have hbare : ∀ k ∈ editorOptionFields, IsBareKey k := by decide +kernel
  intro f hf
  refine ⟨hbare _ ((keys_editorFields o).subset (List.mem_map_of_mem hf)), ?_⟩
  rcases List.mem_append.1 hf with hf | hf
  · simp only [List.mem_cons, List.not_mem_nil, or_false] at hf
    rcases hf with rfl | rfl
    · exact isFlat_text _
    · exact isFlat_bool _
  · exact isFlat_presentFields isFlat_bool f hf

theorem isSetting_userFields (p : MemberProperties) : ∀ f ∈ userFields p, IsSetting f := by
  have hbare : ∀ k ∈ ["display_name", "color", "image_ref"], IsBareKey k := by decide
  intro f hf
  refine ⟨hbare _ (List.mem_map_of_mem (f := (·.1)) hf), ?_⟩
  simp only [userFields, List.mem_cons, List.not_mem_nil, or_false] at hf
  rcases hf with rfl | rfl | rfl <;> exact isFlat_text _

theorem dropMark_toText (c : Config) : dropMark c.toText.toList = c.toText.toList := by
  unfold toText settingLines
  cases c.memberId <;> cases c.fontsCss <;> simp [optionalLine, textLine, dropMark]

/-- The settings outside the tables come first, and a blank line behind them if there are any. -/
theorem leads_settingLines (c : Config) :
    Leads {} (if c.settingLines = "" then "" else c.settingLines ++ "\n").toList
      { entries := entriesOf c.settingFields } := by
  have hleads : Leads {} c.settingLines.toList { entries := entriesOf c.settingFields } := by
    rw [toList_settingLines]
    exact leads_settings filled_root [] (isSetting_settingFields c)
      ((keys_settingFields c).nodup (by decide))
  by_cases hempty : c.settingLines = ""
  · rw [if_pos hempty, ← hempty]
    exact hleads
  · rw [if_neg hempty, String.toList_append]
    exact hleads.append (leads_blank _)

theorem read_toText (c : Config) : Toml.read c.toText = some (.object c.fileFields) := by
  have hnew : ∀ key, key ∉ ["member_id", "fonts_css"] →
      (entriesOf c.settingFields).lookup key = none :=
    fun key hkey => lookup_entriesOf fun h => hkey ((keys_settingFields c).subset h)
  have heditor := leads_table (show IsBareKey "editor" by decide) [] (hnew _ (by decide))
    (isSetting_editorFields c.editor) ((keys_editorFields c.editor).nodup (by decide))
  have hfree : (entriesOf c.settingFields ++
      [("editor", Node.table .header (entriesOf (editorFields c.editor)))]).lookup "user" =
        none := by
    simp [List.lookup_append, hnew]
  have huser := leads_table (by decide) ["editor"] hfree (isSetting_userFields c.user)
    (by rw [keys_userFields]; decide)
  have hleads := ((leads_settingLines c).append heditor).append ((leads_blank _).append huser)
  have htext : c.toText.toList =
      (if c.settingLines = "" then "" else c.settingLines ++ "\n").toList ++
        ('[' :: ("editor".toList ++ [']', '\n']) ++
          (editorFields c.editor).flatMap settingChars) ++
        (['\n'] ++ ('[' :: ("user".toList ++ [']', '\n']) ++
          (userFields c.user).flatMap settingChars)) := by
    simp [toText, toList_editorLines, toList_userLines]
  rw [← htext] at hleads
  rw [read_of_leads (dropMark_toText c) hleads]
  simp [fileFields, fieldsOf_append, fieldsOf_entriesOf, fieldsOf, Node.toValue]

/-- Fields with known names are looked at one by one only. -/
theorem readDefaulted_object {names : List String} {fields : Fields}
    (h : ∀ k ∈ fields.map (·.1), k ∈ names) (format : Format) :
    readDefaulted format names (.object fields) = some fields := by
  refine if_pos (List.all_eq_true.2 fun f hf => ?_)
  simp [h f.1 (List.mem_map_of_mem hf)]

theorem getOption_editorFields (o : EditorOptions) :
    ∀ s ∈ editorSwitches o, (editorFields o).getOption s.1 readBool = some s.2 := by
  intro s hs
  have hnames : ∀ name ∈ (editorSwitches o).map (·.1),
      name ≠ "modus" ∧ name ≠ "all_features_enabled" := by
    simp [editorSwitches]
  obtain ⟨hmodus, hall⟩ := hnames s.1 (List.mem_map_of_mem hs)
  have hswitch : (presentFields .bool (editorSwitches o)).getOption s.1 readBool = some s.2 :=
    getOption_presentFields .bool (fun _ => rfl) (fun _ => by simp) (by simp [editorSwitches]) hs
  simpa [editorFields, hmodus, hall] using hswitch

theorem readEditorOptions_editorFields (o : EditorOptions) :
    readEditorOptions .toml (.object (editorFields o)) = some o := by
  have hfields := readDefaulted_object (fun k hk => (keys_editorFields o).subset hk) .toml
  have hmodus : (editorFields o).getD "modus" (readModus .toml) .fullEditing = some o.modus := by
    obtain ⟨modus⟩ := o
    cases modus <;> rfl
  have hall : (editorFields o).getD "all_features_enabled" readBool false = some o.allFeatures := by
    simp [editorFields, readBool]
  have hswitches := getOption_editorFields o
  simp only [editorSwitches, List.forall_mem_cons] at hswitches
  simp only [readEditorOptions, hfields, hmodus, hall, hswitches, Option.bind_eq_bind,
    Option.bind_some, Option.pure_def]

theorem readConfig_fileFields (c : Config) :
    readConfig .toml (.object c.fileFields) = some c := by
  have huser : readMemberProperties .toml (.object (userFields c.user)) = some c.user := by
    simp [readMemberProperties, userFields, readDefaulted]
  have heditor := readEditorOptions_editorFields c.editor
  obtain ⟨memberId, fontsCss, editor, user⟩ := c
  cases memberId <;> cases fontsCss <;>
    simp [readConfig, readDefaulted, fileFields, settingFields, heditor, huser, readOption]

/-- Every configuration is read back from its text. -/
theorem ofText?_toText (c : Config) : ofText? c.toText = some c := by
  rw [ofText?, read_toText, Option.bind_some, readConfig_fileFields]

end Config

end Coedit
