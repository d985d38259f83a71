import Coedit.Content
import Coedit.Decimal.Reading
import Coedit.Member

/-!
# Instructions

What a user can type, one instruction a line. The words of a line are separated by blanks,
and words that an instruction does not need are ignored.
-/

namespace Coedit.CommandLine

inductive Instruction where
  | nothing
  | quit
  | help
  | showDocument
  | select (anchor position : StepPosition)
  | setStyle (style : StyleId)
  | clone (source : StyleId) (displayName : String)
  | delete (style : StyleId)
  | styles
  | fonts
  | insert (content : StructuredContent)
  | setMetadata (key value : String)
  | removeMetadata (key : String)
  | undo
  | redo

/-- What went wrong, and what caused it. -/
abbrev Complaint := List String

namespace Instruction

def missing (what : String) : Complaint := ["missing " ++ what]

def position (word : String) : Except Complaint StepPosition :=
  match Decimal.readWord word with
  | .ok n => .ok n
  | .error fault => .error ["'" ++ word ++ "' is not a step position", fault.message]

def wholeNumber (word : String) : Except Complaint Nat :=
  match Decimal.readWord word with
  | .ok n => .ok n
  | .error fault => .error [fault.message]

def decimal (word : String) : Except Complaint Float :=
  match Decimal.readFloat word with
  | .ok x => .ok x
  | .error fault => .error [fault.message]

def ofSelect : List String → Except Complaint Instruction
  | [] => .error (missing "position")
  | [at_] => do
    let at_ ← position at_
    pure (.select at_ at_)
  | first :: second :: _ => do
    let anchor ← position first
    let position ← position second
    pure (.select anchor position)

def ofClone : List String → Except Complaint Instruction
  | [] => .error (missing "source style")
  | [_] => .error (missing "display name")
  | source :: name => .ok (.clone ⟨source⟩ (String.intercalate " " name))

def ofTable : List String → Except Complaint Instruction
  | [] => .error (missing "rows")
  | rows :: rest => do
    let rows ← wholeNumber rows
    match rest with
    | [] => throw (missing "columns")
    | columns :: _ =>
      let columns ← wholeNumber columns
      pure (.insert (.table { rows, columns }))

def ofImage : List String → Except Complaint Instruction
  | [] => .error (missing "href")
  | [_] => .error (missing "width")
  | href :: width :: rest => do
    let width ← decimal width
    match rest with
    | [] => throw (missing "height")
    | height :: _ =>
      let height ← decimal height
      pure (.insert (.image { href, width, height }))

def ofMeta : List String → Except Complaint Instruction
  | [] => .error (missing "key")
  | [key] => .ok (.removeMetadata key)
  | key :: value => .ok (.setMetadata key (String.intercalate " " value))

def ofWords : List String → Except Complaint Instruction
  | [] => .ok .nothing
  | command :: rest =>
    match command with
    | "quit" | "exit" => .ok .quit
    | "help" => .ok .help
    | "show" => .ok .showDocument
    | "select" => ofSelect rest
    | "style" => .ok (.setStyle ⟨rest.headD ""⟩)
    | "clone" => ofClone rest
    | "delete" =>
      match rest with
      | style :: _ => .ok (.delete ⟨style⟩)
      | [] => .error (missing "style")
    | "styles" => .ok .styles
    | "fonts" => .ok .fonts
    | "table" => ofTable rest
    | "image" => ofImage rest
    | "meta" => ofMeta rest
    | "undo" => .ok .undo
    | "redo" => .ok .redo
    | other => .error ["unknown command '" ++ other ++ "', try 'help'"]

def ofLine (line : String) : Except Complaint Instruction := ofWords (Text.words line)

end Instruction

end Coedit.CommandLine
