import Coedit.Decimal.Reading
import Coedit.Dict

/-!
# Wire values

The values that travel between programs, and readers for their parts. A record travels as an
object, in which unknown fields are ignored, or as the list of its fields in order; a choice
travels as its name, or as an object with its name as the only key.
-/

namespace Coedit.Wire

/-- The keys of an object are distinct. -/
inductive Value where
  | null
  | bool (b : Bool)
  | int (n : Int)
  | float (x : Float)
  /-- A number that no type can hold. It may only stand where nobody looks at it. -/
  | tooLarge
  | text (s : String)
  | list (items : List Value)
  | object (fields : List (String × Value))

abbrev Reader (α : Type) := Value → Option α

/-- The text format that a value was written in. TOML has no null, and its readers look at
no more of a list than they need. -/
inductive Format where
  | json
  | toml
  deriving DecidableEq, Repr

mutual

/-- Whether all numbers in a value can be held. -/
def Value.isHeld : Value → Bool
  | .tooLarge => false
  | .list items => itemsHeld items
  | .object fields => fieldsHeld fields
  | _ => true

def itemsHeld : List Value → Bool
  | [] => true
  | v :: rest => v.isHeld && itemsHeld rest

def fieldsHeld : List (String × Value) → Bool
  | [] => true
  | (_, v) :: rest => v.isHeld && fieldsHeld rest

end

def readText : Reader String
  | .text s => some s
  | _ => none

def readBool : Reader Bool
  | .bool b => some b
  | _ => none

def readWord : Reader Nat
  | .int n => if 0 ≤ n ∧ n.toNat < Decimal.wordLimit then some n.toNat else none
  | _ => none

def readFloat : Reader Float
  | .int n => some (Float.ofInt n)
  | .float x => some x
  | _ => none

def readOption {α : Type} (read : Reader α) : Reader (Option α)
  | .null => some none
  | v => (read v).map some

def readList {α : Type} (read : Reader α) : Reader (List α)
  | .list items => items.mapM read
  | _ => none

def readDict {α : Type} (read : Reader α) : Reader (Dict String α)
  | .object fields => (fields.mapM fun f => (read f.2).map fun v => (f.1, v)).map Dict.ofList
  | _ => none

abbrev Fields := List (String × Value)

def readRecord (names : List String) : Reader Fields
  | .object fields => some fields
  | .list items => if items.length = names.length then some (names.zip items) else none
  | _ => none

/-- As `readRecord`, for records in which every field has a default: a list may be short. The
values of unknown fields are looked at before they are ignored. -/
def readDefaulted (format : Format) (names : List String) : Reader Fields
  | .object fields =>
    if fields.all fun f => names.contains f.1 || f.2.isHeld then some fields else none
  | .list items =>
    if format = .toml ∨ items.length ≤ names.length then some (names.zip items) else none
  | _ => none

namespace Fields

def get {α : Type} (fields : Fields) (name : String) (read : Reader α) : Option α :=
  (fields.lookup name).bind read

def getD {α : Type} (fields : Fields) (name : String) (read : Reader α) (default : α) :
    Option α :=
  match fields.lookup name with
  | some v => read v
  | none => some default

def getOption {α : Type} (fields : Fields) (name : String) (read : Reader α) :
    Option (Option α) :=
  fields.getD name (readOption read) none

end Fields

def readChoice : Reader (String × Value)
  | .text name => some (name, .null)
  | .object [(name, content)] => some (name, content)
  | _ => none

/-- Whether a value says that nothing comes with a name. -/
def Format.isNothing : Format → Value → Bool
  | .json, .null | .toml, .null | .toml, .object [] | .toml, .list [] => true
  | _, _ => false

def readName {α : Type} (format : Format) (names : List (String × α)) : Reader α := fun v =>
  match readChoice v with
  | some (name, content) => if format.isNothing content then names.lookup name else none
  | none => none

def ofOption {α : Type} (write : α → Value) : Option α → Value
  | some a => write a
  | none => .null

def ofWord (n : Nat) : Value := .int n

/-- Infinities and what is not a number cannot be written, and travel as null. -/
def ofFloat (x : Float) : Value := if x.isFinite then .float x else .null

def ofList {α : Type} (write : α → Value) (items : List α) : Value := .list (items.map write)

def ofDict {α : Type} (write : α → Value) (d : Dict String α) : Value :=
  .object (d.toList.map fun e => (e.1, write e.2))

def ofTexts (items : List String) : Value := ofList .text items

end Coedit.Wire
