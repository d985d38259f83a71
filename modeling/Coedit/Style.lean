import Coedit.Dict

/-!
# Styles

A style is identified by a text; the empty one names the document's default style. What it
sets is a definition: attributes, and properties in named groups.
-/

namespace Coedit

structure StyleId where
  text : String
  deriving DecidableEq, Repr, Inhabited

instance : Ord StyleId := ⟨fun a b => compare a.text b.text⟩

instance : Std.TransOrd StyleId where
  eq_swap := fun {a b} => show compare a.text b.text = (compare b.text a.text).swap from
    Std.OrientedCmp.eq_swap
  isLE_trans := fun {a b c} h₁ h₂ => show (compare a.text c.text).isLE from
    Std.TransCmp.isLE_trans (show (compare a.text b.text).isLE from h₁) h₂

instance : Std.LawfulEqOrd StyleId where
  compare_self := fun {a} => show compare a.text a.text = .eq from Std.ReflCmp.compare_self
  eq_of_compare := fun {a b} h => by
    cases a
    cases b
    exact congrArg StyleId.mk (Std.LawfulEqOrd.eq_of_compare h)

namespace StyleId

def default : StyleId := ⟨""⟩

def isDefault (s : StyleId) : Bool := s.text == ""

end StyleId

inductive StyleFamily where
  | paragraph
  | text
  | table
  | tableColumn
  | tableCell
  | graphic
  deriving DecidableEq, Repr

structure StyleDefinition where
  attributes : Dict String String := ∅
  properties : Dict String (Dict String String) := ∅
  deriving DecidableEq, Inhabited

namespace StyleDefinition

def setAttribute (d : StyleDefinition) (key value : String) : StyleDefinition :=
  { d with attributes := d.attributes.insert key value }

/-- Merges `values` into a property group, which is created if it is missing. -/
def extendGroup (properties : Dict String (Dict String String)) (group : String)
    (values : Dict String String) : Dict String (Dict String String) :=
  properties.insert group (((properties.get? group).getD ∅).extend values)

def setProperty (d : StyleDefinition) (group key value : String) : StyleDefinition :=
  { d with properties := extendGroup d.properties group (Dict.empty.insert key value) }

/-- Everything that `d` or `upper` sets, `upper` winning. -/
def overlay (d upper : StyleDefinition) : StyleDefinition :=
  { attributes := d.attributes.extend upper.attributes
    properties := upper.properties.toList.foldl (fun p g => extendGroup p g.1 g.2) d.properties }

/-- Removes a key from the attributes and from every property group; a group that runs empty
stays. -/
def eraseKey (d : StyleDefinition) (key : String) : StyleDefinition :=
  { attributes := d.attributes.erase key
    properties := d.properties.mapValues fun _ values => values.erase key }

end StyleDefinition

def displayNameKey : String := "style:display-name"

/-- A style of a document. Automatic styles belong to single paragraphs and are not offered
to users; they point to the style they were derived from. -/
structure Style where
  definition : StyleDefinition := {}
  parent : Option StyleId := none
  automatic : Bool := false
  deriving DecidableEq, Inhabited

/-- A style that users see, with a name of its own. -/
def Style.common (displayName : String) : Style :=
  { definition := { attributes := Dict.empty.insert displayNameKey displayName } }

structure StyleSummary where
  id : StyleId
  displayName : String
  deriving DecidableEq, Repr

end Coedit
