import Coedit.Document.Basic

/-!
# The style graph

Styles point to parents, and nothing keeps these pointers from dangling or running in a
circle. A style's chain follows them until they stop, repeat or leave the document, and all
questions about inheritance are answered from the chain.
-/

namespace Coedit.Document

/-- Follows parents from `next`; each style is listed once, so as many steps as there are
styles are enough. -/
def chainFrom (styles : Dict StyleId Style) : Nat → List StyleId → Option StyleId → List StyleId
  | 0, _, _ => []
  | _ + 1, _, none => []
  | steps + 1, seen, some id =>
    if id.isDefault || seen.contains id then []
    else match styles.get? id with
      | none => []
      | some s => id :: chainFrom styles steps (id :: seen) s.parent

def parentChain (d : Document) (style : StyleId) : List StyleId :=
  chainFrom d.styles (d.styles.size + 1) [] (some style)

def isCommon (d : Document) (style : StyleId) : Bool :=
  (d.styles.get? style).any fun s => !s.automatic

/-- The first style of the chain that users see. -/
def commonStyleName (d : Document) (style : StyleId) : Option StyleId :=
  (d.parentChain style).find? d.isCommon

def chainDefinitions (d : Document) (style : StyleId) : List StyleDefinition :=
  (d.parentChain style).reverse.filterMap fun id => (d.styles.get? id).map (·.definition)

/-- Everything that a style sets or inherits, a nearer definition winning. -/
def inheritedAttributes (d : Document) (style : StyleId) (includeDefault : Bool) :
    Option StyleDefinition :=
  if (d.parentChain style).isEmpty && !style.isDefault then none
  else
    let base := if includeDefault then d.defaultStyle else {}
    some ((d.chainDefinitions style).foldl StyleDefinition.overlay base)

def isStyleUsed (d : Document) (style : StyleId) : Bool :=
  d.paragraphs.any fun p => (d.parentChain p.style).contains style

end Coedit.Document
