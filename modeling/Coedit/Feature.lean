/-!
# Editor options and features

Which features an editor offers follows from its options: one switch for all features, one
optional switch for each, and a review mode that locks styles and images and forces
annotations.
-/

namespace Coedit

inductive Modus where
  | fullEditing
  | review
  deriving DecidableEq, Repr

structure EditorOptions where
  modus : Modus := .fullEditing
  allFeatures : Bool := false
  directTextStyling : Option Bool := none
  directParagraphStyling : Option Bool := none
  paragraphStyleSelecting : Option Bool := none
  paragraphStyleEditing : Option Bool := none
  imageEditing : Option Bool := none
  hyperlinkEditing : Option Bool := none
  annotations : Option Bool := none
  undoRedo : Option Bool := none
  zooming : Option Bool := none
  deriving DecidableEq, Repr, Inhabited

structure FeatureSet where
  reviewMode : Bool
  directTextStyling : Bool
  directParagraphStyling : Bool
  paragraphStyleSelecting : Bool
  paragraphStyleEditing : Bool
  imageEditing : Bool
  hyperlinkEditing : Bool
  annotations : Bool
  undoRedo : Bool
  zooming : Bool
  deriving DecidableEq, Repr, Inhabited

namespace EditorOptions

def withAllFeatures : EditorOptions := { allFeatures := true }

/-- With all features on, a switch can only turn its feature off, and otherwise only on. -/
def enables (o : EditorOptions) (switch : Option Bool) : Bool :=
  switch.getD o.allFeatures

def features (o : EditorOptions) : FeatureSet :=
  let review := o.modus == .review
  { reviewMode := review
    directTextStyling := o.enables o.directTextStyling
    directParagraphStyling := o.enables o.directParagraphStyling
    paragraphStyleSelecting := !review && o.enables o.paragraphStyleSelecting
    paragraphStyleEditing := !review && o.enables o.paragraphStyleEditing
    imageEditing := !review && o.enables o.imageEditing
    hyperlinkEditing := o.enables o.hyperlinkEditing
    annotations := review || o.enables o.annotations
    undoRedo := o.enables o.undoRedo
    zooming := o.enables o.zooming }

end EditorOptions

def FeatureSet.all : FeatureSet := EditorOptions.withAllFeatures.features

end Coedit
