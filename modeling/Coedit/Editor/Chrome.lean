import Coedit.Teardown

/-!
# Editor chrome

The parts of an editor that outlive single sessions. Of these only the toolbar has a state:
it knows whether a session is attached.
-/

namespace Coedit

structure Toolbar where
  attached : Bool := false
  deriving DecidableEq, Repr

namespace Toolbar

def attach (_ : Toolbar) (attached : Bool) : Toolbar := { attached }

/-- Notifies a toolbar of every flag in turn; the result holds its state after each. -/
def follow (t : Toolbar) : List Bool → List Bool
  | [] => []
  | flag :: rest => (t.attach flag).attached :: follow (t.attach flag) rest

/-- Tearing a toolbar down cannot fail. -/
def tearDown (_ : Toolbar) : Except TeardownError Unit := .ok ()

end Toolbar

/-- The parts of the chrome, in the order in which they are torn down. -/
def chromeParts : List String := ["zoom helper", "toolbar", "canvas", "container"]

def sessionParts : List String :=
  ["session view", "caret manager", "selection view manager", "input controller",
    "link tooltip view", "field view"]

end Coedit
