import Coedit.Text.Alphanumeric

/-!
# Path expansion

Paths in a configuration may name variables, as `$NAME` or `${NAME}`, and may start with a
tilde for the home directory. A path is first cut into pieces; the pieces are then filled in.
-/

namespace Coedit

abbrev Environment := String → Option String

/-- A piece of a path. A variable in braces may have a default, for when it is empty or not
set. -/
inductive PathPiece where
  | literal (text : String)
  | variable (name : String)
  | braced (name : String) (default : Option String)
  deriving DecidableEq, Repr

namespace PathPiece

def isNameChar (c : Char) : Bool := Text.isAlphanumeric c || c == '_'

/-- Splits at the first `:-`. -/
def splitDefault : List Char → List Char × Option (List Char)
  | ':' :: '-' :: rest => ([], some rest)
  | c :: rest =>
    let (name, default) := splitDefault rest
    (c :: name, default)
  | [] => ([], none)

/-- What stands between braces: a name, and its default if the name is not empty. -/
def ofBraced (inside : List Char) : PathPiece :=
  match splitDefault inside with
  | (c :: name, some default) => .braced (String.ofList (c :: name)) (String.ofList default)
  | _ => .braced (String.ofList inside) none

theorem length_dropWhile_le (p : Char → Bool) (s : List Char) :
    (s.dropWhile p).length ≤ s.length :=
  (List.dropWhile_suffix p).length_le

/-- The pieces of a path. Two dollar signs stand for one; a dollar sign before anything that
is no name, and a brace that is never closed, stand for themselves. -/
def ofChars : List Char → List PathPiece
  | [] => []
  | '$' :: '$' :: rest => .literal "$" :: ofChars rest
  | '$' :: '\x7b' :: rest =>
    match _h : rest.dropWhile (· ≠ '\x7d') with
    | _ :: after => ofBraced (rest.takeWhile (· ≠ '\x7d')) :: ofChars after
    | [] => .literal "$\x7b" :: ofChars rest
  | '$' :: c :: rest =>
    if isNameChar c then
      .variable (String.ofList (c :: rest.takeWhile isNameChar)) ::
        ofChars (rest.dropWhile isNameChar)
    else .literal "$" :: ofChars (c :: rest)
  | c :: rest => .literal c.toString :: ofChars rest
  termination_by s => s.length
  decreasing_by
    all_goals simp only [List.length_cons]
    · omega
    · have := length_dropWhile_le (fun c => decide (c ≠ '\x7d')) rest
      rw [_h, List.length_cons] at this
      omega
    · omega
    · have := length_dropWhile_le isNameChar rest
      omega
    · omega
    · omega

def ofPath (path : String) : List PathPiece := ofChars path.toList

def variableNames (pieces : List PathPiece) : List String :=
  pieces.filterMap fun
    | .variable name | .braced name _ => some name
    | .literal _ => none

/-- The text of a piece. A variable must be set, unless it has a default; one in braces that
is set but empty, and has no default, stays as it is written. -/
def value (env : Environment) : PathPiece → Option String
  | .literal text => some text
  | .variable name => env name
  | .braced name default =>
    match env name, default with
    | some "", none => some ("$\x7b" ++ name ++ "\x7d")
    | some "", some default | none, some default => some default
    | value, _ => value

def fill (env : Environment) (pieces : List PathPiece) : Option String :=
  (pieces.mapM (value env)).map String.join

end PathPiece

/-- Replaces a tilde that stands for the home directory. -/
def expandTilde (home path : String) : String :=
  match path.toList with
  | ['~'] => home
  | '~' :: '/' :: rest => home ++ "/" ++ String.ofList rest
  | _ => path

/-- Expands the variables of a path, then its tilde, unless a variable brought the tilde. A
path with a variable that has no value stays as it is. -/
def expandPath (env : Environment) (home path : String) : String :=
  match PathPiece.fill env (PathPiece.ofPath path) with
  | none => path
  | some filled =>
    if !path.startsWith "~" && filled.startsWith "~" then filled else expandTilde home filled

end Coedit
