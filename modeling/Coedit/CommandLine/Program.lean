import Coedit.CommandLine.Shell
import Coedit.Config.Storage
import Coedit.Text.Lines

/-!
# The command line program

The program opens one document, follows the lines of its input, and leaves the document again
when the input ends. It gives up if it cannot load its configuration, open the document or
read a line.
-/

namespace Coedit.CommandLine

/-- What the program is started with. `fresh` is the local member's identifier if none is
configured. -/
structure Invocation where
  name : String
  arguments : List String
  files : FileTree
  env : Environment
  home : String
  fresh : MemberId

/-- The program has either ended, with an exit code, or goes on with a workspace. -/
inductive Stage where
  | ended (code : Nat)
  | running (w : Workspace)

abbrev Progress := Transcript × Stage

def giveUp (printed : Printed) : Progress := ([printed], .ended 1)

def editorSpec (c : Config) (fontsCss : Option String) (fresh : MemberId) : EditorSpec :=
  { member := c.localMember fresh, options := c.editor, user := c.user, fontsCss }

/-- Carries out commands whose replies are not looked at. -/
def performAll : List Command → Workspace → Shown
  | [], w => ([], w)
  | c :: rest, w =>
    let (_, events, w) := perform c w
    let (later, w) := performAll rest w
    (events ++ later, w)

def watchAll : List Command :=
  SessionSignal.all.map fun signal => .watchSession signal "" [] 0

def openDocument (i : Invocation) (url : String) (c : Config) (fontsCss : Option String) :
    Progress :=
  let setUp : List Command :=
    [.newEditor (editorSpec c fontsCss i.fresh),
      .watchEditor .documentModifiedChanged "" [] 0, .watchEditor .unknownError "" [] 0]
  let (before, w) := performAll setUp { files := i.files }
  let (reply, events, w) := perform (.editor (.open url)) w
  match reply with
  | .failed e =>
    (before ++ events ++ [final (("could not open " ++ url) :: complaint e)], .ended 1)
  | _ =>
    let (after, w) := performAll (.engine .flush :: watchAll) w
    (before ++ events ++ after ++ [say help], .running w)

def start (i : Invocation) : Progress :=
  match i.arguments with
  | [url] =>
    match Config.load i.files i.env i.home (Config.path i.home) with
    | .error e => giveUp (warn ("Error: Failed to load config file: " ++ e.message))
    | .ok loaded =>
      let c := loaded.getD {}
      match c.loadFonts i.files with
      | .error e => giveUp (final (e.message :: e.causes))
      | .ok fontsCss => openDocument i url c fontsCss
  | _ => giveUp (warn ("Usage: " ++ i.name ++ " <document-path>"))

def finish (w : Workspace) : Progress :=
  let (closed, events, w) := perform (.editor .close) w
  match closed with
  | .failed e => (events ++ [final (complaint e)], .ended 1)
  | _ =>
    let (destroyed, later, _) := perform (.editor .destroy) w
    match destroyed with
    | .failed e => (events ++ later ++ [final (complaint e)], .ended 1)
    | _ => (events ++ later, .ended 0)

def continueWith (line : List UInt8) (w : Workspace) : Progress :=
  match readLine line w with
  | .more transcript w => (transcript, .running w)
  | .quit => finish w
  | .unreadable => giveUp (final [FileError.invalidUtf8.message])

def followLines : List (List UInt8) → Workspace → Transcript × Nat
  | [], w =>
    match finish w with
    | (transcript, .ended code) => (prompt :: transcript, code)
    | (transcript, .running _) => (prompt :: transcript, 0)
  | line :: rest, w =>
    match continueWith line w with
    | (transcript, .ended code) => (prompt :: transcript, code)
    | (transcript, .running w) =>
      let (later, code) := followLines rest w
      (prompt :: transcript ++ later, code)

/-- The whole run: what is printed, and the exit code. -/
def run (i : Invocation) (input : List UInt8) : Transcript × Nat :=
  match start i with
  | (transcript, .ended code) => (transcript, code)
  | (transcript, .running w) =>
    let (later, code) := followLines (Text.keptLinesFrom [] input) w
    (transcript ++ later, code)

end Coedit.CommandLine
