import Coedit.CommandLine.Transcript
import Coedit.Workspace.Execution

/-!
# The shell

The shell reads instructions line by line and carries them out on the editor of a workspace.
What goes wrong with one line is printed and leaves the next line alone. After every line the
engine applies its queue, and the events that this causes are shown.
-/

namespace Coedit.CommandLine

def helpLines : List String :=
  ["commands:",
    "  show                       list paragraphs with their styles",
    "  select <from> [<to>]       move the cursor, selecting from <from> to <to>",
    "  style <style-id>           set the paragraph style of the selection",
    "  clone <style-id> <name>    copy a style under a new display name",
    "  delete <style-id>          remove a style",
    "  styles                     list paragraph styles",
    "  fonts                      list declared and available fonts",
    "  table <rows> <columns>     insert a table at the cursor",
    "  image <href> <w> <h>       insert an image at the cursor",
    "  meta <key> [<value>]       set (or remove) a metadata property",
    "  undo | redo",
    "  quit"]

def help : String := String.intercalate "\n" helpLines

abbrev Shown := Transcript × Workspace

def perform (command : Command) (w : Workspace) : Reply × Shown :=
  let (reply, w) := w.execute command
  let (log, w) := w.takeLog
  (reply, log.filterMap shown, w)

/-- Carries out a command and then prints its reply. -/
def performing (command : Command) (print : Reply → Transcript) (w : Workspace) : Shown :=
  let (reply, events, w) := perform command w
  (events ++ (match reply with
    | .failed e => [passing (complaint e)]
    | reply => print reply), w)

def paragraphLine (p : Paragraph) : String :=
  let number := toString p.id
  let style := if p.style.isDefault then "(default)" else p.style.text
  String.ofList (List.replicate (3 - number.length) ' ') ++ number ++ " [" ++ style ++ "] "
    ++ p.text

def documentLines (d : Document) : Transcript := d.paragraphs.map fun p => say (paragraphLine p)

/-- The style under the cursor is marked. -/
def styleLine (current : Option StyleId) (s : StyleSummary) : String :=
  (if current = some s.id then "*" else " ") ++ " " ++ s.id.text ++ " (" ++ s.displayName ++ ")"

def showStyles (w : Workspace) : Shown :=
  let (state, _, w) := perform (.session (.ask .state)) w
  let current := match state with
    | .sessionState s => s.style
    | _ => none
  performing (.session (.ask .styles))
    (fun
      | .styles styles => styles.map fun s => say (styleLine current s)
      | _ => [])
    w

def showFonts (w : Workspace) : Shown :=
  let (declared, w) := performing (.session (.ask .declaredFonts))
    (fun
      | .declaredFonts fonts => fonts.map fun f => say ("declared  " ++ f.1 ++ " (" ++ f.2 ++ ")")
      | _ => [])
    w
  let (available, w) := performing (.session (.ask .availableFonts))
    (fun
      | .availableFonts families => families.map fun f => say ("available " ++ f)
      | _ => [])
    w
  (declared ++ available, w)

def printAnswer : Reply → Transcript
  | .edited (.restyled count) => [say (toString count ++ " paragraph(s) restyled")]
  | .edited (.created style) => [say ("created " ++ style.text)]
  | _ => []

def printFlag (what : String) : Reply → Transcript
  | .flag yes => [say (what ++ ": " ++ toString yes)]
  | _ => []

def edit (e : Edit) (w : Workspace) : Shown := performing (.session (.edit e)) printAnswer w

def setMetadata (set : Dict String String) (removed : List String) (w : Workspace) : Shown :=
  performing (.editor (.setMetadata set removed)) (fun _ => []) w

def follow (i : Instruction) (w : Workspace) : Shown :=
  match i with
  | .nothing | .quit => ([], w)
  | .help => ([say help], w)
  | .showDocument => (documentLines w.engine.document, w)
  | .select anchor position => edit (.moveCursor position anchor) w
  | .setStyle style => edit (.setParagraphStyle style) w
  | .clone source displayName => edit (.cloneStyle source displayName) w
  | .delete style => edit (.deleteStyle style) w
  | .styles => showStyles w
  | .fonts => showFonts w
  | .insert content => edit (.insertContent content) w
  | .setMetadata key value => setMetadata (Dict.empty.insert key value) [] w
  | .removeMetadata key => setMetadata ∅ [key] w
  | .undo => performing (.session .undo) (printFlag "undone") w
  | .redo => performing (.session .redo) (printFlag "redone") w

def flush (w : Workspace) : Shown := (perform (.engine .flush) w).2

def followLine (line : Except Complaint Instruction) (w : Workspace) : Shown :=
  let (printed, w) := match line with
    | .ok i => follow i w
    | .error c => ([passing c], w)
  let (events, w) := flush w
  (printed ++ events, w)

def prompt : Printed := ⟨.output, "> "⟩

inductive LineResult where
  | more (transcript : Transcript) (w : Workspace)
  | quit
  /-- The line is not UTF-8. -/
  | unreadable

def readLine (bytes : List UInt8) (w : Workspace) : LineResult :=
  match String.fromUTF8? ⟨bytes.toArray⟩ with
  | none => .unreadable
  | some line =>
    match Instruction.ofLine line with
    | .ok .quit => .quit
    | i =>
      let (transcript, w) := followLine i w
      .more transcript w

end Coedit.CommandLine
