import Coedit.Editor.Event
import Coedit.Session.Error
import Coedit.Session.Event

/-!
# Events as text

How the command line shows the events that it hears.
-/

namespace Coedit.CommandLine

def memberText (m : MemberId) : String := "MemberId(" ++ Text.quoted m.text ++ ")"

def changeText : ParagraphChange → String
  | .style style => "Style(" ++ style.quoted ++ ")"
  | .content => "Content"

def sessionEventText : SessionEvent → String
  | .memberAdded m => "MemberAdded(" ++ memberText m ++ ")"
  | .memberUpdated m => "MemberUpdated(" ++ memberText m ++ ")"
  | .memberRemoved m => "MemberRemoved(" ++ memberText m ++ ")"
  | .cursorAdded m => "CursorAdded(" ++ memberText m ++ ")"
  | .cursorMoved m => "CursorMoved(" ++ memberText m ++ ")"
  | .cursorRemoved m => "CursorRemoved(" ++ memberText m ++ ")"
  | .paragraphChanged p change =>
    "ParagraphChanged(ParagraphChange \x7b paragraph: ParagraphRef(" ++ toString p ++ "), kind: "
      ++ changeText change ++ " \x7d)"
  | .styleCreated s => "StyleCreated(" ++ s.quoted ++ ")"
  | .styleDeleted s => "StyleDeleted(" ++ s.quoted ++ ")"
  | .styleModified s => "StyleModified(" ++ s.quoted ++ ")"
  | .undoStackChanged => "UndoStackChanged"

end Coedit.CommandLine
