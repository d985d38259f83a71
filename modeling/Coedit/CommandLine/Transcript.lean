import Coedit.CommandLine.EventText
import Coedit.CommandLine.Instruction
import Coedit.Text.Quoted
import Coedit.Workspace.Reply

/-!
# Transcripts

What the command line prints, in order, and how it words errors: on one line while it goes
on, and with the causes listed when it gives up.
-/

namespace Coedit.CommandLine

inductive Channel where
  | output
  | errors
  deriving DecidableEq, Repr

structure Printed where
  channel : Channel
  text : String
  deriving DecidableEq, Repr

abbrev Transcript := List Printed

def say (line : String) : Printed := ⟨.output, line ++ "\n"⟩

def warn (line : String) : Printed := ⟨.errors, line ++ "\n"⟩

def Transcript.on (t : Transcript) (channel : Channel) : String :=
  String.join ((t.filter (·.channel == channel)).map (·.text))

def shown : LogEntry → Option Printed
  | .observer (.heard _ (.session event)) => some (say ("  > " ++ sessionEventText event))
  | .observer (.heard _ (.editor (.documentModifiedChanged modified))) =>
    some (say ("  > DocumentModifiedChanged(" ++ toString modified ++ ")"))
  | .observer (.heard _ (.editor (.unknownError text))) =>
    some (warn ("  ! UnknownError(" ++ Text.quoted text ++ ")"))
  | _ => none

def complaint : Failure → Complaint
  | .engine e => e.message :: e.causes
  | .session e => e.message :: e.causes
  | .editor e => e.message :: e.causes
  | .teardown e => e.message :: e.causes

/-- A complaint about one line; the command line goes on. -/
def passing (c : Complaint) : Printed := warn ("Error: " ++ String.intercalate ": " c)

/-- Puts `first` before the first line of a text and `other` before the others. -/
def indent (first other text : String) : String :=
  first ++ String.intercalate ("\n" ++ other) (text.splitOn "\n")

/-- The numbers of causes stand in five columns. -/
def numbered (n : Nat) (cause : String) : String :=
  let number := toString n
  indent (String.ofList (List.replicate (5 - number.length) ' ') ++ number ++ ": ") "       " cause

def causeLines : List String → List String
  | [cause] => [indent "    " "    " cause]
  | causes => causes.mapIdx numbered

def final : Complaint → Printed
  | [] => warn "Error: "
  | [text] => warn ("Error: " ++ text)
  | text :: causes =>
    warn ("Error: " ++ text ++ "\n\nCaused by:\n" ++ String.intercalate "\n" (causeLines causes))

end Coedit.CommandLine
