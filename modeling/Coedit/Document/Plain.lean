import Coedit.Document.Basic
import Coedit.Text.Blank
import Coedit.Text.Lines

/-!
# Documents from plain text

Every line is a paragraph. A line may start with a style name in square brackets and a
space; each name used declares a style of that name.
-/

namespace Coedit.Document

/-- The name between brackets at the start of a line, without blanks around it, and the text
behind it. A line without such a name, or with a blank one, is plain. -/
def styledLine? (line : List Char) : Option (List Char × List Char) :=
  match line with
  | '[' :: rest =>
    match rest.dropWhile (· ≠ ']') with
    | ']' :: body =>
      let name := Text.trimChars (rest.takeWhile (· ≠ ']'))
      let body := match body with
        | ' ' :: body => body
        | body => body
      if name.isEmpty then none else some (name, body)
    | _ => none
  | _ => none

/-- Declares a style under its own name, unless the document has it. -/
def declareStyle (d : Document) (name : String) : Document :=
  if d.styles.contains ⟨name⟩ then d else d.addCommonStyle ⟨name⟩ name

def addLine (d : Document) (line : String) : Document :=
  match styledLine? line.toList with
  | some (name, body) =>
    (d.declareStyle (String.ofList name)).addParagraph (String.ofList body) ⟨String.ofList name⟩
  | none => d.addParagraph line .default

def ofText (text : String) : Document := (Text.lines text).foldl addLine {}

end Coedit.Document
