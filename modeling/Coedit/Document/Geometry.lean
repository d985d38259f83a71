import Coedit.Document.Basic

/-!
# Step geometry

Positions count steps: a paragraph takes one step for each of its characters and one for its
end. A paragraph of length `n` that starts at `s` therefore covers the positions from `s` to
`s + n`, and the next one starts at `s + n + 1`.
-/

namespace Coedit

structure ParagraphInfo where
  paragraph : ParagraphRef
  style : StyleId
  start : StepPosition
  deriving DecidableEq, Repr

/-- A paragraph with the positions it covers, both ends included. -/
structure Span where
  start : StepPosition
  stop : StepPosition
  paragraph : Paragraph
  deriving DecidableEq, Repr

def Span.info (s : Span) : ParagraphInfo :=
  { paragraph := s.paragraph.id, style := s.paragraph.style, start := s.start }

def Span.meets (s : Span) (range : StepPosition × StepPosition) : Bool :=
  s.start ≤ range.2 && range.1 ≤ s.stop

def Paragraph.stepLength (p : Paragraph) : Nat := p.text.length

def spansFrom (start : StepPosition) : List Paragraph → List Span
  | [] => []
  | p :: rest =>
    { start, stop := start + p.stepLength, paragraph := p } ::
      spansFrom (start + p.stepLength + 1) rest

namespace Document

def spans (d : Document) : List Span := spansFrom 0 d.paragraphs

def paragraph? (d : Document) (id : ParagraphRef) : Option ParagraphInfo :=
  (d.spans.find? (·.paragraph.id == id)).map (·.info)

def paragraphsInRange (d : Document) (range : StepPosition × StepPosition) : List ParagraphInfo :=
  (d.spans.filter (·.meets range)).map (·.info)

def paragraphAt? (d : Document) (position : StepPosition) : Option ParagraphInfo :=
  (d.paragraphsInRange (position, position)).head?

end Document

end Coedit
