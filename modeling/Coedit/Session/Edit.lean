import Coedit.Session.Basic
import Coedit.Session.Error

/-!
# Edits

What the local member can ask a session to do. An edit is turned into one batch of
operations, or refused, by looking at the engine's replica; submitting the batch is the last
thing that can fail.
-/

namespace Coedit

inductive Edit where
  | updateMember (properties : MemberProperties)
  | moveCursor (position anchor : StepPosition)
  | setParagraphStyle (style : StyleId)
  | updateParagraphStyle (style : StyleId) (set : StyleDefinition) (removed : List String)
  | cloneStyle (source : StyleId) (displayName : String)
  | deleteStyle (style : StyleId)
  | insertContent (content : StructuredContent)

inductive EditAnswer where
  | done
  | restyled (paragraphs : Nat)
  | created (style : StyleId)
  deriving DecidableEq, Repr

/-- A batch to submit, the identifier to reserve for it, and the answer. An empty batch is
not submitted. -/
structure Proposal where
  batch : Batch
  reserve : Option StyleId := none
  answer : EditAnswer := .done

/-- The attributes that a copy does not take over from its source. -/
def identityAttributes : List String := ["style:name", "style:family", displayNameKey]

/-- What a copy of a style sets: all that the source sets itself, under a new name. -/
def StyleDefinition.renamed (d : StyleDefinition) (displayName : String) : StyleDefinition :=
  { d with
    attributes := (identityAttributes.foldl Dict.erase d.attributes).insert
      displayNameKey displayName }

namespace SessionCore

/-- The identifiers that a new style must not have. -/
def takenStyles (s : SessionCore) (r : Replica) : Identifier.Namespace :=
  .names ((s.reserved ++ r.document.styles.keys).map (·.text))

def freshStyleId (s : SessionCore) (r : Replica) (displayName : String) :
    Except Identifier.IdentifierError StyleId :=
  (Identifier.uniqueWithin (s.takenStyles r) (Identifier.synthesize displayName) s.salt).map
    StyleId.mk

def proposeClone (s : SessionCore) (r : Replica) (source : StyleId) (displayName : String) :
    Except SessionError Proposal :=
  match r.document.definition? source with
  | none => .error (.unknownStyle source)
  | some definition =>
    match s.freshStyleId r displayName with
    | .error cause => .error (.identifier cause)
    | .ok id => .ok
      { batch := [.addStyle s.member id .paragraph (definition.renamed displayName)]
        reserve := some id
        answer := .created id }

def proposeRestyle (s : SessionCore) (r : Replica) (style : StyleId) : Proposal :=
  let others := (r.paragraphsInSelection s.member).filter (·.style ≠ style)
  { batch := others.map fun info => .setParagraphStyle s.member info.paragraph info.start style
    answer := .restyled others.length }

def proposeInsert (s : SessionCore) (r : Replica) (content : StructuredContent) :
    Except SessionError Proposal :=
  match content.validate with
  | .error fault => .error (.invalidParameters content.kind fault)
  | .ok () =>
    match s.cursor? r with
    | none => .error (.invalidParameters content.kind .noCursor)
    | some cursor =>
      .ok { batch := [.insertStructuredContent s.member cursor.position content] }

def propose (s : SessionCore) (r : Replica) : Edit → Except SessionError Proposal
  | .updateMember properties => .ok { batch := [.addMember s.member properties] }
  | .moveCursor position anchor =>
    let kind := if position = anchor then .collapsed else .range
    .ok { batch := [.moveCursor s.member position anchor kind] }
  | .setParagraphStyle style => .ok (s.proposeRestyle r style)
  | .updateParagraphStyle style set removed =>
    .ok { batch := [.updateParagraphStyle s.member style set removed] }
  | .cloneStyle source displayName => s.proposeClone r source displayName
  | .deleteStyle style => .ok { batch := [.removeStyle s.member style .paragraph] }
  | .insertContent content => s.proposeInsert r content

end SessionCore

end Coedit
