import Coedit.Wire.Value

/-!
# Building TOML tables

A document defines its tables piece by piece, under headers and by dotted keys, and may define
nothing twice. A table therefore remembers how it came about while the document is read.
-/

namespace Coedit.Toml

open Coedit.Wire (Value)

/-- How a table came about: by a header of its own, as the parent of something under a longer
header, or by a dotted key. -/
inductive Origin where
  | header
  | implied
  | dotted
  deriving DecidableEq, Repr

/-- What a key stands for. Of an array of tables the last one comes first. -/
inductive Node where
  | value (v : Value)
  | table (origin : Origin) (entries : List (String × Node))
  | tables (items : List (List (String × Node)))

abbrev Entries := List (String × Node)

mutual

def Node.toValue : Node → Value
  | .value v => v
  | .table _ entries => .object (fieldsOf entries)
  | .tables items => .list (objectsOf items).reverse

def fieldsOf : List (String × Node) → List (String × Value)
  | [] => []
  | (key, node) :: rest => (key, node.toValue) :: fieldsOf rest

def objectsOf : List (List (String × Node)) → List Value
  | [] => []
  | entries :: rest => .object (fieldsOf entries) :: objectsOf rest

end

namespace Entries

def put (key : String) (node : Node) : Entries → Entries
  | [] => [(key, node)]
  | (k, n) :: rest => if k = key then (key, node) :: rest else (k, n) :: put key node rest

/-- Goes down a path and changes the table at its end. Tables that are missing are made, and
of an array of tables the last one is entered. A dotted key does not reach into tables that
have a header of their own. -/
def descend (viaDots : Bool) (change : Origin → Entries → Option (Origin × Entries)) :
    List String → Origin → Entries → Option (Origin × Entries)
  | [], origin, entries => change origin entries
  | key :: path, origin, entries => do
    let node ← match entries.lookup key with
      | none => do
        let made := if viaDots then Origin.dotted else .implied
        let (o, es) ← descend viaDots change path made []
        pure (.table o es)
      | some (.value _) => none
      | some (.table o es) =>
        if viaDots && o == .header then none
        else do
          let (o, es) ← descend viaDots change path o es
          pure (.table o es)
      | some (.tables (current :: older)) => do
        let (_, current) ← descend viaDots change path .header current
        pure (.tables (current :: older))
      | some (.tables []) => none
    pure (origin, put key node entries)

/-- Adds a value under a dotted key. All tables but the one in which the key stands must come
from dotted keys. -/
def insertAt (path : List String) (key : String) (v : Value) (origin : Origin)
    (entries : Entries) : Option (Origin × Entries) :=
  descend true
    (fun origin entries =>
      if (!path.isEmpty && origin != .dotted) || (entries.lookup key).isSome then none
      else some (origin, put key (.value v) entries))
    path origin entries

/-- Opens the table of a header; it may have been implied before. -/
def openTable (path : List String) (key : String) (entries : Entries) : Option Entries := do
  let (_, entries) ← descend false
    (fun origin entries =>
      match entries.lookup key with
      | none => some (origin, put key (.table .header []) entries)
      | some (.table .implied es) => some (origin, put key (.table .header es) entries)
      | some _ => none)
    path .header entries
  pure entries

def openNext (path : List String) (key : String) (entries : Entries) : Option Entries := do
  let (_, entries) ← descend false
    (fun origin entries =>
      match entries.lookup key with
      | none => some (origin, put key (.tables [[]]) entries)
      | some (.tables items) => some (origin, put key (.tables ([] :: items)) entries)
      | some _ => none)
    path .header entries
  pure entries

def insertUnder (header : List String) (path : List String) (key : String) (v : Value)
    (entries : Entries) : Option Entries := do
  let (_, entries) ← descend false (insertAt path key v) header .header entries
  pure entries

end Entries

end Coedit.Toml
