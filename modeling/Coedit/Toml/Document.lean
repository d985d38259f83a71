import Coedit.Toml.Scalar
import Coedit.Toml.Table

/-!
# Reading TOML documents

A document is a sequence of lines: headers, keys with values, comments and blank lines. Only
values between brackets and braces, and strings of several lines, reach over line ends.
-/

namespace Coedit.Toml

open Coedit.Wire (Value)

/-- Drops blanks, line ends and comments; a comment holds no control characters. -/
def dropComments (inComment : Bool) : List Char → Option (List Char)
  | [] => some []
  | '\n' :: rest => dropComments false rest
  | '\r' :: '\n' :: rest => dropComments false rest
  | c :: rest =>
    if inComment then if isControl c then none else dropComments true rest
    else if c = ' ' || c = '\t' then dropComments false rest
    else if c = '#' then dropComments true rest
    else some (c :: rest)

/-- The end of a line: blanks, perhaps a comment, and a line end or the end of the text. -/
def endLine? (s : List Char) : Option (List Char) :=
  match dropBlanks s with
  | [] => some []
  | '#' :: rest =>
    let isText (c : Char) := !isControl c
    match rest.dropWhile isText with
    | [] => some []
    | rest => afterLineEnd? rest
  | rest => afterLineEnd? rest

/-! ## Keys -/

def isKeyChar (c : Char) : Bool := c.isAlphanum || c = '_' || c = '-'

def simpleKey : Scan String
  | '"' :: rest => (basicText rest).map fun (key, rest) => (String.ofList key, rest)
  | '\'' :: rest => (literalText rest).map fun (key, rest) => (String.ofList key, rest)
  | s =>
    let key := s.takeWhile isKeyChar
    if key.isEmpty then none else some (String.ofList key, s.dropWhile isKeyChar)

/-- The limit for arrays and inline tables within each other, and for the parts of a key. -/
def maxNesting : Nat := 80

def dottedKey : Nat → List String → Scan (List String × String)
  | 0, _, _ => none
  | steps + 1, path, s => do
    let (key, rest) ← simpleKey (dropBlanks s)
    match dropBlanks rest with
    | '.' :: rest => dottedKey steps (path ++ [key]) rest
    | rest => some ((path, key), rest)

def key : Scan (List String × String) := dottedKey maxNesting []

def assignment (drop : List Char → Option (List Char)) (read : Scan Value) :
    Scan ((List String × String) × Value) := fun s => do
  let (k, rest) ← key s
  match ← drop rest with
  | '=' :: rest =>
    let (v, rest) ← read (← drop rest)
    pure ((k, v), rest)
  | _ => none

/-! ## Values -/

def arrayItems (read : Scan Value) : Nat → List Value → Scan Value
  | 0, _, _ => none
  | steps + 1, items, s => do
    match ← dropComments false s with
    | ']' :: rest => some (.list items.reverse, rest)
    | s =>
      let (v, rest) ← read s
      match ← dropComments false rest with
      | ',' :: rest => arrayItems read steps (v :: items) rest
      | ']' :: rest => some (.list (v :: items).reverse, rest)
      | _ => none

def inlineEntries (read : Scan Value) : Nat → Entries → Scan Value
  | 0, _, _ => none
  | steps + 1, entries, s => do
    match ← dropComments false s with
    | '\x7d' :: rest => some (.object (fieldsOf entries), rest)
    | s =>
      let (((path, key), v), rest) ← assignment (dropComments false) read s
      let (_, entries) ← Entries.insertAt path key v .header entries
      match ← dropComments false rest with
      | ',' :: rest => inlineEntries read steps entries rest
      | '\x7d' :: rest => some (.object (fieldsOf entries), rest)
      | _ => none

/-- A value whose arrays and inline tables are nested no deeper than `depth`. -/
def value : Nat → Scan Value
  | 0, s => scalar s
  | depth + 1, s =>
    match s with
    | '[' :: rest => arrayItems (value depth) (rest.length + 1) [] rest
    | '\x7b' :: rest => inlineEntries (value depth) (rest.length + 1) [] rest
    | s => scalar s

/-! ## Documents -/

/-- The tables read so far, and the header under which the next line stands. -/
structure Progress where
  header : List String := []
  entries : Entries := []

def statement (p : Progress) (s : List Char) : Option (Progress × List Char) :=
  match s with
  | '[' :: '[' :: rest => do
    let ((path, key), rest) ← key rest
    let ((), rest) ← expect ']' rest
    let ((), rest) ← expect ']' rest
    let entries ← p.entries.openNext path key
    pure ({ header := path ++ [key], entries }, rest)
  | '[' :: rest => do
    let ((path, key), rest) ← key rest
    let ((), rest) ← expect ']' rest
    let entries ← p.entries.openTable path key
    pure ({ header := path ++ [key], entries }, rest)
  | s => do
    let (((path, key), v), rest) ← assignment (fun s => some (dropBlanks s)) (value maxNesting) s
    let entries ← p.entries.insertUnder p.header path key v
    pure ({ p with entries }, rest)

def lines : Nat → Progress → List Char → Option Progress
  | 0, _, _ => none
  | steps + 1, p, s =>
    match dropBlanks s with
    | [] => some p
    | s =>
      match endLine? s with
      | some rest => lines steps p rest
      | none => do
        let (p, rest) ← statement p s
        let rest ← endLine? rest
        lines steps p rest

def dropMark : List Char → List Char
  | '\ufeff' :: rest => rest
  | rest => rest

def read (text : String) : Option Value :=
  let s := dropMark text.toList
  (lines (s.length + 1) {} s).map fun p => .object (fieldsOf p.entries)

end Coedit.Toml
