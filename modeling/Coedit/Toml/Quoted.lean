/-!
# Writing TOML strings

A string is written in the plainest form that can hold it: between double quotes if nothing
has to be escaped, else between single quotes, else over several lines, and with escapes only
if there is no other way.
-/

namespace Coedit.Toml

inductive Quoting where
  | basic
  | literal
  | multilineBasic
  | multilineLiteral
  deriving DecidableEq, Repr

def longestRunFrom (c : Char) (run : Nat) : List Char → Nat
  | [] => run
  | d :: rest =>
    if d = c then longestRunFrom c (run + 1) rest else max run (longestRunFrom c 0 rest)

def longestRun (c : Char) (s : List Char) : Nat := longestRunFrom c 0 s

def isControl (c : Char) : Bool := (c.toNat < 0x20 && c ≠ '\t') || c.toNat = 0x7f

def quotingOf (s : List Char) : Quoting :=
  let hasControl := s.any fun c => isControl c && c ≠ '\n'
  let hasNewline := s.contains '\n'
  let hasBackslash := s.contains '\\'
  let single := longestRun '\'' s
  let double := longestRun '"' s
  if !hasControl && !hasBackslash && double = 0 && !hasNewline then .basic
  else if !hasControl && single = 0 && !hasNewline then .literal
  else if !hasControl && !hasBackslash && double ≤ 2 then .multilineBasic
  else if !hasControl && single ≤ 2 then .multilineLiteral
  else if hasNewline then .multilineBasic
  else .basic

def upperHex (n : Nat) : Char := Char.ofNat (if n < 10 then 48 + n else 55 + n)

/-- The escape for a character, if it needs one apart from quotes. -/
def escape? (multiline : Bool) (c : Char) : Option (List Char) :=
  if c.toNat = 8 then some ['\\', 'b']
  else if c = '\t' then some ['\\', 't']
  else if c = '\n' then if multiline then none else some ['\\', 'n']
  else if c.toNat = 12 then some ['\\', 'f']
  else if c = '\r' then some ['\\', 'r']
  else if c = '\\' then some ['\\', '\\']
  else if isControl c then
    some ['\\', 'u', '0', '0', upperHex (c.toNat / 16), upperHex (c.toNat % 16)]
  else none

/-- Escapes a string. On several lines two double quotes may stand side by side, and `quotes`
counts those that do. -/
def escapeFrom (multiline : Bool) (quotes : Nat) : List Char → List Char
  | [] => []
  | c :: rest =>
    if c = '"' then
      if quotes < (if multiline then 2 else 0) then c :: escapeFrom multiline (quotes + 1) rest
      else '\\' :: '"' :: escapeFrom multiline 0 rest
    else match escape? multiline c with
      | some escape => escape ++ escapeFrom multiline 0 rest
      | none => c :: escapeFrom multiline 0 rest

def threeOf (c : Char) : List Char := [c, c, c]

/-- What stands between the opening quotes and the text: a line feed, if the text has one. -/
def opening (s : List Char) : List Char := if s.contains '\n' then ['\n'] else []

def quotedChars (s : List Char) : List Char :=
  match quotingOf s with
  | .basic => '"' :: escapeFrom false 0 s ++ ['"']
  | .literal => '\'' :: s ++ ['\'']
  | .multilineBasic => threeOf '"' ++ opening s ++ escapeFrom true 0 s ++ threeOf '"'
  | .multilineLiteral => threeOf '\'' ++ opening s ++ s ++ threeOf '\''

def quoted (s : String) : String := String.ofList (quotedChars s.toList)

end Coedit.Toml
