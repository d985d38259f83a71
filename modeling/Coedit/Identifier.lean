/-!
# Style identifiers

Display names are free text, but a style's identifier may only use ASCII letters, digits,
`.`, `-` and `_`, and starts with a letter or `_`. `synthesize` writes a name's UTF-8 bytes
into that grammar and `decode` reads them back; `uniqueWithin` salts a candidate and numbers
it until a namespace does not hold it.
-/

namespace Coedit.Identifier

def isLetter (b : UInt8) : Bool := (65 ≤ b && b ≤ 90) || (97 ≤ b && b ≤ 122)

def isDigit (b : UInt8) : Bool := 48 ≤ b && b ≤ 57

def isLiteral (b : UInt8) : Bool := isLetter b || isDigit b || b == 46 || b == 45

def hexDigit (n : Nat) : Char := Char.ofNat (if n < 10 then 48 + n else 87 + n)

def hexValue? (c : Char) : Option Nat :=
  if '0' ≤ c && c ≤ '9' then some (c.toNat - 48)
  else if 'a' ≤ c && c ≤ 'f' then some (c.toNat - 87)
  else none

def escape (b : UInt8) : List Char :=
  ['_', hexDigit (b.toNat / 16), hexDigit (b.toNat % 16), '_']

/-- Writes one byte; the first byte of a name stands for itself only if it is a letter. -/
def encodeByte (first : Bool) (b : UInt8) : List Char :=
  if isLetter b || (isLiteral b && !first) then [Char.ofNat b.toNat] else escape b

def encodeRest (bytes : List UInt8) : List Char := bytes.flatMap (encodeByte false)

def encode : List UInt8 → List Char
  | [] => ['_']
  | b :: rest => encodeByte true b ++ encodeRest rest

def utf8 (s : String) : List UInt8 := s.toUTF8.data.toList

def ofUtf8? (bytes : List UInt8) : Option String := String.fromUTF8? ⟨bytes.toArray⟩

/-- The identifier of a display name. The empty name has the identifier `_`. -/
def synthesize (name : String) : String := String.ofList (encode (utf8 name))

/-- Reads escapes and literal bytes; as the first byte only a letter stands for itself. -/
def bytes? (first : Bool) : List Char → Option (List UInt8)
  | [] => some []
  | c :: rest =>
    if c = '_' then
      match rest with
      | x :: y :: '_' :: rest =>
        match hexValue? x, hexValue? y with
        | some hi, some lo => (bytes? false rest).map (UInt8.ofNat (16 * hi + lo) :: ·)
        | _, _ => none
      | _ => none
    else
      let b := UInt8.ofNat c.toNat
      if c.toNat < 0x80 && isLiteral b && (!first || isLetter b) then
        (bytes? false rest).map (b :: ·)
      else none

/-- The name that an identifier was synthesized from; a text that no name has is refused. -/
def decode (id : String) : Option String :=
  if id = "_" then some ""
  else match (bytes? true id.toList).bind ofUtf8? with
    | some name => if synthesize name = id then some name else none
    | none => none

inductive IdentifierError where
  | namespaceExhausted (candidate : String)
  deriving DecidableEq, Repr

def IdentifierError.message : IdentifierError → String
  | .namespaceExhausted candidate =>
    "no free identifier left for \x60" ++ candidate ++ "\x60 in the style namespace"

/-- Where identifiers may be taken: a finite collection of names, or a counter that answers
its first `count` questions with yes, whatever they ask. -/
inductive Namespace where
  | names (taken : List String)
  | refusing (count : Nat)

/-- Whether the question with number `question` about `id` is answered with yes. -/
def Namespace.takes : Namespace → Nat → String → Bool
  | .names taken, _, id => taken.contains id
  | .refusing count, question, _ => question < count

def attempt (candidate salt : String) : Nat → String
  | 0 => candidate ++ "_" ++ salt
  | n + 1 => candidate ++ "_" ++ toString n ++ "_" ++ salt

/-- The attempts that there are: one without a number, and one for each number of 64 bits. -/
def attemptCount : Nat := UInt64.size + 1

def firstFree (ns : Namespace) (candidate salt : String) : Nat → Nat → Option String
  | 0, _ => none
  | tests + 1, n =>
    if ns.takes n (attempt candidate salt n) then firstFree ns candidate salt tests (n + 1)
    else some (attempt candidate salt n)

/-- The first attempt that the namespace does not hold. -/
def uniqueWithin (ns : Namespace) (candidate salt : String) : Except IdentifierError String :=
  match firstFree ns candidate salt attemptCount 0 with
  | some id => .ok id
  | none => .error (.namespaceExhausted candidate)

end Coedit.Identifier
