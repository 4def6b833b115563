import RowFilter.Json.Basic
import RowFilter.Text.Digits

/-!
# Reading JSON

The reader accepts the grammar of JSON, and a key that is given twice keeps its last value. A
string is read in two steps: its escapes and characters become numbers, and then the numbers
become characters, two of them where a pair of surrogates stands for one.

Values are read with a bound on the number of calls. Every two calls use up a character, so twice
the length of the text is always enough.
-/

set_option autoImplicit false

namespace RowFilter.Json

open Text (digitsValue isDigits hexDigit?)

def isSpace (c : Char) : Bool := c = ' ' || c = '\t' || c = '\n' || c = '\r'

/-- The text after the white space it starts with. -/
def skipSpace (s : List Char) : List Char := s.dropWhile isSpace

/-- The number of four hexadecimal digits. -/
def hexUnit? (a b c d : Char) : Option Nat := do
  return ((← hexDigit? a) * 16 + (← hexDigit? b)) * 256 + (← hexDigit? c) * 16 + (← hexDigit? d)

/-- The character that a backslash and this letter stand for. -/
def escape? (c : Char) : Option Char :=
  match c with
  | '"' => some '"'
  | '\\' => some '\\'
  | '/' => some '/'
  | 'b' => some '\x08'
  | 'f' => some '\x0c'
  | 'n' => some '\n'
  | 'r' => some '\r'
  | 't' => some '\t'
  | _ => none

/-- The codes of a string up to its closing quote, and the text after the quote. -/
def stringCodes : List Char → Option (List Nat × List Char)
  | [] => none
  | c :: r =>
    if c = '"' then some ([], r)
    else if c = '\\' then
      match r with
      | 'u' :: a :: b :: c :: d :: r => do
        let code ← hexUnit? a b c d
        let (codes, rest) ← stringCodes r
        return (code :: codes, rest)
      | e :: r => do
        let c ← escape? e
        let (codes, rest) ← stringCodes r
        return (c.toNat :: codes, rest)
      | [] => none
    else if c.toNat < 0x20 then none
    else do
      let (codes, rest) ← stringCodes r
      return (c.toNat :: codes, rest)

def isHighSurrogate (n : Nat) : Bool := 0xD800 ≤ n && n < 0xDC00

def isLowSurrogate (n : Nat) : Bool := 0xDC00 ≤ n && n < 0xE000

/-- The characters of a list of codes. A surrogate outside a pair stands for nothing. -/
def charsOfCodes : List Nat → Option (List Char)
  | [] => some []
  | n :: r =>
    if isHighSurrogate n then
      match r with
      | m :: r =>
        if isLowSurrogate m then
          (charsOfCodes r).map (Char.ofNat (0x10000 + (n - 0xD800) * 0x400 + (m - 0xDC00)) :: ·)
        else none
      | [] => none
    else if isLowSurrogate n then none
    else (charsOfCodes r).map (Char.ofNat n :: ·)

/-- Reads a string whose opening quote is already gone. -/
def readString (s : List Char) : Option (String × List Char) := do
  let (codes, rest) ← stringCodes s
  return (String.ofList (← charsOfCodes codes), rest)

/-- Is the character one that numbers are written with? -/
def isNumeric (c : Char) : Bool :=
  c.isDigit || c = '-' || c = '+' || c = '.' || c = 'e' || c = 'E'

/-- Is the text empty or an exponent? -/
def isExponent : List Char → Bool
  | [] => true
  | e :: r =>
    (e = 'e' || e = 'E') &&
      match r with
      | '+' :: r => isDigits r
      | '-' :: r => isDigits r
      | r => isDigits r

/-- Is the text what may follow the digits of an integer: a fraction, an exponent, both? -/
def isFraction : List Char → Bool
  | '.' :: r => isDigits (r.takeWhile Char.isDigit) && isExponent (r.dropWhile Char.isDigit)
  | r => isExponent r

/-- Reads a number from the whole of a text. -/
def readNumber (s : List Char) : Option Json :=
  let (negative, magnitude) := match s with
    | '-' :: r => (true, r)
    | r => (false, r)
  let whole := magnitude.takeWhile Char.isDigit
  let fraction := magnitude.dropWhile Char.isDigit
  if whole.isEmpty || (whole.head? = some '0' && whole.length ≠ 1) then none
  else if fraction.isEmpty then
    let n := digitsValue whole
    if negative then
      if n = 0 then some (real (String.ofList s)) else some (int (-n))
    else some (int n)
  else if isFraction fraction then some (real (String.ofList s))
  else none

/-- Reads a literal name or a number. -/
def readAtom (s : List Char) : Option (Json × List Char) :=
  match s with
  | 'n' :: 'u' :: 'l' :: 'l' :: r => some (null, r)
  | 't' :: 'r' :: 'u' :: 'e' :: r => some (bool true, r)
  | 'f' :: 'a' :: 'l' :: 's' :: 'e' :: r => some (bool false, r)
  | s => (readNumber (s.takeWhile isNumeric)).map fun x => (x, s.dropWhile isNumeric)

/-- The members with one more in front, unless a later one has its key. -/
def addMember (key : String) (x : Json) (later : List (String × Json)) : List (String × Json) :=
  if later.any (·.1 = key) then later else (key, x) :: later

mutual

/-- Reads a value and returns the text after it. -/
def readValue : Nat → List Char → Option (Json × List Char)
  | 0, _ => none
  | fuel + 1, s =>
    match skipSpace s with
    | '"' :: r => (readString r).map fun (s, rest) => (str s, rest)
    | '[' :: r =>
      match skipSpace r with
      | ']' :: rest => some (arr [], rest)
      | r => (readItems fuel r).map fun (xs, rest) => (arr xs, rest)
    | '\x7b' :: r =>
      match skipSpace r with
      | '\x7d' :: rest => some (obj [], rest)
      | r => (readMembers fuel r).map fun (ms, rest) => (obj ms, rest)
    | r => readAtom r

/-- Reads items, one at least, up to the bracket that closes the array. -/
def readItems : Nat → List Char → Option (List Json × List Char)
  | 0, _ => none
  | fuel + 1, s => do
    let (x, rest) ← readValue fuel s
    match skipSpace rest with
    | ',' :: r =>
      let (xs, rest) ← readItems fuel r
      return (x :: xs, rest)
    | ']' :: rest => return ([x], rest)
    | _ => none

/-- Reads members, one at least, up to the brace that closes the object. -/
def readMembers : Nat → List Char → Option (List (String × Json) × List Char)
  | 0, _ => none
  | fuel + 1, s =>
    match skipSpace s with
    | '"' :: r => do
      let (key, rest) ← readString r
      match skipSpace rest with
      | ':' :: r =>
        let (x, rest) ← readValue fuel r
        match skipSpace rest with
        | ',' :: r =>
          let (ms, rest) ← readMembers fuel r
          return (addMember key x ms, rest)
        | '\x7d' :: rest => return ([(key, x)], rest)
        | _ => none
      | _ => none
    | _ => none

end

/-- Reads a value from the whole of a text. -/
def read? (s : String) : Option Json :=
  let text := s.toList
  match readValue (2 * text.length + 1) text with
  | some (x, rest) => if (skipSpace rest).isEmpty then some x else none
  | none => none

end RowFilter.Json
