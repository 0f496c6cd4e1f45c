/-
# FacetedSearch.Json.Token -- the tokens of a JSON text

The lexer reads one character at a time.  Between tokens stands JSON white space only; strings hold
no raw control character and only the escapes of JSON; numbers have no leading zeros.  What is none
of this becomes the token `invalid`.

A string whose escapes hold half of a surrogate pair is a token, but has no text: it is acceptable
where its text does not matter.  A number keeps its value only if it is written as an integer;
`-0` stands for a fraction like `-0.0`, so it has none.
-/
import FacetedSearch.Text.Numeral
import FacetedSearch.Text.Percent
import FacetedSearch.Text.Pieces

namespace FacetedSearch.Json

set_option autoImplicit false

/-- A token of a JSON text. -/
inductive Token
  | openObject
  | closeObject
  | openArray
  | closeArray
  | colon
  | comma
  | null
  | boolean (value : Bool)
  | number (integer : Option Int)
  | string (text : Option String)
  | invalid
  deriving DecidableEq

/-! ## Numbers and names -/

/-- Characters of numbers and of the names `true`, `false` and `null`. -/
def isBareChar (c : Char) : Bool := c.isAlphanum || c == '+' || c == '-' || c == '.'

/-- Digits without a superfluous leading zero. -/
def isWhole (digits : List Char) : Bool :=
  Text.isNumeral digits && (digits.head? != some '0' || digits.length == 1)

/-- Digits after an optional sign. -/
def isExponent : List Char → Bool
  | '+' :: digits => Text.isNumeral digits
  | '-' :: digits => Text.isNumeral digits
  | digits => Text.isNumeral digits

/-- Splits off an exponent, after `e` or `E`. -/
def cutExponent (run : List Char) : List Char × Option (List Char) :=
  match run.span fun c => c != 'e' && c != 'E' with
  | (mantissa, []) => (mantissa, none)
  | (mantissa, _ :: exponent) => (mantissa, some exponent)

/-- The number that a run of characters without its minus sign writes. -/
def unsignedNumber (negative : Bool) (run : List Char) : Token :=
  let (mantissa, exponent) := cutExponent run
  match Text.cutFirst? '.' mantissa with
  | some (whole, fraction) =>
    if isWhole whole && Text.isNumeral fraction && exponent.all isExponent then .number none
    else .invalid
  | none =>
    if isWhole mantissa && exponent.all isExponent then
      if exponent.isSome || (negative && mantissa == ['0']) then .number none
      else
        let value : Int := Nat.ofDigitChars 10 mantissa 0
        .number (some (if negative then -value else value))
    else .invalid

/-- The token of a run of bare characters. -/
def bareToken (run : List Char) : Token :=
  if run = "true".toList then .boolean true
  else if run = "false".toList then .boolean false
  else if run = "null".toList then .null
  else
    match run with
    | '-' :: rest => unsignedNumber true rest
    | _ => unsignedNumber false run

/-! ## Strings -/

/-- A string whose closing quote is still to come. -/
structure Quoted where
  /-- The characters so far, the last one first. -/
  read : List Char := []
  /-- The leading half of a surrogate pair that an escape has just given. -/
  half : Option Nat := none
  /-- Every half so far has found its other half. -/
  paired : Bool := true
  deriving DecidableEq

namespace Quoted

/-- One more character. -/
def push (q : Quoted) (c : Char) : Quoted :=
  { read := c :: q.read, half := none, paired := q.paired && q.half.isNone }

/-- One more code unit, from an escape with four digits. -/
def pushUnit (q : Quoted) (u : Nat) : Quoted :=
  if 0xDC00 ≤ u ∧ u ≤ 0xDFFF then
    match q.half with
    | some high =>
      { q with
        read := Char.ofNat (0x10000 + (high - 0xD800) * 0x400 + (u - 0xDC00)) :: q.read
        half := none }
    | none => { q with paired := false }
  else if 0xD800 ≤ u ∧ u ≤ 0xDBFF then
    { read := q.read, half := some u, paired := q.paired && q.half.isNone }
  else q.push (Char.ofNat u)

/-- The string once its closing quote is read. -/
def close (q : Quoted) : Token :=
  .string (if q.paired && q.half.isNone then some (String.ofList q.read.reverse) else none)

end Quoted

/-- The character that an escape of one letter stands for. -/
def escapedChar? : Char → Option Char
  | '"' => some '"'
  | '\\' => some '\\'
  | '/' => some '/'
  | 'b' => some '\x08'
  | 'f' => some '\x0c'
  | 'n' => some '\n'
  | 'r' => some '\r'
  | 't' => some '\t'
  | _ => none

/-! ## The lexer -/

/-- Where the lexer stands. -/
inductive Mode
  /-- Between two tokens. -/
  | between
  /-- In a run of bare characters, the last one first. -/
  | bare (run : List Char)
  /-- In a string. -/
  | quoted (q : Quoted)
  /-- In a string, after a backslash. -/
  | escape (q : Quoted)
  /-- In a string, in an escape whose value so far still lacks some digits after the next one. -/
  | unit (q : Quoted) (owed : Nat) (value : Nat)
  /-- After a character that is no part of a JSON text. -/
  | stopped

/-- White space between tokens. -/
def isSpace (c : Char) : Bool := c == ' ' || c == '\t' || c == '\n' || c == '\r'

/-- What a character between tokens gives. -/
def begin (c : Char) : List Token × Mode :=
  if isSpace c then ([], .between)
  else if isBareChar c then ([], .bare [c])
  else
    match c with
    | '{' => ([.openObject], .between)
    | '}' => ([.closeObject], .between)
    | '[' => ([.openArray], .between)
    | ']' => ([.closeArray], .between)
    | ':' => ([.colon], .between)
    | ',' => ([.comma], .between)
    | '"' => ([], .quoted {})
    | _ => ([.invalid], .stopped)

/-- What the next character gives. -/
def Mode.step : Mode → Char → List Token × Mode
  | between, c => begin c
  | bare run, c =>
    if isBareChar c then ([], bare (c :: run))
    else (bareToken run.reverse :: (begin c).1, (begin c).2)
  | quoted q, c =>
    if c = '"' then ([q.close], between)
    else if c = '\\' then ([], escape q)
    else if c.toNat < 0x20 then ([.invalid], stopped)
    else ([], quoted (q.push c))
  | escape q, c =>
    if c = 'u' then ([], unit q 3 0)
    else
      match escapedChar? c with
      | some e => ([], quoted (q.push e))
      | none => ([.invalid], stopped)
  | unit q owed value, c =>
    match Text.hexValue? c, owed with
    | some h, 0 => ([], quoted (q.pushUnit (value * 16 + h)))
    | some h, owed + 1 => ([], unit q owed (value * 16 + h))
    | none, _ => ([.invalid], stopped)
  | stopped, _ => ([], stopped)

/-- What the end of the text gives. -/
def Mode.finish : Mode → List Token
  | between => []
  | bare run => [bareToken run.reverse]
  | stopped => []
  | _ => [.invalid]

/-- The tokens of the rest of a text. -/
def tokensFrom : Mode → List Char → List Token
  | mode, [] => mode.finish
  | mode, c :: rest => (mode.step c).1 ++ tokensFrom (mode.step c).2 rest

def tokens (text : List Char) : List Token := tokensFrom .between text

end FacetedSearch.Json
