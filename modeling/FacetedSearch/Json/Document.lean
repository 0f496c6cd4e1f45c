/-
# FacetedSearch.Json.Document -- JSON texts as documents

A document is the tree of values that a JSON text holds.  The reader keeps the containers that are
still open on a stack and takes one token at a time.  Where the text breaks the grammar or ends too
early it stops, and the open containers are closed as they are: the document then holds what
stands before the break (`Reading.complete` is false), so that a fault found there comes first.
Containers nest without limit.
-/
import FacetedSearch.Json.Token

namespace FacetedSearch.Json

set_option autoImplicit false

/-- A value of a JSON text.  Strings and integers are kept as far as their tokens have them. -/
inductive Document
  | null
  | boolean (value : Bool)
  | number (integer : Option Int)
  | string (text : Option String)
  | array (items : List Document)
  | object (members : List (Option String × Document))

/-- A container that is still open, its last member first. -/
inductive Frame
  | array (items : List Document)
  | object (members : List (Option String × Document)) (name : Option String)

/-- What may come next. -/
inductive Expected
  | value
  /-- A value, or the end of an array just opened. -/
  | firstValue
  /-- The name of a member. -/
  | name
  /-- The name of a member, or the end of an object just opened. -/
  | firstName
  /-- The colon after the name of a member. -/
  | colon
  /-- A comma, or the end of the container. -/
  | separator
  /-- The end of the text. -/
  | nothing
  deriving DecidableEq

/-- How far the reader has come. -/
structure Progress where
  /-- The open containers, the innermost first. -/
  stack : List Frame
  /-- What may come next. -/
  expected : Expected
  /-- The value of the whole text, once it is complete. -/
  result : Option Document

namespace Progress

/-- Nothing is read. -/
def start : Progress := ⟨[], .value, none⟩

/-- A value is complete. -/
def push (value : Document) : List Frame → Progress
  | [] => ⟨[], .nothing, some value⟩
  | .array items :: stack => ⟨.array (value :: items) :: stack, .separator, none⟩
  | .object members name :: stack =>
    ⟨.object ((name, value) :: members) none :: stack, .separator, none⟩

/-- What a token gives where a value may stand. -/
def readValue (stack : List Frame) : Token → Option Progress
  | .null => some (push .null stack)
  | .boolean value => some (push (.boolean value) stack)
  | .number integer => some (push (.number integer) stack)
  | .string text => some (push (.string text) stack)
  | .openArray => some ⟨.array [] :: stack, .firstValue, none⟩
  | .openObject => some ⟨.object [] none :: stack, .firstName, none⟩
  | _ => none

/-- What a token gives where a name may stand. -/
def readName : List Frame → Token → Option Progress
  | .object members _ :: stack, .string text => some ⟨.object members text :: stack, .colon, none⟩
  | _, _ => none

/-- What a closing token gives. -/
def readClose : List Frame → Token → Option Progress
  | .array items :: stack, .closeArray => some (push (.array items.reverse) stack)
  | .object members _ :: stack, .closeObject => some (push (.object members.reverse) stack)
  | _, _ => none

/-- What a comma gives. -/
def readComma : List Frame → Option Progress
  | .array items :: stack => some ⟨.array items :: stack, .value, none⟩
  | .object members name :: stack => some ⟨.object members name :: stack, .name, none⟩
  | [] => none

/-- What a token gives, unless it breaks the grammar. -/
def step (p : Progress) (token : Token) : Option Progress :=
  match p.expected, token with
  | .value, token => readValue p.stack token
  | .firstValue, .closeArray => readClose p.stack .closeArray
  | .firstValue, token => readValue p.stack token
  | .name, token => readName p.stack token
  | .firstName, .closeObject => readClose p.stack .closeObject
  | .firstName, token => readName p.stack token
  | .colon, .colon => some { p with expected := .value }
  | .colon, _ => none
  | .separator, .comma => readComma p.stack
  | .separator, token => readClose p.stack token
  | .nothing, _ => none

/-- The document once all open containers are closed after a value, if there is one. -/
def closeFrames : Option Document → List Frame → Option Document
  | value, [] => value
  | value, .array items :: stack =>
    closeFrames (some (.array (value.toList ++ items).reverse)) stack
  | value, .object members name :: stack =>
    closeFrames (some (.object ((value.toList.map fun v => (name, v)) ++ members).reverse)) stack

end Progress

/-- What a text holds. -/
structure Reading where
  /-- The values before the first break. -/
  document? : Option Document
  /-- The text has no break and holds one value. -/
  complete : Bool

/-- The reading of a text that breaks off. -/
def Progress.broken (p : Progress) : Reading := ⟨closeFrames p.result p.stack, false⟩

/-- The reading of a text that ends. -/
def Progress.finish (p : Progress) : Reading :=
  match p.result with
  | some document => ⟨some document, true⟩
  | none => p.broken

/-- The reading of the rest of the tokens. -/
def readFrom (p : Progress) : List Token → Reading
  | [] => p.finish
  | token :: rest =>
    match p.step token with
    | some next => readFrom next rest
    | none => p.broken

def read (text : List Char) : Reading := readFrom .start (tokens text)

end FacetedSearch.Json
