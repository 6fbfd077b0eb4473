import Criteria.Json.Reader
import Criteria.Json.Writer
import Criteria.Text.Description

/-! Reading typed data from JSON: what can be wrong, and the readers of simple shapes. -/

namespace Criteria

/-- Why a JSON text does not read as some type; the first fault from left to right counts. -/
inductive ReadError where
  /-- The text is not JSON, or holds what no type reads. -/
  | malformed
  /-- The text is JSON of another shape. -/
  | unexpected (message : String)
deriving DecidableEq

/-- What stands where something else was expected. -/
inductive Found where
  | null
  | boolean (truth : Bool)
  | number (number : JsonNumber)
  | string (content : String)
  | sequence
  | map
deriving DecidableEq

/-- What stands in a text, as a message names it. -/
def Found.describe : Found → String
  | .null => "null"
  | .boolean truth => "boolean `" ++ (if truth then "true" else "false") ++ "`"
  | .number (.integer whole) => "integer `" ++ String.ofList (Numeral.signed whole) ++ "`"
  | .number (.real magnitude) =>
    "floating point `" ++ String.ofList (Json.numberLayout.write magnitude) ++ "`"
  | .number .outOfRange => "number"
  | .string content => "string " ++ describeText content
  | .sequence => "sequence"
  | .map => "map"

/-- What a value shows where something else is expected, if it can be read so far. -/
def Json.found? : Json → Option Found
  | .null => some .null
  | .boolean truth => some (.boolean truth)
  | .number .outOfRange => none
  | .number found => some (.number found)
  | .string content => some (.string content)
  | .unpaired => none
  | .array _ => some .sequence
  | .object _ => some .map
  | .broken => none

/-- A reader of one type. -/
abbrev JsonReader (α : Type) := Json → Except ReadError α

namespace ReadError

/-- A value of another type than expected. -/
def mismatch {α : Type} (found : Json) (expected : String) : Except ReadError α :=
  match found.found? with
  | some found =>
    .error (.unexpected ("invalid type: " ++ found.describe ++ ", expected " ++ expected))
  -- What is broken is reported as such, whatever was expected.
  | none => .error .malformed

/-- Names in code quotes, as a message lists what it expects. -/
def alternatives (names : List String) : String :=
  let marked := names.map fun name => "`" ++ name ++ "`"
  match marked with
  | [] => "nothing"
  | [only] => only
  | [first, second] => first ++ " or " ++ second
  | several => "one of " ++ ", ".intercalate several

end ReadError

namespace JsonReader

/-- Reads a text. -/
def text : JsonReader String
  | .string content => .ok content
  | other => ReadError.mismatch other "a string"

/-- Reads a truth value. -/
def boolean : JsonReader Bool
  | .boolean truth => .ok truth
  | other => ReadError.mismatch other "a boolean"

/-- Reads a count of 64 bits. -/
def count : JsonReader Nat
  | .number (.integer number) =>
    if 0 ≤ number then .ok number.toNat
    -- Integers past 64 bits are no integers in JSON, so only the sign is left to check.
    else
      .error (.unexpected
        ("invalid value: " ++ (Found.number (.integer number)).describe ++ ", expected usize"))
  | other => ReadError.mismatch other "usize"

/-- Reads null as nothing and any other value as something. -/
def optional {α : Type} (reader : JsonReader α) : JsonReader (Option α)
  | .null => .ok none
  | other => (reader other).map some

/-- Reads the elements of an array one after the other. -/
def elements {α : Type} (reader : JsonReader α) : List Json → Except ReadError (List α)
  | [] => .ok []
  | element :: rest => do
    let value ← reader element
    let values ← elements reader rest
    .ok (value :: values)

/-- Reads an array. -/
def list {α : Type} (reader : JsonReader α) : JsonReader (List α)
  | .array found => elements reader found
  | other => ReadError.mismatch other "a sequence"

/-- The choice of a name, given how each name goes on with its content, if there is any. -/
def choose {α : Type} (names : List String) (choice : String → Option Json → Except ReadError α)
    (name : String) (content : Option Json) : Except ReadError α :=
  if name ∈ names then choice name content
  else
    .error (.unexpected
      ("unknown variant `" ++ name ++ "`, expected " ++ ReadError.alternatives names))

/-- Reads one of several named choices: a name, or an object with the name as its only key. -/
def variant {α : Type} (names : List String)
    (choice : String → Option Json → Except ReadError α) : JsonReader α
  | .string name => choose names choice name none
  -- An object names the choice by its only key.
  | .object [] => .error .malformed
  | .object ((.text name, content) :: rest) => do
    let value ← choose names choice name (some content)
    if rest.isEmpty then .ok value else .error .malformed
  | _ => .error .malformed

/-- Reads one of several names that stand alone, or that have null as their content. -/
def name {α : Type} (named : List (String × α)) : JsonReader α :=
  variant (named.map Prod.fst) fun name content =>
    match named.find? fun candidate => candidate.1 = name, content with
    | some (_, value), none => .ok value
    -- A name that stands alone may be given null as its content.
    | some (_, value), some .null => .ok value
    | some _, some other => ReadError.mismatch other "unit"
    | none, _ => .error .malformed

end JsonReader

/-- The shape of an object with known keys, which an array may spell in the order of the keys. -/
structure JsonShape (σ : Type) where
  /-- The name in messages. -/
  name : String
  fields : List String
  /-- Whether keys that are not known are skipped. -/
  lenient : Bool
  /-- Whether an array may end before this field. -/
  mayMiss : String → Bool
  /-- Adds the value of a field to what is read so far. -/
  part : String → Json → σ → Except ReadError σ

namespace JsonShape

/-- A known key that was not met before. -/
def knownKey (fields seen : List String) : JsonKey → Except ReadError String
  | .text key =>
    if key ∈ fields then
      if key ∈ seen then .error (.unexpected ("duplicate field `" ++ key ++ "`"))
      else .ok key
    else
      .error (.unexpected
        ("unknown field `" ++ key ++ "`, expected " ++ ReadError.alternatives fields))
  | _ => .error .malformed

/-- An array that ends too early for a shape. -/
def tooShort {α : Type} (name : String) (fields : List String) (length : Nat) :
    Except ReadError α :=
  .error (.unexpected
    ("invalid length " ++ String.ofList (Numeral.digits length) ++ ", expected struct " ++ name
      ++ " with " ++ String.ofList (Numeral.digits fields.length) ++ " elements"))

/-- A field that has to be there and is not. -/
def missing {α : Type} (field : String) : Except ReadError α :=
  .error (.unexpected ("missing field `" ++ field ++ "`"))

variable {σ : Type}

/-- Reads the members of an object into what is read so far. -/
def readMembers (shape : JsonShape σ) (seen : List String) (read : σ) :
    List (JsonKey × Json) → Except ReadError σ
  | [] => .ok read
  | (.text key, value) :: rest =>
    -- A key that is skipped still needs a value that is JSON.
    if shape.lenient && !shape.fields.contains key then
      if value.isWhole then shape.readMembers seen read rest else .error .malformed
    else do
      let field ← knownKey shape.fields seen (.text key)
      let read ← shape.part field value read
      shape.readMembers (field :: seen) read rest
  | (_, _) :: _ => .error .malformed

/-- Reads the elements of an array into what is read so far, given the fields that are left. -/
def readElements (shape : JsonShape σ) (read : σ) : List String → List Json → Except ReadError σ
  | [], [] => .ok read
  | [], _ :: _ => .error .malformed
  | field :: fields, [] =>
    -- Fields that may be missing keep what is read so far.
    if shape.mayMiss field then shape.readElements read fields []
    else tooShort shape.name shape.fields (shape.fields.length - (fields.length + 1))
  | field :: fields, value :: rest => do
    let read ← shape.part field value read
    shape.readElements read fields rest

/-- Reads an object or an array of a shape. -/
def reader (shape : JsonShape σ) (start : σ) : JsonReader σ
  | .object members => shape.readMembers [] start members
  | .array found => shape.readElements start shape.fields found
  | other => ReadError.mismatch other ("struct " ++ shape.name)

end JsonShape

/-- The value of a document that a reader reads, with nothing after it. -/
def JsonDocument.readAs {α : Type} (document : JsonDocument) (reader : JsonReader α) :
    Except ReadError α := do
  let value ← reader document.value
  if document.complete then .ok value else .error .malformed

end Criteria
