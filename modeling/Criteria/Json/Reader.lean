import Criteria.Json.Token

/-! The value that the tokens of a JSON text spell. -/

namespace Criteria

namespace Json

/-- An array or an object that is still open, what it holds so far standing last to first. -/
inductive Open where
  | array (elements : List Json)
  /-- The key belongs to the member that is being read. -/
  | object (members : List (JsonKey × Json)) (key : JsonKey)

/-- The open container with one more value. -/
def Open.add (container : Open) (value : Json) : Open :=
  match container with
  | .array elements => .array (value :: elements)
  | .object members key => .object ((key, value) :: members) .missing

/-- The value of an open container as it is. -/
def Open.toJson : Open → Json
  | .array elements => .array elements.reverse
  | .object members _ => .object members.reverse

/-- What may stand next in a text. -/
inductive Expectation where
  | value
  /-- A value, or the end of an array without elements. -/
  | firstElement
  /-- A key, or the end of an object without members. -/
  | firstKey
  | key
  | colon
  /-- A comma, or the end of the innermost open container. -/
  | separator
deriving DecidableEq

/-- Open containers, innermost first, ended by a broken value. -/
def breakOff : List Open → Json → Json
  | [], value => value
  -- Whatever was read before the fault stays in place.
  | container :: outer, value => breakOff outer (container.add value).toJson

/-- The value of a token that is a value by itself. -/
def scalar? : JsonToken → Option Json
  | .null => some .null
  | .boolean truth => some (.boolean truth)
  | .number found => some (.number found)
  | .string content => some (.string content)
  | .unpaired => some .unpaired
  | _ => none

/-- Whether one more container may be opened inside so many others. -/
def mayOpen (limit : Option Nat) (depth : Nat) : Bool :=
  match limit with
  | none => true
  | some most => depth < most

/-- The document of tokens, given what may stand next and the containers that are open. -/
def readTokens (limit : Option Nat) (expectation : Expectation) (stack : List Open) :
    List JsonToken → JsonDocument
  | [] => ⟨breakOff stack .broken, false⟩
  | token :: rest =>
    match expectation with
    -- A value may stand here: a scalar, or the start of a container.
    | .value | .firstElement =>
      match scalar? token with
      | some value =>
        match stack with
        | [] => ⟨value, rest.isEmpty⟩
        | container :: outer => readTokens limit .separator (container.add value :: outer) rest
      | none =>
        match token, expectation, stack with
        | .openArray, _, _ =>
          if mayOpen limit stack.length then
            readTokens limit .firstElement (.array [] :: stack) rest
          else ⟨breakOff stack .broken, false⟩
        | .openObject, _, _ =>
          if mayOpen limit stack.length then
            readTokens limit .firstKey (.object [] .missing :: stack) rest
          else ⟨breakOff stack .broken, false⟩
        -- The array that was just opened ends without an element.
        | .closeArray, .firstElement, container :: outer =>
          match outer with
          | [] => ⟨container.toJson, rest.isEmpty⟩
          | next :: others =>
            readTokens limit .separator (next.add container.toJson :: others) rest
        | _, _, _ => ⟨breakOff stack .broken, false⟩
    -- A key may stand here, which is kept until its value is there.
    | .firstKey | .key =>
      match token, expectation, stack with
      | .string content, _, .object members _ :: outer =>
        readTokens limit .colon (.object members (.text content) :: outer) rest
      | .unpaired, _, .object members _ :: outer =>
        readTokens limit .colon (.object members .unpaired :: outer) rest
      | .closeObject, .firstKey, container :: outer =>
        match outer with
        | [] => ⟨container.toJson, rest.isEmpty⟩
        | next :: others => readTokens limit .separator (next.add container.toJson :: others) rest
      | _, _, _ => ⟨breakOff stack .broken, false⟩
    | .colon =>
      match token with
      | .colon => readTokens limit .value stack rest
      | _ => ⟨breakOff stack .broken, false⟩
    -- A value is complete, so the container goes on or ends.
    | .separator =>
      match token, stack with
      | .comma, .array _ :: _ => readTokens limit .value stack rest
      | .comma, .object _ _ :: _ => readTokens limit .key stack rest
      | .closeArray, .array elements :: outer =>
        match outer with
        | [] => ⟨(Open.array elements).toJson, rest.isEmpty⟩
        | next :: others =>
          readTokens limit .separator (next.add (Open.array elements).toJson :: others) rest
      | .closeObject, .object members key :: outer =>
        match outer with
        | [] => ⟨(Open.object members key).toJson, rest.isEmpty⟩
        | next :: others =>
          readTokens limit .separator (next.add (Open.object members key).toJson :: others) rest
      | _, _ => ⟨breakOff stack .broken, false⟩

/-- How many containers may be open at once where nothing else is said. -/
def usualNesting : Nat := 127

/-- The document that a text spells, with a limit on containers open at once if there is one. -/
def read (limit : Option Nat) (text : List Char) : JsonDocument :=
  readTokens limit .value [] (JsonToken.scan text)

end Json

end Criteria
