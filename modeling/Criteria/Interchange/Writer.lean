import Criteria.Filter.Tree
import Criteria.Json.Writer

/-! Search requests and their parts as JSON. -/

namespace Criteria

/--
An offset date-time in JSON, if there is a date for the day that its wall clock shows.

Universal time itself has the letter Z for its offset.
-/
def OffsetDateTime.writeShort? (moment : OffsetDateTime) : Option (List Char) :=
  (Date.ofDay? moment.wallClock.day).map fun _ =>
    -- An offset of less than half a minute is rounded to zero, and still has its digits.
    if moment.offset.seconds = 0 then moment.wallClock.write ++ ['Z'] else moment.write

/--
An operand as JSON; dates are written as texts, and a float that is not finite as null.

Only an offset date-time whose wall clock shows no date cannot be written.
-/
def Value.toJson? : Value → Option Json
  | .null => some .null
  | .bool truth => some (.boolean truth)
  | .int number => some (.ofInt number.toInt)
  | .float number => some (if number.isFinite then .number (.real number) else .null)
  | .text content => some (.string content)
  | .date day => some (.string (String.ofList day.write))
  | .dateTime moment => some (.string (String.ofList moment.write))
  | .offsetDateTime moment =>
    moment.writeShort?.map fun content => .string (String.ofList content)

/-- A criterion as JSON, if its operands can be written. -/
def Criterion.toJson? (condition : Criterion) : Option Json := do
  let operands ← condition.operands.mapM Value.toJson?
  some (.ofMembers
    [("field", .string condition.field), ("operation", .string condition.operation.name),
      ("operands", .array operands)])

mutual

/-- A filter as JSON, without a word on which kind of node it is. -/
def Filter.toJson? : Filter → Option Json
  | .criterion condition => condition.toJson?
  | .group combinator children => do
    let written ← Filter.allToJson? children
    some (.ofMembers [("combinator", .string combinator.name), ("children", .array written)])

/-- Filters as JSON, one by one. -/
def Filter.allToJson? : List Filter → Option (List Json)
  | [] => some []
  | child :: rest => do
    let first ← child.toJson?
    let others ← Filter.allToJson? rest
    some (first :: others)

end

/-- A sort key as JSON. -/
def SortKey.toJson (key : SortKey) : Json :=
  .ofMembers [("field", .string key.field), ("direction", .string key.direction.name)]

/-- A search request as JSON, if the operands of its filter can be written. -/
def SearchRequest.toJson? (request : SearchRequest) : Option Json := do
  let filter ← match request.filter with
    | some filter => filter.toJson?
    | none => some .null
  some (.ofMembers [("criteria", filter), ("sort", .array (request.sort.map SortKey.toJson))])

/-- A search request as a JSON text, if the operands of its filter can be written. -/
def SearchRequest.toText? (request : SearchRequest) : Option String :=
  request.toJson?.map Json.display

end Criteria
