import Criteria.Predicate.Basic

/-! Predicates and sort terms as text in the manner of SQL. -/

namespace Criteria

/-- A text with every quote in it doubled. -/
def doubleQuotes : List Char → List Char
  | [] => []
  | c :: rest => if c = '\'' then '\'' :: '\'' :: doubleQuotes rest else c :: doubleQuotes rest

/-- A text between quotes. -/
def quoted (content : List Char) : List Char :=
  '\'' :: doubleQuotes content ++ ['\'']

/-- A value as a literal: numbers as they are, truth values and null as words, the rest quoted. -/
def Value.writeLiteral : Value → List Char
  | .null => "NULL".toList
  | .bool true => "TRUE".toList
  | .bool false => "FALSE".toList
  | .int number => (Value.int number).write
  | .float number => (Value.float number).write
  | value => quoted value.write

/-- Literals in parentheses with commas between them. -/
def writeLiterals (values : List Value) : List Char :=
  '(' :: (", ".toList).intercalate (values.map Value.writeLiteral) ++ [')']

/-- The characters of a path's dotted text. -/
def AttributePath.write (path : AttributePath) : List Char :=
  path.display.toList

namespace Predicate

mutual

/-- The characters of a predicate's rendering. -/
def write : Predicate → List Char
  | .always => "TRUE".toList
  | .never => "FALSE".toList
  -- Parentheses keep combinations apart that stand inside others.
  | .and children => '(' :: writeJoined " AND ".toList children ++ [')']
  | .or children => '(' :: writeJoined " OR ".toList children ++ [')']
  | .not child => "NOT (".toList ++ child.write ++ [')']
  | .compare path comparison value =>
    path.write ++ ' ' :: comparison.symbol.toList ++ ' ' :: value.writeLiteral
  | .between path low high =>
    path.write ++ " BETWEEN ".toList ++ low.writeLiteral ++ " AND ".toList ++ high.writeLiteral
  | .like path pattern => path.write ++ " LIKE ".toList ++ quoted pattern.toList
  | .notLike path pattern => path.write ++ " NOT LIKE ".toList ++ quoted pattern.toList
  | .isNull path => path.write ++ " IS NULL".toList
  | .isNotNull path => path.write ++ " IS NOT NULL".toList
  | .inList path values => path.write ++ " IN ".toList ++ writeLiterals values
  | .notInList path values => path.write ++ " NOT IN ".toList ++ writeLiterals values

/-- Renderings one after the other with a separator between them. -/
def writeJoined (separator : List Char) : List Predicate → List Char
  | [] => []
  | [child] => child.write
  | child :: next :: rest => child.write ++ separator ++ writeJoined separator (next :: rest)

end

/-- A predicate as text. -/
def display (predicate : Predicate) : String :=
  String.ofList predicate.write

end Predicate

/-- A sort term as text. -/
def SortTerm.display (term : SortTerm) : String :=
  term.path.display ++ " " ++ term.direction.name

end Criteria
