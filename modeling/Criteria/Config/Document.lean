import Criteria.Config
import Criteria.Text.Numeral

/-! Settings as a flat TOML document: one key with an integer or a truth value on a line. -/

namespace Criteria

/-- A value that a line of the document gives to a key. -/
inductive Setting where
  | integer (number : Int)
  | boolean (truth : Bool)
deriving DecidableEq

namespace ConfigDocument

/-- The blanks of a line. -/
def isBlank (c : Char) : Bool :=
  c = ' ' || c = '\t'

/-- The characters of a key without quotes. -/
def isBare (c : Char) : Bool :=
  c.isAlphanum || c = '_' || c = '-'

/-- Controls, which only escapes can stand for; the tab is none of them. -/
def isControl (c : Char) : Bool :=
  (c.toNat < 0x20 && c ≠ '\t') || c.toNat = 0x7F

/-- The value of a digit in some base. -/
def digitValue? (base : Nat) (c : Char) : Option Nat :=
  let value :=
    if c.isDigit then c.toNat - '0'.toNat
    else if 'a' ≤ c ∧ c ≤ 'f' then c.toNat - 'a'.toNat + 10
    else if 'A' ≤ c ∧ c ≤ 'F' then c.toNat - 'A'.toNat + 10
    else base
  -- A digit that the base does not have is no digit of it.
  if value < base then some value else none

/-- Digits of a base, single underscores being allowed between two of them. -/
def digitsFrom? (base : Nat) (value : Nat) : List Char → Option Nat
  | [] => some value
  | '_' :: c :: rest => (digitValue? base c).bind fun digit =>
    digitsFrom? base (base * value + digit) rest
  | c :: rest => (digitValue? base c).bind fun digit =>
    digitsFrom? base (base * value + digit) rest

/-- One or more digits of a base. -/
def digits? (base : Nat) : List Char → Option Nat
  | [] => none
  | c :: rest => (digitValue? base c).bind fun digit => digitsFrom? base digit rest

/-- A decimal number, zero being the only one that begins with zero. -/
def decimal? : List Char → Option Nat
  | ['0'] => some 0
  -- A leading zero is allowed in other bases only.
  | '0' :: _ => none
  | text => digits? 10 text

/-- An integer: decimal with an optional sign, or in base sixteen, eight or two without one. -/
def integer? : List Char → Option Int
  | '0' :: 'x' :: rest => (digits? 16 rest).map fun number => (number : Int)
  | '0' :: 'o' :: rest => (digits? 8 rest).map fun number => (number : Int)
  | '0' :: 'b' :: rest => (digits? 2 rest).map fun number => (number : Int)
  | '-' :: rest => (decimal? rest).map fun number => -(number : Int)
  | '+' :: rest => (decimal? rest).map fun number => (number : Int)
  | text => (decimal? text).map fun number => (number : Int)

/-- The value that a word denotes. -/
def setting? (text : List Char) : Option Setting :=
  if text = "true".toList then some (.boolean true)
  else if text = "false".toList then some (.boolean false)
  else (integer? text).map .integer

/-- A character by its code, which has to be one of a character. -/
def scalar? (code : Nat) : Option Char :=
  if code.isValidChar then some (Char.ofNat code) else none

/-- The character of exactly so many hexadecimal digits, and what follows them. -/
def escapedCode? (width : Nat) (text : List Char) : Option (Char × List Char) :=
  let run := text.take width
  -- An underscore, which numbers may have, is no part of a code.
  if run.length = width ∧ '_' ∉ run then
    ((digits? 16 run).bind scalar?).map fun c => (c, text.drop width)
  else none

/-- The character of a short escape. -/
def shortEscape? (c : Char) : Option Char :=
  if c = '"' then some '"'
  else if c = '\\' then some '\\'
  else if c = 'b' then some '\x08'
  else if c = 'e' then some '\x1b'
  else if c = 'f' then some '\x0c'
  else if c = 'n' then some '\n'
  else if c = 'r' then some '\r'
  else if c = 't' then some '\t'
  else none

/-- The escape after a backslash, and what follows it. -/
def escape? : List Char → Option (Char × List Char)
  | [] => none
  | 'x' :: rest => escapedCode? 2 rest
  | 'u' :: rest => escapedCode? 4 rest
  | 'U' :: rest => escapedCode? 8 rest
  | c :: rest => (shortEscape? c).map fun meant => (meant, rest)

/-- A key up to its closing double quote, with at most `bound` characters to look at. -/
def quotedKey? : Nat → List Char → Option (List Char × List Char)
  | 0, _ => none
  | _ + 1, [] => none
  | bound + 1, c :: rest =>
    if c = '"' then some ([], rest)
    else if c = '\\' then do
      let (meant, rest) ← escape? rest
      let (key, after) ← quotedKey? bound rest
      some (meant :: key, after)
    -- Controls have to be escaped.
    else if isControl c then none
    else do
      let (key, after) ← quotedKey? bound rest
      some (c :: key, after)

/-- A key at the beginning of a line, and what follows it. -/
def key? : List Char → Option (List Char × List Char)
  | '"' :: rest => quotedKey? (rest.length + 1) rest
  -- Between single quotes there are no escapes.
  | '\'' :: rest =>
    let key := rest.takeWhile fun c => c ≠ '\''
    match rest.dropWhile fun c => c ≠ '\'' with
    | [] => none
    | _ :: after => if key.any isControl then none else some (key, after)
  | text =>
    let key := text.takeWhile isBare
    if key.isEmpty then none else some (key, text.dropWhile isBare)

/-- Whether nothing but blanks and a comment is left of a line. -/
def isRest (text : List Char) : Bool :=
  match text.dropWhile isBlank with
  | [] => true
  | '#' :: comment => !comment.any isControl
  | _ => false

/-- What a line gives to which key, if it is not empty. -/
def line? (text : List Char) : Option (Option (List Char × Setting)) :=
  if isRest text then some none
  else do
    let (key, text) ← key? (text.dropWhile isBlank)
    match text.dropWhile isBlank with
    | '=' :: text =>
      let text := text.dropWhile isBlank
      -- The value ends at a blank or a comment.
      let isWord (c : Char) : Bool := !isBlank c && c ≠ '#'
      let value ← setting? (text.takeWhile isWord)
      if isRest (text.dropWhile isWord) then some (some (key, value)) else none
    | _ => none

/-- The lines of a text, a carriage return before a line feed being part of neither. -/
def lines (text : List Char) : List (List Char) :=
  let rec trim : List (List Char) → List (List Char)
    | [] => []
    | [last] => [last]
    | line :: next :: rest =>
      -- Only a line that a line feed ends can lose a carriage return.
      (if line.getLast? = some '\r' then line.dropLast else line) :: trim (next :: rest)
  trim (text.splitOn '\n')

/-- The settings given so far. -/
structure Given where
  maxDepth : Option Nat
  wrapLikePattern : Option Bool
deriving DecidableEq

/-- One more setting, of the right type and for a key that has none yet. -/
def Given.add (given : Given) (key : List Char) (value : Setting) : Option Given :=
  if key = "max_depth".toList then
    match given.maxDepth, value with
    | none, .integer number =>
      if 0 ≤ number ∧ number ≤ 0xFFFFFFFFFFFFFFFF then
        some { given with maxDepth := some number.toNat }
      else none
    -- A key that is given twice makes the document invalid, as a wrong type does.
    | _, _ => none
  else if key = "wrap_like_pattern".toList then
    match given.wrapLikePattern, value with
    | none, .boolean truth => some { given with wrapLikePattern := some truth }
    | _, _ => none
  else none

/-- The settings that lines give. -/
def readLines (given : Given) : List (List Char) → Option Given
  | [] => some given
  | line :: rest => do
    match ← line? line with
    | none => readLines given rest
    | some (key, value) =>
      let given ← given.add key value
      readLines given rest

/-- The text after a byte order mark, if it begins with one. -/
def withoutMark : List Char → List Char
  | '\uFEFF' :: rest => rest
  | text => text

end ConfigDocument

/-- The settings of a document, those that it leaves out having their defaults. -/
def Config.ofDocument (text : String) : Except ConfigError Config := do
  match ConfigDocument.readLines ⟨none, none⟩
      (ConfigDocument.lines (ConfigDocument.withoutMark text.toList)) with
  | none => .error .parse
  | some given =>
    let config : Config :=
      ⟨given.maxDepth.getD Config.default.maxDepth,
        given.wrapLikePattern.getD Config.default.wrapLikePattern⟩
    config.validate
    .ok config

end Criteria
