import Criteria.Json.Basic
import Criteria.Text.Numeral

/-! The tokens of a JSON text, found one character at a time. -/

namespace Criteria

/-- A token of a JSON text. -/
inductive JsonToken where
  | openArray
  | closeArray
  | openObject
  | closeObject
  | comma
  | colon
  | null
  | boolean (truth : Bool)
  | number (number : JsonNumber)
  | string (content : String)
  /-- A string with an escape for half of a character whose other half is not there. -/
  | unpaired
  /-- Characters that no token begins with or goes on with. -/
  | bad
deriving DecidableEq

namespace JsonToken

/-- Where in a number the last character stands. -/
inductive NumberPart where
  | minus
  | zero
  | whole
  | point
  | fraction
  | exponentMark
  | exponentSign
  | exponent
deriving DecidableEq

namespace NumberPart

/-- The part that a next character belongs to, if the number can go on with it. -/
def next? (part : NumberPart) (c : Char) : Option NumberPart :=
  match part with
  | .minus => if c = '0' then some .zero else if c.isDigit then some .whole else none
  | .zero => afterWhole? c
  | .whole => if c.isDigit then some .whole else afterWhole? c
  | .point => if c.isDigit then some .fraction else none
  | .fraction => if c.isDigit then some .fraction else afterFraction? c
  | .exponentMark =>
    if c = '+' ∨ c = '-' then some .exponentSign else if c.isDigit then some .exponent else none
  | .exponentSign => if c.isDigit then some .exponent else none
  | .exponent => if c.isDigit then some .exponent else none
where
  /-- An exponent may follow a fraction. -/
  afterFraction? (c : Char) : Option NumberPart :=
    if c = 'e' ∨ c = 'E' then some .exponentMark else none
  /-- A point or an exponent may follow a whole part. -/
  afterWhole? (c : Char) : Option NumberPart :=
    if c = '.' then some .point else afterFraction? c

/-- Whether a number may end with this part. -/
def mayEnd : NumberPart → Bool
  | .zero | .whole | .fraction | .exponent => true
  | _ => false

end NumberPart

/-- The characters of a number read so far, digits last to first. -/
structure NumberText where
  negative : Bool
  whole : List Char
  fraction : List Char
  exponentNegative : Bool
  exponent : List Char
  /-- Whether a point or an exponent has been met. -/
  plain : Bool
deriving DecidableEq

namespace NumberText

/-- The number text before any character. -/
def none : NumberText := ⟨false, [], [], false, [], true⟩

/-- The number text with one more character of a part. -/
def add (seen : NumberText) (part : NumberPart) (c : Char) : NumberText :=
  match part with
  | .minus => { seen with negative := true }
  | .zero | .whole => { seen with whole := c :: seen.whole }
  | .point => { seen with plain := false }
  | .fraction => { seen with fraction := c :: seen.fraction }
  | .exponentMark => { seen with plain := false }
  | .exponentSign => { seen with exponentNegative := c = '-' }
  | .exponent => { seen with exponent := c :: seen.exponent }

/-- How many digits of a number are looked at one by one. -/
def countedDigits : Nat := 768

/--
The decimal of a run of digits and the power of ten of the last of them.

Any digits past the counted ones stand together for a single one, even where all are zeros; no
double and no point halfway between two of them has more digits than are counted.
-/
def toDecimal (negative : Bool) (run : List Char) (power : Int) : Decimal :=
  let run := run.dropWhile fun c => c = '0'
  if run.length ≤ countedDigits then ⟨negative, Numeral.value run, power⟩
  else
    ⟨negative, Numeral.value (run.take countedDigits ++ ['1']),
      power + (run.length - (countedDigits + 1) : Nat)⟩

/-- The number of a text that may end. -/
def toNumber (seen : NumberText) : JsonNumber :=
  if seen.plain then .ofInteger seen.negative (Numeral.value seen.whole.reverse)
  else
    let magnitude : Int := Numeral.value seen.exponent.reverse
    let exponent := if seen.exponentNegative then -magnitude else magnitude
    -- Zeros that end a fraction are no digits of the number.
    let fraction := (seen.fraction.dropWhile fun c => c = '0').reverse
    .ofDecimal (toDecimal seen.negative (seen.whole.reverse ++ fraction) (exponent - fraction.length))

end NumberText

/-- The content of a string read so far. -/
structure StringText where
  /-- The characters, last to first. -/
  characters : List Char
  /-- The first half of a character that was written as two escapes. -/
  half : Option Nat
  /-- Whether every half so far has found its other half. -/
  paired : Bool
deriving DecidableEq

namespace StringText

/-- The content before any character. -/
def none : StringText := ⟨[], .none, true⟩

/-- The content with one more character; a half that waits stays alone. -/
def add (seen : StringText) (c : Char) : StringText :=
  ⟨c :: seen.characters, .none, seen.paired && seen.half.isNone⟩

/-- The content with a code unit of 16 bits, two halves making one character. -/
def addUnit (seen : StringText) (code : Nat) : StringText :=
  if 0xD800 ≤ code ∧ code ≤ 0xDBFF then
    ⟨seen.characters, some code, seen.paired && seen.half.isNone⟩
  else if 0xDC00 ≤ code ∧ code ≤ 0xDFFF then
    match seen.half with
    | some high =>
      let point := 0x10000 + (high - 0xD800) * 0x400 + (code - 0xDC00)
      ⟨Char.ofNat point :: seen.characters, .none, seen.paired⟩
    | .none => ⟨seen.characters, .none, false⟩
  else seen.add (Char.ofNat code)

/-- The token of a string that has ended. -/
def toToken (seen : StringText) : JsonToken :=
  if seen.paired && seen.half.isNone then .string (String.ofList seen.characters.reverse)
  else .unpaired

end StringText

/-- What the characters since the last token are part of. -/
inductive Scan where
  | between
  /-- A word, with its missing letters and its token. -/
  | word (missing : List Char) (token : JsonToken)
  | number (part : NumberPart) (seen : NumberText)
  | string (seen : StringText)
  /-- A backslash in a string. -/
  | escape (seen : StringText)
  /-- An escape by code, with the digits still missing and the code so far. -/
  | unicode (seen : StringText) (missing : Nat) (code : Nat)
  /-- After characters that are no token. -/
  | stuck
deriving DecidableEq

/-- The character that a backslash and a letter stand for. -/
def escaped? (c : Char) : Option Char :=
  if c = '"' then some '"'
  else if c = '\\' then some '\\'
  else if c = '/' then some '/'
  else if c = 'b' then some '\x08'
  else if c = 'f' then some '\x0c'
  else if c = 'n' then some '\n'
  else if c = 'r' then some '\r'
  else if c = 't' then some '\t'
  else none

/-- The value of a hexadecimal digit in either case. -/
def hexValue? (c : Char) : Option Nat :=
  if c.isDigit then some (c.toNat - '0'.toNat)
  else if 'a' ≤ c ∧ c ≤ 'f' then some (c.toNat - 'a'.toNat + 10)
  else if 'A' ≤ c ∧ c ≤ 'F' then some (c.toNat - 'A'.toNat + 10)
  else none

/-- The blanks that may stand between tokens. -/
def isSpace (c : Char) : Bool :=
  c = ' ' || c = '\n' || c = '\t' || c = '\r'

/-- The tokens that end with a character between tokens, and what the character begins. -/
def Scan.start (c : Char) : List JsonToken × Scan :=
  if isSpace c then ([], .between)
  else if c = '[' then ([.openArray], .between)
  else if c = ']' then ([.closeArray], .between)
  else if c = '{' then ([.openObject], .between)
  else if c = '}' then ([.closeObject], .between)
  else if c = ',' then ([.comma], .between)
  else if c = ':' then ([.colon], .between)
  else if c = '"' then ([], .string .none)
  else if c = 'n' then ([], .word ['u', 'l', 'l'] .null)
  else if c = 't' then ([], .word ['r', 'u', 'e'] (.boolean true))
  else if c = 'f' then ([], .word ['a', 'l', 's', 'e'] (.boolean false))
  else if c = '-' then ([], .number .minus (NumberText.none.add .minus c))
  else if c = '0' then ([], .number .zero (NumberText.none.add .zero c))
  else if c.isDigit then ([], .number .whole (NumberText.none.add .whole c))
  else ([.bad], .stuck)

/-- The tokens that a character completes, and what it leaves unfinished. -/
def Scan.step (scan : Scan) (c : Char) : List JsonToken × Scan :=
  match scan with
  | .between => Scan.start c
  | .word [] _ => ([.bad], .stuck)
  | .word [last] token => if c = last then ([token], .between) else ([.bad], .stuck)
  | .word (expected :: missing) token =>
    if c = expected then ([], .word missing token) else ([.bad], .stuck)
  | .number part seen =>
    match part.next? c with
    | some next => ([], .number next (seen.add next c))
    | none =>
      -- A digit that the number cannot go on with would have to follow a leading zero.
      if part.mayEnd && !c.isDigit then
        let (tokens, after) := Scan.start c
        (.number seen.toNumber :: tokens, after)
      else ([.bad], .stuck)
  | .string seen =>
    if c = '"' then ([seen.toToken], .between)
    else if c = '\\' then ([], .escape seen)
    else if c.toNat < 0x20 then ([.bad], .stuck)
    else ([], .string (seen.add c))
  | .escape seen =>
    if c = 'u' then ([], .unicode seen 4 0)
    else match escaped? c with
      | some meant => ([], .string (seen.add meant))
      | none => ([.bad], .stuck)
  | .unicode seen missing code =>
    match hexValue? c with
    | none => ([.bad], .stuck)
    | some digit =>
      let code := 16 * code + digit
      if missing ≤ 1 then ([], .string (seen.addUnit code))
      else ([], .unicode seen (missing - 1) code)
  | .stuck => ([], .stuck)

/-- The tokens that the end of the text completes. -/
def Scan.finish : Scan → List JsonToken
  | .between => []
  | .stuck => []
  | .number part seen => if part.mayEnd then [.number seen.toNumber] else [.bad]
  | _ => [.bad]

/-- The tokens of a text, from what its first characters go on with. -/
def scanFrom (scan : Scan) : List Char → List JsonToken
  | [] => scan.finish
  | c :: rest =>
    let (tokens, after) := scan.step c
    tokens ++ scanFrom after rest

/-- The tokens of a text. -/
def scan (text : List Char) : List JsonToken :=
  scanFrom .between text

end JsonToken

end Criteria
