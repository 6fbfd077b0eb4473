import Criteria.Proofs.Predicate.Tree
import Criteria.Proofs.Value.Literal

/-! Rendered predicates read back, so that no two predicates are rendered alike. -/

namespace Criteria

/-- Elements with a separator between them are the first and each other one behind a separator. -/
theorem intercalate_cons (separator first : List Char) (others : List (List Char)) :
    separator.intercalate (first :: others) =
      first ++ others.flatMap fun other => separator ++ other := by
  -- The induction is on the other elements, each of which becomes the first in turn.
  induction others generalizing first with
  | nil => simp
  | cons other others ih =>
    rw [List.intercalate_cons_cons, ih, List.flatMap_cons]
    simp only [List.append_assoc]

namespace AttributePath

/-- Whether a path has segments, which consist of letters, digits and underscores. -/
def IsPlain (path : AttributePath) : Prop :=
  path.segments ≠ [] ∧
    ∀ segment ∈ path.segments, ∀ c ∈ segment.toList, (c.isAlphanum || c = '_') = true

/-- Whether a character may stand in the text of a plain path. -/
def isPart (c : Char) : Bool :=
  c.isAlphanum || c = '_' || c = '.'

/-- The characters of a plain path are those of its segments and dots. -/
theorem isPart_of_mem_write {path : AttributePath} (plain : path.IsPlain) :
    ∀ c ∈ path.write, isPart c = true := by
  -- The text consists of the segments, and of a dot in front of each but the first.
  rcases path with ⟨segments⟩
  obtain ⟨nonempty, words⟩ := plain
  -- The characters of a segment are parts of a path by the condition on names.
  have word (segment : String) (member : segment ∈ segments) :
      ∀ c ∈ segment.toList, isPart c = true := by
    intro c inside
    rw [isPart, words segment member c inside, Bool.true_or]
  cases segments with
  | nil => exact absurd rfl nonempty
  | cons first others =>
    intro c inside
    rw [write, display, String.toList_intercalate, List.map_cons, intercalate_cons,
      List.mem_append] at inside
    rcases inside with start | later
    · exact word first List.mem_cons_self c start
    · -- Behind the first segment, a character is a dot or belongs to another segment.
      simp only [List.mem_flatMap, List.mem_map, List.mem_append] at later
      obtain ⟨-, ⟨segment, member, rfl⟩, dot | within⟩ := later
      · rw [List.mem_singleton.mp dot]
        decide
      · exact word segment (List.mem_cons_of_mem first member) c within

/-- The text of a plain path is the text of that path alone. -/
theorem ofText_write {path : AttributePath} (plain : path.IsPlain) :
    ofText (String.ofList path.write) = path := by
  rcases path with ⟨segments⟩
  obtain ⟨nonempty, words⟩ := plain
  -- No segment has a dot in it, so the text is split where it was joined.
  have dotless : ∀ characters ∈ segments.map String.toList, '.' ∉ characters := by
    intro characters member inside
    obtain ⟨segment, chosen, rfl⟩ := List.mem_map.mp member
    have word := words segment chosen '.' inside
    simp at word
  -- Splitting at the dots undoes the joining.
  have split := List.splitOn_intercalate '.' dotless (by simpa using nonempty)
  simp only [ofText, write, display, String.toList_intercalate, String.toList_ofList]
  rw [show ".".toList = ['.'] from rfl, split, List.map_map]
  simp [Function.comp_def]

end AttributePath

namespace Comparison

/-- The comparison whose symbol and a space a text begins with, and what follows them. -/
def read? (text : List Char) : Option (Comparison × List Char) :=
  all.findSome? fun comparison =>
    (after? (comparison.symbol.toList ++ [' ']) text).map fun rest => (comparison, rest)

/-- The symbol of a comparison is read back. -/
theorem read?_symbol (comparison : Comparison) (rest : List Char) :
    read? (comparison.symbol.toList ++ ' ' :: rest) = some (comparison, rest) := by
  cases comparison <;> rfl

end Comparison

/-- The literals that a text begins with, up to a parenthesis, and what follows it. -/
def readLiterals? : Nat → List Char → Option (List Value × List Char)
  | 0, _ => none
  | count + 1, text => do
    let (value, rest) ← Value.readLiteral? text
    match after? ", ".toList rest with
    | some rest =>
      let (values, rest) ← readLiterals? count rest
      some (value :: values, rest)
    | none =>
      let rest ← after? [')'] rest
      some ([value], rest)

/-- Literals in parentheses are read back, given that many steps as there are characters. -/
theorem readLiterals?_write {values : List Value} (filled : values ≠ [])
    (plain : ∀ value ∈ values, value.IsPlain) (rest : List Char) {count : Nat}
    (enough : ((", ".toList).intercalate (values.map Value.writeLiteral) ++
      ')' :: rest).length ≤ count) :
    readLiterals? count ((", ".toList).intercalate (values.map Value.writeLiteral) ++
      ')' :: rest) = some (values, rest) := by
  -- The induction is on the literals, with a step for each of them.
  induction values generalizing count with
  | nil => exact absurd rfl filled
  | cons value others ih =>
    obtain ⟨first, plainOthers⟩ := List.forall_mem_cons.mp plain
    obtain ⟨count, rfl⟩ : ∃ fewer, count = fewer + 1 := by
      simp only [List.length_append, List.length_cons] at enough
      exact ⟨count - 1, by omega⟩
    cases others with
    | nil =>
      -- The last literal is ended by the parenthesis.
      have stops : Stops Value.isLiteralPart (')' :: rest) := stops_cons rfl rest
      rw [List.map_cons, List.map_nil, List.intercalate_singleton, readLiterals?,
        Value.readLiteral?_writeLiteral first stops]
      rfl
    | cons next others =>
      have follow := @ih (List.cons_ne_nil next others) plainOthers count
      rw [List.map_cons, List.map_cons, List.intercalate_cons_cons, ← List.map_cons,
        List.append_assoc, List.append_assoc] at enough ⊢
      -- What is left behind the comma is shorter by the comma at least.
      generalize (", ".toList).intercalate _ ++ ')' :: rest = remaining at enough follow ⊢
      have fits : remaining.length ≤ count := by
        simp only [List.length_append, show ", ".toList.length = 2 from rfl] at enough
        omega
      -- A comma ends a literal, and the list goes on behind it.
      have stops : Stops Value.isLiteralPart (", ".toList ++ remaining) := stops_cons rfl _
      rw [readLiterals?, Value.readLiteral?_writeLiteral first stops]
      simp only [Option.bind_eq_bind, Option.bind_some, after?_append, follow fits]

namespace Predicate

section Tests

variable (path : AttributePath) (text : List Char)

/-- A comparison behind a path and a space, and what follows it. -/
def readComparison? : Option (Predicate × List Char) := do
  let (comparison, rest) ← Comparison.read? text
  let (value, rest) ← Value.readLiteral? rest
  some (.compare path comparison value, rest)

/-- A range behind a path and a space, and what follows it. -/
def readRange? : Option (Predicate × List Char) := do
  let rest ← after? "BETWEEN ".toList text
  let (low, rest) ← Value.readLiteral? rest
  let rest ← after? " AND ".toList rest
  let (high, rest) ← Value.readLiteral? rest
  some (.between path low high, rest)

/-- A keyword and a quoted pattern behind a path and a space, and what follows them. -/
def readPattern? (keyword : List Char) (make : AttributePath → String → Predicate) :
    Option (Predicate × List Char) := do
  let rest ← after? (keyword ++ ['\'']) text
  let (pattern, rest) ← unquote? rest
  some (make path (String.ofList pattern), rest)

/-- A keyword and a list behind a path and a space, and what follows them. -/
def readMembers? (keyword : List Char) (make : AttributePath → List Value → Predicate) :
    Option (Predicate × List Char) := do
  let rest ← after? (keyword ++ ['(']) text
  let (values, rest) ← readLiterals? rest.length rest
  some (make path values, rest)

/-- The test behind a path and a space, and what follows it. -/
def readTest? : Option (Predicate × List Char) :=
  readComparison? path text <|> readRange? path text <|>
  readPattern? path text "LIKE ".toList .like <|>
  readPattern? path text "NOT LIKE ".toList .notLike <|>
  readMembers? path text "IN ".toList .inList <|>
  readMembers? path text "NOT IN ".toList .notInList <|>
  (after? "IS NULL".toList text).map (fun rest => (.isNull path, rest)) <|>
  (after? "IS NOT NULL".toList text).map (fun rest => (.isNotNull path, rest))

end Tests

/-- What may stand behind a predicate: nothing, a closing parenthesis, or one more predicate. -/
inductive Ends : List Char → Prop
  | nothing : Ends []
  | close (rest : List Char) : Ends (')' :: rest)
  | and (rest : List Char) : Ends (" AND ".toList ++ rest)
  | or (rest : List Char) : Ends (" OR ".toList ++ rest)

/-- What stands behind a predicate goes on with no literal. -/
theorem Ends.stops_literal {rest : List Char} (ends : Ends rest) :
    Stops Value.isLiteralPart rest := by
  -- What ends a predicate begins with a parenthesis or a space.
  intro c head
  cases ends <;> cases head <;> rfl

/-- What stands behind a predicate goes on with no path. -/
theorem Ends.stops_path {rest : List Char} (ends : Ends rest) :
    Stops AttributePath.isPart rest := by
  -- Neither a parenthesis nor a space is part of a path.
  intro c head
  cases ends <;> cases head <;> rfl

/-- The path of a test, and what is rendered behind the path and a space. -/
def parts? : Predicate → Option (AttributePath × List Char)
  | .compare path comparison value =>
    some (path, comparison.symbol.toList ++ ' ' :: value.writeLiteral)
  | .between path low high =>
    some (path, "BETWEEN ".toList ++ low.writeLiteral ++ " AND ".toList ++ high.writeLiteral)
  | .like path pattern => some (path, "LIKE ".toList ++ quoted pattern.toList)
  | .notLike path pattern => some (path, "NOT LIKE ".toList ++ quoted pattern.toList)
  | .isNull path => some (path, "IS NULL".toList)
  | .isNotNull path => some (path, "IS NOT NULL".toList)
  | .inList path values => some (path, "IN ".toList ++ writeLiterals values)
  | .notInList path values => some (path, "NOT IN ".toList ++ writeLiterals values)
  | _ => none

/-- A test is rendered as its path, a space and the rest. -/
theorem write_of_parts? {predicate : Predicate} {path : AttributePath} {test : List Char}
    (splits : predicate.parts? = some (path, test)) :
    predicate.write = path.write ++ ' ' :: test := by
  -- Every test is rendered from its path on, grouped in one way or another.
  cases predicate <;> cases splits
  case compare => exact List.append_assoc _ _ _
  case between low high =>
    show path.write ++ " BETWEEN ".toList ++ low.writeLiteral ++ " AND ".toList ++
        high.writeLiteral = path.write ++ (" BETWEEN ".toList ++ low.writeLiteral ++
          " AND ".toList ++ high.writeLiteral)
    simp only [List.append_assoc]
  case like | notLike | inList | notInList => exact List.append_assoc path.write _ _
  case isNull | isNotNull => rfl

section Combinations

variable (children : List Predicate) (child : Predicate) (rest : List Char)

/-- A conjunction is rendered in parentheses. -/
theorem write_and_append : (Predicate.and children).write ++ rest =
    '(' :: (writeJoined " AND ".toList children ++ ')' :: rest) :=
  -- The rendering is the same, grouped from the other end.
  List.append_assoc ('(' :: writeJoined " AND ".toList children) [')'] rest

/-- A disjunction is rendered in parentheses. -/
theorem write_or_append : (Predicate.or children).write ++ rest =
    '(' :: (writeJoined " OR ".toList children ++ ')' :: rest) :=
  -- The rendering is the same, grouped from the other end.
  List.append_assoc ('(' :: writeJoined " OR ".toList children) [')'] rest

/-- A negation is rendered as a word before its child in parentheses. -/
theorem write_not_append : (Predicate.not child).write ++ rest =
    "NOT".toList ++ (" (".toList ++ (child.write ++ ')' :: rest)) := by
  -- The rendering is the same, grouped in another way.
  show "NOT".toList ++ " (".toList ++ child.write ++ [')'] ++ rest = _
  simp only [List.append_assoc, List.singleton_append]

end Combinations

/-- Whether the paths and literals of a node are plain. -/
def IsPlainNode : Predicate → Prop
  | .compare path _ value => path.IsPlain ∧ value.IsPlain
  | .between path low high => path.IsPlain ∧ low.IsPlain ∧ high.IsPlain
  | .like path _ => path.IsPlain
  | .notLike path _ => path.IsPlain
  | .isNull path => path.IsPlain
  | .isNotNull path => path.IsPlain
  | .inList path values => path.IsPlain ∧ ∀ value ∈ values, value.IsPlain
  | .notInList path values => path.IsPlain ∧ ∀ value ∈ values, value.IsPlain
  | _ => True

/-- A rendered pattern is read back. -/
theorem readPattern?_write (path : AttributePath) (keyword : List Char)
    (make : AttributePath → String → Predicate) (pattern : String) {rest : List Char}
    (ends : Ends rest) :
    readPattern? path (keyword ++ quoted pattern.toList ++ rest) keyword make =
      some (make path pattern, rest) := by
  -- The pattern is quoted, and no quote follows behind it.
  have written : keyword ++ quoted pattern.toList ++ rest =
      (keyword ++ ['\'']) ++ (doubleQuotes pattern.toList ++ '\'' :: rest) := by
    simp [quoted]
  rw [written, readPattern?, after?_append]
  simp only [Option.bind_eq_bind, Option.bind_some,
    unquote?_doubleQuotes _ ends.stops_literal.of_isLiteralPart.2, String.ofList_toList]

/-- A rendered list is read back. -/
theorem readMembers?_write (path : AttributePath) (keyword : List Char)
    (make : AttributePath → List Value → Predicate) {values : List Value} (filled : values ≠ [])
    (plain : ∀ value ∈ values, value.IsPlain) (rest : List Char) :
    readMembers? path (keyword ++ writeLiterals values ++ rest) keyword make =
      some (make path values, rest) := by
  -- The list has fewer literals than there are characters.
  have written : keyword ++ writeLiterals values ++ rest =
      (keyword ++ ['(']) ++ ((", ".toList).intercalate (values.map Value.writeLiteral) ++
        ')' :: rest) := by
    simp [writeLiterals]
  rw [written, readMembers?, after?_append]
  simp only [Option.bind_eq_bind, Option.bind_some,
    readLiterals?_write filled plain rest (Nat.le_refl _)]

/-- A rendered comparison is read back. -/
theorem readComparison?_write (path : AttributePath) (comparison : Comparison) {value : Value}
    (plain : value.IsPlain) {rest : List Char} (ends : Ends rest) :
    readComparison? path (comparison.symbol.toList ++ ' ' :: value.writeLiteral ++ rest) =
      some (.compare path comparison value, rest) := by
  -- The symbol ends with a space, and the literal where the predicate does.
  rw [List.append_assoc, List.cons_append, readComparison?, Comparison.read?_symbol]
  simp only [Option.bind_eq_bind, Option.bind_some,
    Value.readLiteral?_writeLiteral plain ends.stops_literal]

/-- A rendered range is read back. -/
theorem readRange?_write (path : AttributePath) {low high : Value} (lowPlain : low.IsPlain)
    (highPlain : high.IsPlain) {rest : List Char} (ends : Ends rest) :
    readRange? path ("BETWEEN ".toList ++ low.writeLiteral ++ " AND ".toList ++
      high.writeLiteral ++ rest) = some (.between path low high, rest) := by
  -- The word between the bounds ends the first of them.
  simp only [List.append_assoc]
  have stops := (Ends.and (high.writeLiteral ++ rest)).stops_literal
  rw [readRange?, after?_append]
  simp only [Option.bind_eq_bind, Option.bind_some,
    Value.readLiteral?_writeLiteral lowPlain stops, after?_append,
    Value.readLiteral?_writeLiteral highPlain ends.stops_literal]

/-- A rendered test is read back behind its path. -/
theorem readTest?_parts {predicate : Predicate} (plain : predicate.IsPlainNode)
    (filled : predicate.IsFilled) {path : AttributePath} {test : List Char}
    (splits : predicate.parts? = some (path, test)) {rest : List Char} (ends : Ends rest) :
    readTest? path (test ++ rest) = some (predicate, rest) := by
  -- Tests of other kinds begin with other words, and so does not what is read before.
  cases predicate <;> cases splits
  -- A sign stands before one literal, and the range has a word before each of its two.
  case compare comparison value =>
    rw [readTest?, readComparison?_write path comparison plain.2 ends]
    rfl
  case between low high =>
    rw [readTest?, readRange?_write path plain.2.1 plain.2.2 ends]
    rfl
  -- The readers of patterns and of members are told the words that go before them.
  case like pattern =>
    rw [readTest?, readPattern?_write path _ _ pattern ends]
    rfl
  case notLike pattern =>
    rw [readTest?, readPattern?_write path "NOT LIKE ".toList _ pattern ends]
    rfl
  case inList values =>
    rw [readTest?, readMembers?_write path "IN ".toList _ filled plain.2 rest]
    rfl
  case notInList values =>
    rw [readTest?, readMembers?_write path "NOT IN ".toList _ filled plain.2 rest]
    rfl
  -- The tests for null are words alone.
  case isNull => rfl
  case isNotNull => rfl

/-- The predicate that a word begins, which is no group, and what follows the predicate. -/
def readSingle? (word rest : List Char) : Option (Predicate × List Char) :=
  match (after? [' '] rest).bind (readTest? (AttributePath.ofText (String.ofList word))) with
  | some found => some found
  | none =>
    if word = "TRUE".toList then some (.always, rest)
    else if word = "FALSE".toList then some (.never, rest)
    else none

mutual

/-- The predicate that a text begins with, and what follows it, in so many steps at most. -/
def read? : Nat → List Char → Option (Predicate × List Char)
  | 0, _ => none
  | steps + 1, text =>
    match after? ['('] text with
    | some rest => do
      let (first, rest) ← read? steps rest
      if (after? " AND ".toList rest).isSome then
        let (others, rest) ← readOthers? " AND ".toList steps rest
        some (.and (first :: others), rest)
      else
        let (others, rest) ← readOthers? " OR ".toList steps rest
        some (.or (first :: others), rest)
    | none =>
      let word := text.takeWhile AttributePath.isPart
      let rest := text.dropWhile AttributePath.isPart
      match after? " (".toList rest with
      | some rest =>
        if word = "NOT".toList then do
          let (child, rest) ← read? steps rest
          let rest ← after? [')'] rest
          some (.not child, rest)
        else none
      | none => readSingle? word rest

/-- The predicates of a group behind its first one, and what follows the group. -/
def readOthers? (separator : List Char) : Nat → List Char → Option (List Predicate × List Char)
  | 0, _ => none
  | steps + 1, text =>
    match after? [')'] text with
    | some rest => some ([], rest)
    | none => do
      let rest ← after? separator text
      let (child, rest) ← read? steps rest
      let (children, rest) ← readOthers? separator steps rest
      some (child :: children, rest)

end

/-- Whether the paths and literals in a predicate are plain and all its nodes have the members that
they need. -/
def IsPlain (predicate : Predicate) : Prop :=
  ∀ node ∈ predicate.nodes, node.IsPlainNode ∧ node.IsFilled

/-- A predicate is read back from its rendering, whatever may stand behind it. -/
def ReadsBack (predicate : Predicate) : Prop :=
  ∀ steps rest, Ends rest → predicate.write.length < steps →
    read? steps (predicate.write ++ rest) = some (predicate, rest)

/-- A predicate is read back if it is in one step more than its rendering has characters. -/
theorem ReadsBack.of_step {predicate : Predicate}
    (reads : ∀ steps rest, Ends rest → predicate.write.length ≤ steps →
      read? (steps + 1) (predicate.write ++ rest) = some (predicate, rest)) :
    predicate.ReadsBack := by
  -- A rendering that is shorter than the steps leaves one step at least.
  intro steps rest ends enough
  obtain ⟨steps, rfl⟩ : ∃ fewer, steps = fewer + 1 := ⟨steps - 1, by omega⟩
  exact reads steps rest ends (by omega)

/-- Predicates with a separator between them are the first and each other one behind a separator. -/
theorem writeJoined_cons (separator : List Char) (first : Predicate) (others : List Predicate) :
    writeJoined separator (first :: others) =
      first.write ++ others.flatMap fun other => separator ++ other.write := by
  -- The induction is on the other predicates, each of which becomes the first in turn.
  induction others generalizing first with
  | nil => simp [writeJoined]
  | cons other others ih =>
    rw [writeJoined, ih, List.flatMap_cons]
    simp only [List.append_assoc]

/-- What separates the predicates of a group. -/
structure Separates (separator : List Char) : Prop where
  ends (rest : List Char) : Ends (separator ++ rest)
  opens (rest : List Char) : after? [')'] (separator ++ rest) = none
  positive : 0 < separator.length

/-- The word of conjunctions separates predicates. -/
theorem separates_and : Separates " AND ".toList where
  -- The word is between spaces, so no parenthesis begins it.
  ends := .and
  opens _ := rfl
  positive := by decide

/-- The word of disjunctions separates predicates. -/
theorem separates_or : Separates " OR ".toList where
  -- The word is between spaces, so no parenthesis begins it.
  ends := .or
  opens _ := rfl
  positive := by decide

/-- The predicates of a group behind its first one are read back, if each of them is. -/
theorem readOthers?_write {separator : List Char} (separates : Separates separator)
    {others : List Predicate} (each : ∀ other ∈ others, other.ReadsBack) (rest : List Char)
    {steps : Nat}
    (enough : (others.flatMap fun other => separator ++ other.write).length < steps) :
    readOthers? separator steps ((others.flatMap fun other => separator ++ other.write) ++
      ')' :: rest) = some (others, rest) := by
  -- Each further predicate takes one step, and is shorter than what is left.
  induction others generalizing steps with
  -- Without further predicates, the group is closed at once.
  | nil =>
    obtain ⟨steps, rfl⟩ := Nat.exists_eq_add_one_of_ne_zero (Nat.ne_of_gt enough)
    rfl
  | cons other others ih =>
    obtain ⟨first, eachOther⟩ := List.forall_mem_cons.mp each
    obtain ⟨steps, rfl⟩ :=
      Nat.exists_eq_add_one_of_ne_zero (Nat.ne_of_gt (Nat.zero_lt_of_lt enough))
    have positive := separates.positive
    simp only [List.flatMap_cons, List.length_append] at enough
    have follow := @ih eachOther steps (by omega)
    rw [List.flatMap_cons, List.append_assoc, List.append_assoc, readOthers?, separates.opens,
      after?_append]
    simp only [Option.bind_eq_bind, Option.bind_some]
    rw [first steps _ ?_ (by omega)]
    · simp only [Option.bind_some, follow]
    -- Behind a predicate stands the separator before the next one, or the group is closed.
    · cases others with
      | nil => exact .close rest
      | cons next others =>
        rw [List.flatMap_cons, List.append_assoc, List.append_assoc]
        exact separates.ends _

/-- A word that is no test is read as what stands alone. -/
theorem readSingle?_of_ends (word : List Char) {rest : List Char} (ends : Ends rest) :
    readSingle? word rest =
      if word = "TRUE".toList then some (.always, rest)
      else if word = "FALSE".toList then some (.never, rest) else none := by
  -- Behind a test there would be a space and then a symbol or a keyword.
  cases ends <;> rfl

/-- The path of a plain test is plain. -/
theorem IsPlainNode.path {predicate : Predicate} (plain : predicate.IsPlainNode)
    {path : AttributePath} {test : List Char} (splits : predicate.parts? = some (path, test)) :
    path.IsPlain := by
  -- A test says first that its path is plain, and some say nothing more.
  cases predicate <;> cases splits
  case compare | between | inList | notInList => exact plain.1
  case like | notLike | isNull | isNotNull => exact plain

/-- No parenthesis stands behind the path of a test. -/
theorem after?_parts {predicate : Predicate} {path : AttributePath} {test : List Char}
    (splits : predicate.parts? = some (path, test)) (rest : List Char) :
    after? " (".toList (' ' :: (test ++ rest)) = none := by
  -- Behind the space comes a symbol or a keyword.
  cases predicate <;> cases splits
  case compare comparison _ => cases comparison <;> rfl
  case between | like | notLike | isNull | isNotNull | inList | notInList => rfl

/-- A test is read back, as no group and no negation begins as it does. -/
theorem readsBack_of_parts? {predicate : Predicate} (plain : predicate.IsPlainNode)
    (filled : predicate.IsFilled) {path : AttributePath} {test : List Char}
    (splits : predicate.parts? = some (path, test)) : predicate.ReadsBack := by
  -- The path ends at the space, and the test begins behind it.
  refine .of_step fun steps rest ends _ => ?_
  have pathPlain := plain.path splits
  have parts := AttributePath.isPart_of_mem_write pathPlain
  have stops : Stops AttributePath.isPart (' ' :: (test ++ rest)) := stops_cons rfl _
  -- The path does not begin with a parenthesis, which is in no path.
  have noGroup : after? ['('] (path.write ++ ' ' :: (test ++ rest)) = none := by
    cases written : path.write with
    | nil => rfl
    | cons c others =>
      have isPart := parts c (by rw [written]; exact List.mem_cons_self)
      refine after?_cons_of_ne ?_ _ _
      rintro rfl
      cases isPart
  rw [write_of_parts? splits, List.append_assoc, List.cons_append, read?, noGroup]
  simp only [takeWhile_append_of_stops parts stops, dropWhile_append_of_stops parts stops,
    after?_parts splits]
  -- Behind the space, what is read of the test is the predicate with its path.
  rw [readSingle?, show after? [' '] (' ' :: (test ++ rest)) = some (test ++ rest) from rfl,
    Option.bind_some, AttributePath.ofText_write pathPlain,
    readTest?_parts plain filled splits ends]

/-- A word that stands alone is read back. -/
theorem read?_word (word : List Char) (parts : ∀ c ∈ word, AttributePath.isPart c = true)
    (steps : Nat) {rest : List Char} (ends : Ends rest)
    (noGroup : after? ['('] (word ++ rest) = none) :
    read? (steps + 1) (word ++ rest) = readSingle? word rest := by
  -- The word ends where the predicate does, with no parenthesis behind it.
  have noNegation : after? " (".toList rest = none := by cases ends <;> rfl
  rw [read?, noGroup]
  simp only [takeWhile_append_of_stops parts ends.stops_path,
    dropWhile_append_of_stops parts ends.stops_path, noNegation]

/-- The children of a plain group are plain. -/
theorem IsPlain.of_children {children : List Predicate} {group : Predicate}
    (nodes : group.nodes = group :: allNodes children) (plain : group.IsPlain) :
    ∀ child ∈ children, child.IsPlain := by
  -- The nodes of a child are nodes of the group.
  intro child member node inside
  refine plain node ?_
  rw [nodes]
  exact List.mem_cons_of_mem group (mem_allNodes_iff.mpr ⟨child, member, inside⟩)

/-- A plain group whose plain children are read back consists of two children or more that are. -/
theorem IsPlain.exists_children {children : List Predicate} {group : Predicate}
    (plain : group.IsPlain) (nodes : group.nodes = group :: allNodes children)
    (filled : 2 ≤ children.length)
    (reads : ∀ child ∈ children, child.IsPlain → child.ReadsBack) :
    ∃ first second others, children = first :: second :: others ∧ first.ReadsBack ∧
      ∀ other ∈ second :: others, other.ReadsBack := by
  -- With two children or more, there is a first and a second one.
  have each : ∀ child ∈ children, child.ReadsBack := fun child member =>
    reads child member (plain.of_children nodes child member)
  rcases children with _ | ⟨first, _ | ⟨second, others⟩⟩
  · simp at filled
  · simp at filled
  · obtain ⟨firstReads, othersRead⟩ := List.forall_mem_cons.mp each
    exact ⟨first, second, others, rfl, firstReads, othersRead⟩

/-- A group of two predicates or more is read back, if each of them is. -/
theorem read?_group {separator : List Char} (separates : Separates separator)
    {first second : Predicate} {others : List Predicate} (firstReads : first.ReadsBack)
    (reads : ∀ other ∈ second :: others, other.ReadsBack) {rest : List Char} {steps : Nat}
    (enough : (writeJoined separator (first :: second :: others)).length < steps) :
    ∃ remaining, read? steps (writeJoined separator (first :: second :: others) ++ ')' :: rest) =
        some (first, separator ++ remaining) ∧
      readOthers? separator steps (separator ++ remaining) = some (second :: others, rest) := by
  -- Behind the first child come the others, each after its separator.
  rw [writeJoined_cons, List.length_append] at enough
  have others_read := readOthers?_write separates reads rest (by omega : _ < steps)
  rw [writeJoined_cons, List.append_assoc]
  rw [List.flatMap_cons, List.append_assoc, List.append_assoc] at others_read ⊢
  exact ⟨_, firstReads steps _ (separates.ends _) (by omega), others_read⟩

/-- A plain predicate is read back from its rendering. -/
theorem IsPlain.readsBack {predicate : Predicate} (plain : predicate.IsPlain) :
    predicate.ReadsBack := by
  -- The induction follows the tree, and the first characters tell the kind of the node.
  induction predicate with
  -- A constant is a word that ends where the text does.
  | always =>
    refine .of_step fun steps rest ends _ => ?_
    show read? (steps + 1) ("TRUE".toList ++ rest) = _
    rw [read?_word _ (List.all_eq_true.mp rfl) steps ends rfl, readSingle?_of_ends _ ends,
      if_pos rfl]
  | never =>
    refine .of_step fun steps rest ends _ => ?_
    show read? (steps + 1) ("FALSE".toList ++ rest) = _
    rw [read?_word _ (List.all_eq_true.mp rfl) steps ends rfl, readSingle?_of_ends _ ends,
      if_neg (by decide), if_pos rfl]
  -- The word behind the first child tells a conjunction from a disjunction.
  | and children ih =>
    have filled : 2 ≤ children.length := (plain _ (mem_nodes_self _)).2
    obtain ⟨first, second, others, rfl, firstReads, reads⟩ :=
      plain.exists_children (by rw [nodes]) filled ih
    refine .of_step fun steps rest ends enough => ?_
    have length := congrArg List.length (write_and_append (first :: second :: others) [])
    simp only [List.length_append, List.length_cons] at length
    obtain ⟨remaining, start, finish⟩ :=
      @read?_group _ separates_and _ _ _ firstReads reads rest steps (by omega)
    rw [write_and_append, read?, show after? ['('] ('(' :: _) = some _ from rfl]
    simp only [start, Option.bind_eq_bind, Option.bind_some]
    rw [after?_append, Option.isSome_some, if_pos rfl, finish]
    rfl
  | or children ih =>
    have filled : 2 ≤ children.length := (plain _ (mem_nodes_self _)).2
    obtain ⟨first, second, others, rfl, firstReads, reads⟩ :=
      plain.exists_children (by rw [nodes]) filled ih
    refine .of_step fun steps rest ends enough => ?_
    have length := congrArg List.length (write_or_append (first :: second :: others) [])
    simp only [List.length_append, List.length_cons] at length
    obtain ⟨remaining, start, finish⟩ :=
      @read?_group _ separates_or _ _ _ firstReads reads rest steps (by omega)
    rw [write_or_append, read?, show after? ['('] ('(' :: _) = some _ from rfl]
    simp only [start, Option.bind_eq_bind, Option.bind_some]
    rw [show after? " AND ".toList (" OR ".toList ++ remaining) = none from rfl,
      Option.isSome_none, if_neg Bool.false_ne_true, finish]
    rfl
  -- The word and the parenthesis behind it belong to a negation only.
  | not child ih =>
    have reads := ih fun node inside => plain node (by
      rw [nodes]
      exact List.mem_cons_of_mem _ inside)
    refine .of_step fun steps rest ends enough => ?_
    have length := congrArg List.length (write_not_append child [])
    simp only [List.length_append, List.length_cons] at length
    have stops : Stops AttributePath.isPart (" (".toList ++ (child.write ++ ')' :: rest)) :=
      stops_cons rfl _
    have parts : ∀ c ∈ "NOT".toList, AttributePath.isPart c = true := List.all_eq_true.mp rfl
    rw [write_not_append, read?, show after? ['('] ("NOT".toList ++ _) = none from rfl]
    simp only [takeWhile_append_of_stops parts stops, dropWhile_append_of_stops parts stops,
      after?_append, if_true]
    simp only [reads steps _ (.close rest) (by omega), Option.bind_eq_bind, Option.bind_some]
    rfl
  -- A test is a path with what is asked of it behind.
  | compare | between | like | notLike | isNull | isNotNull | inList | notInList =>
    have node := plain _ (mem_nodes_self _)
    exact readsBack_of_parts? node.1 node.2 rfl

/-- Plain predicates that are rendered alike are one predicate. -/
theorem eq_of_display_eq {left right : Predicate} (leftPlain : left.IsPlain)
    (rightPlain : right.IsPlain) (same : left.display = right.display) : left = right := by
  have written : left.write = right.write := String.ofList_injective same
  -- Both are what is read back from the one rendering.
  have leftRead := leftPlain.readsBack (left.write.length + 1) [] .nothing (Nat.lt_succ_self _)
  have rightRead := rightPlain.readsBack (left.write.length + 1) [] .nothing
    (by rw [written]; exact Nat.lt_succ_self _)
  rw [← written, leftRead] at rightRead
  exact congrArg Prod.fst (Option.some.inj rightRead)

/-- The denial of a pattern on an attribute with the name of an operator. -/
def deniedPattern : Predicate :=
  .not (.notLike (AttributePath.ofText "NOT") "it's AND")

/-- Only one plain predicate has the rendering of the denied pattern. -/
theorem eq_of_display_eq_deniedPattern :
    deniedPattern.display = "NOT (NOT NOT LIKE 'it''s AND')" ∧
      deniedPattern = .not (.notLike ⟨["NOT"]⟩ "it's AND") := by
  -- The path is a word of letters, so the predicate is plain.
  have plain : (Predicate.not (.notLike ⟨["NOT"]⟩ "it's AND")).IsPlain := by
    intro node member
    simp only [nodes, List.mem_cons, List.not_mem_nil, or_false] at member
    rcases member with rfl | rfl
    · exact ⟨trivial, trivial⟩
    · have word : ∀ c ∈ "NOT".toList, (c.isAlphanum || c = '_') = true := List.all_eq_true.mp rfl
      exact ⟨⟨by decide, List.forall_mem_singleton.mpr word⟩, trivial⟩
  exact ⟨rfl, eq_of_display_eq plain plain rfl⟩

end Predicate

end Criteria
