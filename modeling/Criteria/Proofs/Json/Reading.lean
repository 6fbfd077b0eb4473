import Criteria.Json.Reader
import Criteria.Proofs.Json.Scanning

/-! JSON that is written out reads back as it was, as deep as containers may be nested. -/

namespace Criteria

namespace Json

/-- JSON that is kept exactly: integers are in range, keys are texts, and containers are nested no
deeper than some depth. -/
inductive IsExact : Nat → Json → Prop
  | null (depth : Nat) : IsExact depth .null
  | boolean (depth : Nat) (truth : Bool) : IsExact depth (.boolean truth)
  | integer (depth : Nat) {number : Int} (least : JsonNumber.leastInteger ≤ number)
      (greatest : number ≤ JsonNumber.greatestInteger) : IsExact depth (.ofInt number)
  | string (depth : Nat) (content : String) : IsExact depth (.string content)
  | array {depth : Nat} {elements : List Json}
      (each : ∀ element ∈ elements, IsExact depth element) : IsExact (depth + 1) (.array elements)
  | object {depth : Nat} {members : List (String × Json)}
      (each : ∀ member ∈ members, IsExact depth member.2) :
      IsExact (depth + 1) (.ofMembers members)

/-- JSON that is nested no deeper than some depth is nested no deeper than any greater one. -/
theorem IsExact.mono {depth deeper : Nat} {value : Json} (exact : value.IsExact depth)
    (le : depth ≤ deeper) : value.IsExact deeper := by
  -- The induction is on how the value is nested, with more room at each level.
  induction exact generalizing deeper with
  | null => exact .null deeper
  | boolean _ truth => exact .boolean deeper truth
  | integer _ least greatest => exact .integer deeper least greatest
  | string _ content => exact .string deeper content
  -- There is room for the container, and so for its contents one level deeper.
  | array _ ih =>
    obtain ⟨deeper, rfl⟩ : ∃ less, deeper = less + 1 := ⟨deeper - 1, by omega⟩
    exact .array fun element member => ih element member (by omega)
  | object _ ih =>
    obtain ⟨deeper, rfl⟩ : ∃ less, deeper = less + 1 := ⟨deeper - 1, by omega⟩
    exact .object fun member inside => ih member inside (by omega)

/-- The document once a value has been read inside open containers. -/
def resume (limit : Option Nat) (value : Json) (rest : List JsonToken) : List Open → JsonDocument
  | [] => ⟨value, rest.isEmpty⟩
  | container :: outer => readTokens limit .separator (container.add value :: outer) rest

/-- Where a value is expected, it is read whatever stands around it, if so much may be open. -/
def ReadsBack (limit : Option Nat) (depth : Nat) (value : Json) : Prop :=
  ∀ expectation stack rest, (expectation = .value ∨ expectation = .firstElement) →
    (∀ most, limit = some most → depth + stack.length ≤ most) →
    Stops JsonToken.isNumberPart rest →
    readTokens limit expectation stack (JsonToken.scanFrom .between (value.write ++ rest)) =
      resume limit value (JsonToken.scanFrom .between rest) stack

variable {limit : Option Nat}

/-- A token that is a value by itself is read as that value. -/
theorem readTokens_scalar {expectation : Expectation}
    (expected : expectation = .value ∨ expectation = .firstElement) {token : JsonToken}
    {value : Json} (scalar : scalar? token = some value) (stack : List Open)
    (rest : List JsonToken) :
    readTokens limit expectation stack (token :: rest) = resume limit value rest stack := by
  -- Every token that is a scalar is one in both places.
  rcases expected with rfl | rfl <;> cases token <;> cases scalar <;> cases stack <;> rfl

/-- A bracket opens an array where one more container may be open. -/
theorem readTokens_openArray {expectation : Expectation}
    (expected : expectation = .value ∨ expectation = .firstElement) {stack : List Open}
    (may : mayOpen limit stack.length = true) (rest : List JsonToken) :
    readTokens limit expectation stack (.openArray :: rest) =
      readTokens limit .firstElement (.array [] :: stack) rest := by
  -- In both places the bracket asks whether there is room.
  have opens : readTokens limit expectation stack (.openArray :: rest) =
      if mayOpen limit stack.length then readTokens limit .firstElement (.array [] :: stack) rest
      else ⟨breakOff stack .broken, false⟩ := by
    rcases expected with rfl | rfl <;> rfl
  rw [opens, if_pos may]

/-- A brace opens an object where one more container may be open. -/
theorem readTokens_openObject {expectation : Expectation}
    (expected : expectation = .value ∨ expectation = .firstElement) {stack : List Open}
    (may : mayOpen limit stack.length = true) (rest : List JsonToken) :
    readTokens limit expectation stack (.openObject :: rest) =
      readTokens limit .firstKey (.object [] .missing :: stack) rest := by
  -- In both places the brace asks whether there is room.
  have opens : readTokens limit expectation stack (.openObject :: rest) =
      if mayOpen limit stack.length then
        readTokens limit .firstKey (.object [] .missing :: stack) rest
      else ⟨breakOff stack .broken, false⟩ := by
    rcases expected with rfl | rfl <;> rfl
  rw [opens, if_pos may]

/-- A bracket closes an array. -/
theorem readTokens_closeArray (elements : List Json) (stack : List Open) (rest : List JsonToken) :
    readTokens limit .separator (.array elements :: stack) (.closeArray :: rest) =
      resume limit (.array elements.reverse) rest stack := by
  -- What comes next depends on whether a container is open around it.
  cases stack <;> rfl

/-- A bracket closes an array that has no elements. -/
theorem readTokens_closeEmptyArray (stack : List Open) (rest : List JsonToken) :
    readTokens limit .firstElement (.array [] :: stack) (.closeArray :: rest) =
      resume limit (.array []) rest stack := by
  cases stack <;> rfl

/-- A brace closes an object. -/
theorem readTokens_closeObject (members : List (JsonKey × Json)) (key : JsonKey)
    (stack : List Open) (rest : List JsonToken) :
    readTokens limit .separator (.object members key :: stack) (.closeObject :: rest) =
      resume limit (.object members.reverse) rest stack := by
  -- What comes next depends on whether a container is open around it.
  cases stack <;> rfl

/-- A brace closes an object that has no members. -/
theorem readTokens_closeEmptyObject (stack : List Open) (rest : List JsonToken) :
    readTokens limit .firstKey (.object [] .missing :: stack) (.closeObject :: rest) =
      resume limit (.object []) rest stack := by
  cases stack <;> rfl

/-- A key and a colon are followed by the value of a member. -/
theorem readTokens_key {expectation : Expectation}
    (expected : expectation = .key ∨ expectation = .firstKey) (members : List (JsonKey × Json))
    (key : JsonKey) (content : String) (stack : List Open) (rest : List JsonToken) :
    readTokens limit expectation (.object members key :: stack)
        (.string content :: .colon :: rest) =
      readTokens limit .value (.object members (.text content) :: stack) rest := by
  -- The first key and a later one are read alike.
  rcases expected with rfl | rfl <;> rfl

/-- Elements that are read back themselves are read back in an array. -/
theorem readTokens_elements {depth : Nat} {first : Json} {others : List Json}
    (each : ∀ element ∈ first :: others, element.ReadsBack limit depth) (before : List Json)
    {expectation : Expectation} (expected : expectation = .value ∨ expectation = .firstElement)
    {stack : List Open} (fits : ∀ most, limit = some most → depth + stack.length < most)
    (rest : List Char) :
    readTokens limit expectation (.array before :: stack)
        (JsonToken.scanFrom .between (writeElements (first :: others) ++ ']' :: rest)) =
      resume limit (.array (before.reverse ++ first :: others))
        (JsonToken.scanFrom .between rest) stack := by
  -- The elements read so far move behind those before them, and the rest stays to be read.
  induction others generalizing first before expectation with
  | nil =>
    -- The bracket behind the last element ends it, even if it is a number.
    have closes : Stops JsonToken.isNumberPart (']' :: rest) := stops_cons rfl rest
    show readTokens limit expectation (.array before :: stack)
      (JsonToken.scanFrom .between (first.write ++ ']' :: rest)) = _
    rw [each first List.mem_cons_self _ _ _ expected ?_ closes]
    · show readTokens limit .separator (.array (first :: before) :: stack)
        (.closeArray :: JsonToken.scanFrom .between rest) = _
      rw [readTokens_closeArray, List.reverse_cons]
    · intro most same
      exact fits most same
  | cons next others ih =>
    -- A comma ends the first element, and the others follow it.
    have goesOn : Stops JsonToken.isNumberPart
        (',' :: (writeElements (next :: others) ++ ']' :: rest)) := stops_cons rfl _
    have split : writeElements (first :: next :: others) ++ ']' :: rest =
        first.write ++ ',' :: (writeElements (next :: others) ++ ']' :: rest) :=
      List.append_assoc first.write (',' :: writeElements (next :: others)) (']' :: rest)
    rw [split, each first List.mem_cons_self _ _ _ expected ?_ goesOn]
    · -- The element joins those before it, and the next value is expected.
      show readTokens limit .value (.array (first :: before) :: stack)
        (JsonToken.scanFrom .between (writeElements (next :: others) ++ ']' :: rest)) = _
      rw [ih (fun element member => each element (List.mem_cons_of_mem first member)) _ (.inl rfl),
        List.reverse_cons, List.append_assoc]
      rfl
    · intro most same
      exact fits most same

/-- A member with a text for its key is read up to its value. -/
theorem readTokens_member {depth : Nat} {value : Json} (reads : value.ReadsBack limit depth)
    (name : String) {expectation : Expectation}
    (expected : expectation = .key ∨ expectation = .firstKey) (before : List (JsonKey × Json))
    (key : JsonKey) {stack : List Open}
    (fits : ∀ most, limit = some most → depth + stack.length < most) {rest : List Char}
    (stops : Stops JsonToken.isNumberPart rest) :
    readTokens limit expectation (.object before key :: stack) (JsonToken.scanFrom .between
        (writeString name ++ ':' :: (value.write ++ rest))) =
      readTokens limit .separator (.object ((.text name, value) :: before) .missing :: stack)
        (JsonToken.scanFrom .between rest) := by
  -- The key is one token, the colon is another, and the value comes behind them.
  rw [JsonToken.scanFrom_writeString]
  show readTokens limit expectation (.object before key :: stack)
    (.string name :: .colon :: JsonToken.scanFrom .between (value.write ++ rest)) = _
  rw [readTokens_key expected, reads _ _ _ (.inl rfl) ?_ stops]
  · rfl
  · intro most same
    exact fits most same

/-- Members whose values are read back themselves are read back in an object. -/
theorem readTokens_members {depth : Nat} {first : String × Json} {others : List (String × Json)}
    (each : ∀ member ∈ first :: others, member.2.ReadsBack limit depth)
    (before : List (JsonKey × Json)) {expectation : Expectation}
    (expected : expectation = .key ∨ expectation = .firstKey) {stack : List Open}
    (fits : ∀ most, limit = some most → depth + stack.length < most) (rest : List Char) :
    readTokens limit expectation (.object before .missing :: stack) (JsonToken.scanFrom .between
        (writeMembers ((first :: others).map fun (key, value) => (.text key, value)) ++
          '}' :: rest)) =
      resume limit
        (.object (before.reverse ++ (first :: others).map fun (key, value) => (.text key, value)))
        (JsonToken.scanFrom .between rest) stack := by
  -- The members read so far move behind those before them, and the rest stays to be read.
  induction others generalizing first before expectation with
  | nil =>
    rcases first with ⟨name, value⟩
    -- The brace behind the last member ends its value.
    have closes : Stops JsonToken.isNumberPart ('}' :: rest) := stops_cons rfl rest
    have split : writeMembers [(.text name, value)] ++ '}' :: rest =
        writeString name ++ ':' :: (value.write ++ '}' :: rest) :=
      List.append_assoc (writeString name) (':' :: value.write) ('}' :: rest)
    rw [List.map_cons, List.map_nil, split,
      readTokens_member (each _ List.mem_cons_self) name expected before .missing fits closes]
    show readTokens limit .separator (.object ((.text name, value) :: before) .missing :: stack)
      (.closeObject :: JsonToken.scanFrom .between rest) = _
    rw [readTokens_closeObject, List.reverse_cons]
  | cons next others ih =>
    rcases first with ⟨name, value⟩
    have follow := ih (fun member inside => each member (List.mem_cons_of_mem _ inside))
      ((.text name, value) :: before) (.inl rfl)
    rw [List.map_cons] at follow
    rw [List.map_cons, List.map_cons]
    -- Of the members after the next one, only how they are written matters.
    generalize List.map _ others = written at follow ⊢
    -- The comma behind the value ends it, and then the next key is expected.
    have goesOn : Stops JsonToken.isNumberPart
        (',' :: (writeMembers ((.text next.1, next.2) :: written) ++ '}' :: rest)) :=
      stops_cons rfl _
    have split : writeMembers ((.text name, value) :: (.text next.1, next.2) :: written) ++
          '}' :: rest =
        writeString name ++ ':' :: (value.write ++
          ',' :: (writeMembers ((.text next.1, next.2) :: written) ++ '}' :: rest)) := by
      show (writeString name ++ ':' :: value.write ++
        ',' :: writeMembers ((.text next.1, next.2) :: written)) ++ '}' :: rest = _
      rw [List.append_assoc, List.append_assoc]
      rfl
    rw [split,
      readTokens_member (each _ List.mem_cons_self) name expected before .missing fits goesOn]
    show readTokens limit .key (.object ((.text name, value) :: before) .missing :: stack)
      (JsonToken.scanFrom .between
        (writeMembers ((.text next.1, next.2) :: written) ++ '}' :: rest)) = _
    rw [follow, List.reverse_cons, List.append_assoc]
    rfl

/-- Where a container fits, one more may be opened. -/
theorem mayOpen_of_fits {depth opened : Nat}
    (fits : ∀ most, limit = some most → depth + 1 + opened ≤ most) :
    mayOpen limit opened = true := by
  -- Only a limit can refuse a container.
  cases limit with
  | none => rfl
  | some most =>
    have within := fits most rfl
    exact decide_eq_true (by omega)

/-- JSON that is kept exactly is read back wherever it fits. -/
theorem IsExact.readsBack {depth : Nat} {value : Json} (exact : value.IsExact depth) :
    value.ReadsBack limit depth := by
  -- A scalar is one token, and a container holds values that are read back one level deeper.
  induction exact with
  -- Words, numbers and strings are one token each.
  | null depth =>
    intro expectation stack rest expected _ _
    exact readTokens_scalar expected rfl stack _
  | boolean depth truth =>
    intro expectation stack rest expected _ _
    cases truth <;> exact readTokens_scalar expected rfl stack _
  | integer depth least greatest =>
    intro expectation stack rest expected _ stops
    show readTokens limit expectation stack
      (JsonToken.scanFrom .between (Numeral.signed _ ++ rest)) = _
    rw [JsonToken.scanFrom_signed least greatest stops]
    exact readTokens_scalar expected rfl stack _
  | string depth content =>
    intro expectation stack rest expected _ _
    show readTokens limit expectation stack
      (JsonToken.scanFrom .between (writeString content ++ rest)) = _
    rw [JsonToken.scanFrom_writeString]
    exact readTokens_scalar expected rfl stack _
  -- A bracket opens the array, and another one closes it, with or without elements.
  | @array depth elements _ ih =>
    intro expectation stack rest expected fits _
    have split : (Json.array elements).write ++ rest =
        '[' :: (writeElements elements ++ ']' :: rest) :=
      List.append_assoc ('[' :: writeElements elements) [']'] rest
    rw [split]
    show readTokens limit expectation stack
      (.openArray :: JsonToken.scanFrom .between (writeElements elements ++ ']' :: rest)) = _
    rw [readTokens_openArray expected (mayOpen_of_fits fits)]
    cases elements with
    | nil => exact readTokens_closeEmptyArray stack _
    | cons first others =>
      refine readTokens_elements ih [] (.inr rfl) ?_ rest
      intro most same
      have within := fits most same
      omega
  -- Objects are read as arrays are, member by member.
  | @object depth members _ ih =>
    intro expectation stack rest expected fits _
    have split : (ofMembers members).write ++ rest =
        '{' :: (writeMembers (members.map fun (key, value) => (.text key, value)) ++
          '}' :: rest) :=
      List.append_assoc ('{' :: writeMembers _) ['}'] rest
    rw [split]
    show readTokens limit expectation stack (.openObject :: JsonToken.scanFrom .between
      (writeMembers (members.map fun (key, value) => (.text key, value)) ++ '}' :: rest)) = _
    rw [readTokens_openObject expected (mayOpen_of_fits fits)]
    cases members with
    | nil => exact readTokens_closeEmptyObject stack _
    | cons first others =>
      refine readTokens_members ih [] (.inr rfl) ?_ rest
      intro most same
      have within := fits most same
      omega

/-- JSON that is kept exactly and nested no deeper than is allowed reads back as it was written. -/
theorem IsExact.read_write {depth : Nat} {value : Json} (exact : value.IsExact depth)
    (fits : ∀ most, limit = some most → depth ≤ most) : read limit value.write = ⟨value, true⟩ := by
  -- Alone, a value stands inside no container and before nothing.
  have whole := exact.readsBack .value [] [] (.inl rfl) fits (stops_nil _)
  rwa [List.append_nil] at whole

end Json

end Criteria
