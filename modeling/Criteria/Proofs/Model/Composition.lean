import Criteria.Proofs.Model.Path

/-! Resolving a dotted path resolves its beginning, and the rest from the type reached there. -/

namespace Criteria

namespace AttributePath

/-- The part of a text before its first dot, or all of a text without dots. -/
def firstSegment (text : String) : String :=
  String.ofList (text.toList.takeWhile fun c => c ≠ '.')

/-- Two texts with a dot between them have the segments of the one and then those of the other. -/
theorem segments_ofText_append (first second : String) :
    (ofText (first ++ "." ++ second)).segments =
      (ofText first).segments ++ (ofText second).segments := by
  -- The dot between the texts is in neither of them.
  have whole : (first ++ "." ++ second).toList = first.toList ++ '.' :: second.toList := by
    simp
  rw [ofText, whole, List.splitOn_append_cons_self, List.map_append]
  rfl

/-- The first segment of a text has no other segments. -/
theorem segments_ofText_firstSegment (text : String) :
    (ofText (firstSegment text)).segments = [firstSegment text] := by
  -- It was taken from the text up to the first dot, so it holds none.
  have plain : ∀ c ∈ text.toList.takeWhile (fun c => c ≠ '.'), (c == '.') = false := by
    intro c within
    simpa using List.all_eq_true.mp List.all_takeWhile c within
  rw [ofText, firstSegment, String.toList_ofList, List.splitOn, List.splitOnP_eq_singleton plain]
  rfl

/-- A text without dots is its only segment, and any other one goes on after its first segment. -/
theorem segments_ofText (text : String) :
    (firstSegment text = text ∧ (ofText text).segments = [text]) ∨
      ∃ rest, text = firstSegment text ++ "." ++ rest ∧
        (ofText text).segments = firstSegment text :: (ofText rest).segments := by
  -- The text is cut before its first dot, if there is one.
  have alone := segments_ofText_firstSegment text
  have apart := List.takeWhile_append_dropWhile (p := fun c => c ≠ '.') (l := text.toList)
  -- What is left after the first segment is empty or starts with the dot.
  cases left : text.toList.dropWhile (fun c => c ≠ '.') with
  | nil =>
    rw [left, List.append_nil] at apart
    -- Without a dot the text is its own first segment.
    have same : firstSegment text = text := by rw [firstSegment, apart, String.ofList_toList]
    rw [same] at alone
    exact .inl ⟨same, alone⟩
  | cons dot rest =>
    -- What the first segment stops at can only be a dot.
    have found : dot = '.' := by
      have stops := List.head?_dropWhile_not (fun c => c ≠ '.') text.toList
      rw [left] at stops
      simpa using stops
    subst found
    have joined : text = firstSegment text ++ "." ++ String.ofList rest := by
      apply String.toList_inj.mp
      rw [left] at apart
      simpa [firstSegment] using apart.symm
    refine .inr ⟨String.ofList rest, joined, ?_⟩
    have parts := segments_ofText_append (firstSegment text) (String.ofList rest)
    rwa [← joined, alone] at parts

/-- Every text has a first segment, which its first dot ends. -/
theorem exists_segments_ofText (text : String) :
    ∃ rest, (ofText text).segments = firstSegment text :: rest := by
  -- The first segment is all of the text, or others follow it.
  obtain ⟨same, alone⟩ | ⟨rest, -, parts⟩ := segments_ofText text
  · exact ⟨[], by rw [same, alone]⟩
  · exact ⟨(ofText rest).segments, parts⟩

end AttributePath

/-- A reference has the name of the entity that it leads to. -/
theorem FieldKind.typeName_of_target? {kind : FieldKind} {target : EntityId}
    (leads : kind.target? = some target) : kind.typeName = target.name := by
  -- References of either kind carry the entity, and have its name.
  cases kind <;> cases leads <;> rfl

namespace Schema

variable (schema : Schema)

/-- Following segments and then others is following all of them, where one nullable segment makes
the whole way nullable. -/
theorem follow_append (reached : FieldKind) (before after : List String) :
    schema.follow reached (before ++ after) =
      schema.follow reached before >>= fun way =>
        schema.follow way.1 after >>= fun rest => .ok (rest.1, way.2 || rest.2) := by
  -- Each segment of the beginning is passed on both sides, or ends both with its error.
  induction before generalizing reached with
  -- Without a beginning, the walk is the one along the end.
  | nil =>
    simp only [List.nil_append, follow, Bind.bind, Except.bind, Bool.false_or]
    cases schema.follow reached after <;> rfl
  | cons segment before ih =>
    simp only [List.cons_append, follow, ih]
    cases schema.navigate reached segment with
    | error error => rfl
    | ok field =>
      simp only [Bind.bind, Except.bind]
      cases schema.follow field.kind before with
      | error error => rfl
      | ok way =>
        dsimp only
        cases schema.follow way.1 after with
        | error error => rfl
        -- A nullable segment on either part makes the whole way nullable.
        | ok rest => simp only [Bool.or_assoc]

/-- References of either kind to an entity lead to the same attributes. -/
theorem follow_of_target?_eq_some {reached : FieldKind} {target : EntityId}
    (leads : reached.target? = some target) (segment : String) (rest : List String) :
    schema.follow reached (segment :: rest) =
      schema.follow (.relation target) (segment :: rest) := by
  -- A segment is looked up on the entity that the reference leads to, whatever its kind.
  have alike : schema.navigate reached segment = schema.navigate (.relation target) segment := by
    rw [navigate, leads]
    rfl
  rw [follow, follow, alike]

/-- From an attribute that leads nowhere, the first segment is refused with its type. -/
theorem follow_of_target?_eq_none {reached : FieldKind} (ends : reached.target? = none)
    (segment : String) (rest : List String) :
    schema.follow reached (segment :: rest) = .error ⟨segment, reached.typeName⟩ := by
  -- The first segment is looked for on a type that has no attributes.
  rw [follow, navigate, ends]
  rfl

end Schema

namespace EntityModel

/-- An entity type of the same schema, which attributes of the model lead to. -/
def related (model : EntityModel) (target : EntityId) : EntityModel :=
  ⟨model.schema, target⟩

/-- The attribute that a dotted text leads to from an attribute of the model. -/
def resolveFrom (model : EntityModel) (start : Attribute) (text : String) :
    Except ResolveError Attribute :=
  match start.kind.target? with
  -- Nothing leads further from an attribute that is no reference.
  | none => .error ⟨AttributePath.firstSegment text, start.kind.typeName⟩
  | some target => do
    let last ← (model.related target).resolve text
    .ok ⟨⟨start.path.segments ++ last.path.segments⟩, last.kind, start.nullable || last.nullable⟩

/-- Resolving follows the segments of the text from a reference to the entity. -/
theorem resolve_eq (model : EntityModel) (text : String) :
    model.resolve text =
      model.schema.follow (.relation model.root) (AttributePath.ofText text).segments >>= fun way =>
        .ok ⟨AttributePath.ofText text, way.1, way.2⟩ := rfl

/-- Resolving from an attribute follows the segments of the text from its kind. -/
theorem resolveFrom_eq (model : EntityModel) (start : Attribute) (text : String) :
    model.resolveFrom start text =
      model.schema.follow start.kind (AttributePath.ofText text).segments >>= fun way =>
        .ok ⟨⟨start.path.segments ++ (AttributePath.ofText text).segments⟩, way.1,
          start.nullable || way.2⟩ := by
  -- There is a first segment, which a kind without attributes refuses at once.
  obtain ⟨rest, segments⟩ := AttributePath.exists_segments_ofText text
  rw [resolveFrom, segments]
  cases leads : start.kind.target? with
  | none =>
    rw [model.schema.follow_of_target?_eq_none leads]
    rfl
  -- From the entity reached, the text is resolved as from any root.
  | some target =>
    rw [model.schema.follow_of_target?_eq_some leads, ← segments]
    simp only [resolve_eq, related, Bind.bind, Except.bind]
    cases model.schema.follow (.relation target) (AttributePath.ofText text).segments <;> rfl

/-- A text joined by a dot from two resolves as its first half, and then as its second half from
the attribute found there. -/
theorem resolve_append (model : EntityModel) (first second : String) :
    model.resolve (first ++ "." ++ second) =
      model.resolve first >>= fun start => model.resolveFrom start second := by
  -- The segments of the joined text are followed through those of the first one.
  have joined : AttributePath.ofText (first ++ "." ++ second) =
      ⟨(AttributePath.ofText first).segments ++ (AttributePath.ofText second).segments⟩ := by
    rw [← AttributePath.segments_ofText_append]
  rw [resolve_eq, resolve_eq, joined, model.schema.follow_append]
  simp only [resolveFrom_eq, Bind.bind, Except.bind]
  cases model.schema.follow (.relation model.root) (AttributePath.ofText first).segments with
  -- If the first text leads nowhere, so does the joined one.
  | error error => rfl
  | ok way =>
    dsimp only
    cases model.schema.follow way.1 (AttributePath.ofText second).segments <;> rfl

/-- Behind a path that resolves, a text is resolved from the attribute that the path leads to. -/
theorem resolve_append_of_ok {model : EntityModel} {first : String} {start : Attribute}
    (resolved : model.resolve first = .ok start) (second : String) :
    model.resolve (first ++ "." ++ second) = model.resolveFrom start second := by
  -- The first half of the text leads to the attribute.
  rw [resolve_append, resolved]
  rfl

/-- From an attribute of another entity type, a text is refused as that type refuses it. -/
theorem resolveFrom_eq_error {model : EntityModel} {start : Attribute} {text : String}
    {error : ResolveError} (refused : model.resolveFrom start text = .error error) :
    (start.kind.target? = none ∧
        error = ⟨AttributePath.firstSegment text, start.kind.typeName⟩) ∨
      ∃ target, start.kind.target? = some target ∧
        (model.related target).resolve text = .error error := by
  -- Either nothing leads further from the attribute, or the entity reached refuses the text.
  rw [resolveFrom] at refused
  cases leads : start.kind.target? with
  | none =>
    rw [leads] at refused
    cases refused
    exact .inl ⟨rfl, rfl⟩
  | some target =>
    simp only [leads] at refused
    -- Joining the paths afterwards refuses nothing.
    cases inner : (model.related target).resolve text with
    | error reason =>
      rw [inner] at refused
      cases refused
      exact .inr ⟨target, rfl, inner⟩
    | ok last =>
      rw [inner] at refused
      cases refused

/-- A text goes wrong at a segment: what stands before it resolves, and the type reached there,
which is the entity itself in front of the first segment, has no attribute of that name. -/
inductive StopsAt (model : EntityModel) : String → ResolveError → Prop where
  | first {text : String} (missing : model.field? (AttributePath.firstSegment text) = none) :
      StopsAt model text ⟨AttributePath.firstSegment text, model.name⟩
  | later {before after : String} {reached : Attribute}
      (resolved : model.resolve before = .ok reached)
      (missing : ∀ target, reached.kind.target? = some target →
        (model.related target).field? (AttributePath.firstSegment after) = none) :
      StopsAt model (before ++ "." ++ after)
        ⟨AttributePath.firstSegment after, reached.kind.typeName⟩

/-- Where the rest of a text goes wrong on the entity reached, the whole text goes wrong. -/
theorem StopsAt.joined {model : EntityModel} {before rest : String} {reached : Attribute}
    {target : EntityId} {error : ResolveError} (resolved : model.resolve before = .ok reached)
    (leads : reached.kind.target? = some target)
    (stops : (model.related target).StopsAt rest error) :
    model.StopsAt (before ++ "." ++ rest) error := by
  -- The text goes wrong at its first segment, or further on.
  cases stops with
  | first missing =>
    -- The type reached is the entity that does not have the first segment of the rest.
    have stopped : model.StopsAt (before ++ "." ++ rest)
        ⟨AttributePath.firstSegment rest, reached.kind.typeName⟩ := by
      refine .later resolved ?_
      intro other same
      rw [leads] at same
      cases same
      exact missing
    rwa [FieldKind.typeName_of_target? leads] at stopped
  | @later early late last inner missing =>
    -- The beginning of the rest resolves behind what stands before it.
    have further : model.resolve (before ++ "." ++ early) =
        .ok ⟨⟨reached.path.segments ++ last.path.segments⟩, last.kind,
          reached.nullable || last.nullable⟩ := by
      rw [resolve_append_of_ok resolved, resolveFrom, leads]
      dsimp only
      rw [inner]
      rfl
    -- The cut of the rest is a cut of the whole text.
    have regrouped : before ++ "." ++ (early ++ "." ++ late) =
        before ++ "." ++ early ++ "." ++ late := by
      simp only [String.append_assoc]
    have stopped := StopsAt.later further missing
    rwa [regrouped]

/-- A path is refused where its first segment names no attribute of the entity. -/
theorem resolve_of_field?_eq_none {model : EntityModel} {text : String}
    (missing : model.field? (AttributePath.firstSegment text) = none) :
    model.resolve text = .error ⟨AttributePath.firstSegment text, model.name⟩ := by
  -- The entity itself is reached through a reference to it, whose name is its own.
  obtain ⟨rest, segments⟩ := AttributePath.exists_segments_ofText text
  have absent : model.schema.attribute? (.relation model.root)
      (AttributePath.firstSegment text) = none := missing
  rw [resolve_eq, segments, Schema.follow, Schema.navigate_eq, absent]
  rfl

/-- A path of one segment resolves to the attribute that it names. -/
theorem resolve_of_field?_eq_some {model : EntityModel} {text : String} {field : Field}
    (alone : (AttributePath.ofText text).segments = [text])
    (found : model.field? text = some field) :
    model.resolve text = .ok ⟨⟨[text]⟩, field.kind, field.nullable⟩ := by
  -- There is one segment to follow, and it is found.
  have present : model.schema.attribute? (.relation model.root) text = some field := found
  have path : AttributePath.ofText text = ⟨[text]⟩ := by rw [← alone]
  rw [resolve_eq, path, Schema.follow, Schema.navigate_eq, present]
  simp [Schema.follow, Bind.bind, Except.bind]

/-- A refused path goes wrong at the segment that it is refused with. -/
theorem stopsAt_of_resolve {model : EntityModel} {text : String} {error : ResolveError}
    (refused : model.resolve text = .error error) : model.StopsAt text error := by
  -- The induction is on the segments, one entity type after the other.
  generalize length : (AttributePath.ofText text).segments.length = count
  induction count generalizing model text error with
  -- Every text has a segment.
  | zero =>
    obtain ⟨rest, segments⟩ := AttributePath.exists_segments_ofText text
    simp [segments] at length
  | succ count ih =>
    -- The first segment is missing on the entity, or the rest of the text is refused behind it.
    cases found : model.field? (AttributePath.firstSegment text) with
    | none =>
      rw [resolve_of_field?_eq_none found] at refused
      cases refused
      exact .first found
    | some field =>
      have start :=
        resolve_of_field?_eq_some (AttributePath.segments_ofText_firstSegment text) found
      obtain ⟨same, -⟩ | ⟨rest, joined, parts⟩ := AttributePath.segments_ofText text
      · -- An attribute of the entity itself is not refused.
        rw [same, refused] at start
        cases start
      · have shorter : (AttributePath.ofText rest).segments.length = count := by
          simpa [parts] using length
        rw [joined, resolve_append_of_ok start] at refused
        rw [joined]
        obtain ⟨ends, rfl⟩ | ⟨target, leads, inner⟩ := resolveFrom_eq_error refused
        · -- The attribute leads nowhere, so there is no entity that could have the next segment.
          refine .later start ?_
          intro target leads
          rw [ends] at leads
          cases leads
        · -- The entity reached refuses the rest, which has one segment less.
          exact .joined start leads (ih inner shorter)

/-- A path is refused with the first segment that goes wrong and the type reached just before. -/
theorem resolve_eq_error_iff {model : EntityModel} {text : String} {error : ResolveError} :
    model.resolve text = .error error ↔ model.StopsAt text error := by
  -- A refusal has a place, and conversely the segment named there is not found.
  constructor
  · exact stopsAt_of_resolve
  · intro stops
    cases stops with
    | first missing => exact resolve_of_field?_eq_none missing
    | @later before after reached resolved missing =>
      rw [resolve_append_of_ok resolved, resolveFrom]
      cases leads : reached.kind.target? with
      | none => rfl
      | some target =>
        -- The entity reached refuses the rest under its own name.
        dsimp only
        rw [resolve_of_field?_eq_none (missing target leads), FieldKind.typeName_of_target? leads]
        rfl

/-- Resolving composes. Two texts with a dot between them resolve as the first one, and then as
the second one from the attribute found there; so a path that resolves is the text itself, and a
text is refused exactly if it goes wrong at some segment, and with that segment. -/
theorem resolve_composes (model : EntityModel) :
    (∀ first second, model.resolve (first ++ "." ++ second) =
      model.resolve first >>= fun start => model.resolveFrom start second) ∧
    ∀ text, (∀ subject, model.resolve text = .ok subject → subject.path.display = text) ∧
      ∀ error, model.resolve text = .error error ↔ model.StopsAt text error := by
  refine ⟨model.resolve_append, fun text => ⟨fun subject resolved => ?_, fun error => ?_⟩⟩
  · -- An attribute keeps the segments of its text, and joined again they are the text.
    rw [(model.resolve_eq_ok resolved).1, AttributePath.display_ofText]
  · exact resolve_eq_error_iff

end EntityModel

end Criteria
