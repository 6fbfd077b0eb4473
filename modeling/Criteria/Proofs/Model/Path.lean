import Criteria.Model.Path

/-! Where dotted paths lead, told from the kinds that their beginnings lead to. -/

namespace Criteria

/-- Splitting a text at its dots and joining the segments again changes nothing. -/
theorem AttributePath.display_ofText (text : String) :
    (AttributePath.ofText text).display = text := by
  -- On characters, joining undoes splitting.
  apply String.toList_inj.mp
  simp [AttributePath.display, AttributePath.ofText, String.toList_intercalate,
    List.map_map, Function.comp_def]

/-- The attribute that a segment names on a kind of attribute that leads further. -/
def Schema.attribute? (schema : Schema) (reached : FieldKind) (segment : String) :
    Option Field :=
  reached.target?.bind fun target =>
    (schema.fields target).find? fun field => field.name = segment

/-- A segment leads to the attribute that it names, or is missing on the type reached. -/
theorem Schema.navigate_eq (schema : Schema) (reached : FieldKind) (segment : String) :
    schema.navigate reached segment = match schema.attribute? reached segment with
      | some field => .ok field
      | none => .error ⟨segment, reached.typeName⟩ := by
  -- Only references lead further, and other kinds have no attributes to name.
  unfold navigate attribute?
  cases reached with
  | relation target | collection target =>
    cases found : (schema.fields target).find? fun field => field.name = segment <;>
      simp [FieldKind.target?, FieldKind.typeName, found]
  | text | int | long | float | double | bool | date | dateTime | offsetDateTime | other => rfl

namespace EntityModel

variable (model : EntityModel)

/-- The kind that segments lead to from the entity, if each of them names an attribute. -/
def kindAt? (segments : List String) : Option FieldKind :=
  segments.foldlM (fun reached segment => (model.schema.attribute? reached segment).map Field.kind)
    (.relation model.root)

/-- The first segment that leads nowhere after the ones before it, and the type reached there. -/
def missingAfter? (before : List String) : List String → Option ResolveError
  | [] => none
  | segment :: rest =>
    match model.kindAt? before, model.kindAt? (before ++ [segment]) with
    | some reached, none => some ⟨segment, reached.typeName⟩
    | _, _ => missingAfter? (before ++ [segment]) rest

/-- The first segment of a dotted text that leads nowhere, and the type reached just before it. -/
def missing? (text : String) : Option ResolveError :=
  model.missingAfter? [] (AttributePath.ofText text).segments

/-- The kind of the attribute that a dotted text leads to. -/
def kindOf? (text : String) : Option FieldKind :=
  model.kindAt? (AttributePath.ofText text).segments

/-- One more segment leads to the attribute that it names on the kind reached. -/
theorem kindAt?_snoc {before : List String} {reached : FieldKind}
    (leads : model.kindAt? before = some reached) (segment : String) :
    model.kindAt? (before ++ [segment]) =
      (model.schema.attribute? reached segment).map Field.kind := by
  -- The kind reached so far is where the last segment starts from.
  unfold kindAt? at leads ⊢
  rw [List.foldlM_append, leads]
  simp

/-- Beyond a path that leads nowhere, nothing is reached. -/
theorem kindAt?_append_of_none {before : List String} (lost : model.kindAt? before = none)
    (after : List String) : model.kindAt? (before ++ after) = none := by
  -- A step that fails ends the whole walk.
  unfold kindAt? at lost ⊢
  rw [List.foldlM_append, lost]
  rfl

/-- Following segments reaches the kind that they lead to, or stops at the first missing one. -/
theorem follow_reaches {before segments : List String} {reached : FieldKind}
    (leads : model.kindAt? before = some reached) :
    match model.schema.follow reached segments with
    | .ok (kind, _) =>
      model.kindAt? (before ++ segments) = some kind ∧ model.missingAfter? before segments = none
    | .error error =>
      model.kindAt? (before ++ segments) = none ∧
        model.missingAfter? before segments = some error := by
  -- The walk keeps the kind that the segments before have led to.
  induction segments generalizing before reached with
  | nil => simp [Schema.follow, missingAfter?, leads]
  | cons segment rest ih =>
    have step := model.kindAt?_snoc leads segment
    rw [Schema.follow, Schema.navigate_eq, missingAfter?, leads, step, List.append_cons]
    cases found : model.schema.attribute? reached segment with
    | none =>
      -- The segment names no attribute, so it is the first one missing.
      rw [found] at step
      exact ⟨model.kindAt?_append_of_none step rest, rfl⟩
    | some field =>
      rw [found] at step
      -- The attribute leads on, and the rest of the walk starts from its kind.
      have remaining := ih step
      simp only [Bind.bind, Except.bind, Option.map_some]
      cases followed : model.schema.follow field.kind rest with
      | error error =>
        rw [followed] at remaining
        exact remaining
      | ok pair =>
        rw [followed] at remaining
        exact remaining

/-- A path that resolves leads to the kind of its attribute, with no segment missing. -/
theorem resolve_eq_ok {text : String} {subject : Attribute}
    (resolved : model.resolve text = .ok subject) :
    subject.path = AttributePath.ofText text ∧ model.kindOf? text = some subject.kind ∧
      model.missing? text = none := by
  -- Resolving walks all segments from the root of the model.
  have reached :=
    @follow_reaches model [] (AttributePath.ofText text).segments (.relation model.root) rfl
  unfold resolve at resolved
  cases followed : model.schema.follow (.relation model.root)
      (AttributePath.ofText text).segments with
  -- A walk that fails is no resolution.
  | error error => simp [followed, Bind.bind, Except.bind] at resolved
  | ok pair =>
    rcases pair with ⟨kind, nullable⟩
    simp only [followed, Bind.bind, Except.bind, Except.ok.injEq] at resolved reached
    -- The attribute found has the path of the text, and the kind that the walk has reached.
    subst resolved
    exact ⟨rfl, reached⟩

/-- A path that does not resolve is refused for its first missing segment. -/
theorem resolve_eq_error {text : String} {error : ResolveError}
    (refused : model.resolve text = .error error) :
    model.kindOf? text = none ∧ model.missing? text = some error := by
  -- The walk that resolving makes ends with the error it reports.
  have reached :=
    @follow_reaches model [] (AttributePath.ofText text).segments (.relation model.root) rfl
  unfold resolve at refused
  cases followed : model.schema.follow (.relation model.root)
      (AttributePath.ofText text).segments with
  | error found =>
    simp only [followed, Bind.bind, Except.bind, Except.error.injEq] at refused reached
    subst refused
    exact reached
  -- A walk that arrives is not refused.
  | ok pair => simp [followed, Bind.bind, Except.bind] at refused

/-- The text of a resolved path resolves to the same attribute again. -/
theorem resolve_display {text : String} {subject : Attribute}
    (resolved : model.resolve text = .ok subject) :
    model.resolve subject.path.display = .ok subject := by
  -- The text of the path is the text that was resolved.
  rw [(model.resolve_eq_ok resolved).1, AttributePath.display_ofText]
  exact resolved

end EntityModel

end Criteria
