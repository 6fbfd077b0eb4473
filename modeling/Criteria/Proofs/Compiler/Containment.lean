import Criteria.Proofs.Compiler.Meaning

/-! A wrapped LIKE looks for its operand anywhere in a text, and an unwrapped one in all of it. -/

namespace Criteria

namespace Config

variable {config : Config} {pattern text : List Char}

/-- A pattern is found in a text if some part of the text matches it, or only if the whole text
does where patterns are not wrapped. -/
def Finds (config : Config) (pattern text : List Char) : Prop :=
  if config.wrapLikePattern then
    ∃ before inside after, text = before ++ inside ++ after ∧ Like.Matches pattern inside
  else Like.Matches pattern text

/-- The pattern made of an operand's text matches where that text is found. -/
theorem matches_patternOf_iff :
    Like.Matches (config.patternOf pattern) text ↔ config.Finds pattern text := by
  -- Wrapping is what lets the rest of the text go unmatched.
  unfold patternOf Finds
  split
  · exact Like.matches_wrapped_iff
  · rfl

/-- Where patterns are wrapped, one without wildcards is found in the texts that contain it. -/
theorem finds_plain_iff (wrapped : config.wrapLikePattern = true) (run : '%' ∉ pattern)
    (one : '_' ∉ pattern) : config.Finds pattern text ↔ pattern <:+: text := by
  rw [Finds, if_pos wrapped]
  -- The only part of a text that such a pattern matches is the pattern itself.
  simp only [Like.matches_plain_iff run one]
  constructor
  · intro found
    obtain ⟨before, _, after, rfl, rfl⟩ := found
    exact ⟨before, after, rfl⟩
  · -- What contains the pattern has it as one of its parts.
    intro contained
    obtain ⟨before, after, rfl⟩ := contained
    exact ⟨before, pattern, after, rfl, rfl⟩

end Config

namespace Predicate

variable {config : Config} {path : AttributePath} {row : Row} {content stored : String}

/-- A LIKE holds of the texts in which its operand is found. -/
theorem like_holds_iff (present : row path = .text stored) :
    (Predicate.like path (config.likePattern (.text content))).holds row = true ↔
      config.Finds content.toList stored.toList := by
  -- The operand is a text, so it is written as it stands into the pattern that is matched.
  rw [holds, present, ← Config.matches_patternOf_iff, ← Like.isMatch_iff_matches,
    Config.likePattern_toList]
  rfl

/-- Of a text, the negated LIKE holds exactly if the LIKE does not. -/
theorem notLike_holds_iff (present : row path = .text stored) (pattern : String) :
    (Predicate.notLike path pattern).holds row = true ↔
      ¬(Predicate.like path pattern).holds row = true := by
  -- A text either matches the pattern or does not, and the two tests ask for one each.
  rw [holds, holds, Value.isTextThat_not_of_text present, Bool.not_eq_true', Bool.not_eq_true]

/-- Of what is no text, neither a LIKE nor a negated one holds. -/
theorem like_notLike_holds_of_not_text (other : ¬∃ stored, row path = .text stored)
    (pattern : String) :
    (Predicate.like path pattern).holds row = false ∧
      (Predicate.notLike path pattern).holds row = false := by
  -- Both tests ask for a text first.
  rw [holds, holds]
  exact ⟨Value.isTextThat_of_not_text other _, Value.isTextThat_of_not_text other _⟩

end Predicate

namespace Compiler

variable {config : Config} {model : EntityModel} {depth : Nat} {field : String}
  {subject : Attribute} {raw : Value} {content : String}

/-- A test of texts is compiled, on an attribute of texts and not too deep, to what its builder
makes of the operand's text. -/
theorem compileAt_textTest {operation : Operation} {predicate : Predicate}
    (textual : operation = .like ∨ operation = .notLike) (allowed : depth ≤ config.maxDepth)
    (resolved : model.resolve field = .ok subject) (text : subject.kind = .text)
    (converted : raw.coerce .text = .ok (.text content))
    (built : Backend.predicates.build config operation subject [.text content] = .ok predicate) :
    ((standard config).compileAt model depth (.criterion ⟨field, operation, [raw]⟩)).Answers
      (.ok predicate) := by
  -- The criterion is settled first, and then the builder has the operand's text.
  have prepared : List.Forall₂ (fun raw native => raw.coerce subject.kind = .ok native) [raw]
      [.text content] := by
    rw [text]
    exact .cons converted .nil
  have settled : (standard config).settle model ⟨field, operation, [raw]⟩ =
      .ok (subject, .standard operation, [.text content]) := by
    refine (settle_eq_ok_iff _ _).mpr ⟨resolved, Registry.get_standard operation, ?_⟩
    -- Both operations take one operand, want texts and convert what they are given.
    rcases textual with rfl | rfl <;> exact ⟨rfl, by rw [text]; rfl, prepared⟩
  -- What is settled is built, as the depth is allowed.
  have outcome : (standard config).outcomeAt model depth
      (.criterion ⟨field, operation, [raw]⟩) = .ok predicate := by
    refine (outcomeAt_criterion_eq_ok_iff _ _).mpr ⟨allowed, bind_eq_ok_iff.mpr ⟨_, settled, ?_⟩⟩
    dsimp only
    rw [Entry.builder_standard]
    exact built
  rw [← outcome]
  exact compileAt_answers _ _ _ _

/-- LIKE looks for its operand in texts. On an attribute of texts, a LIKE with an operand that
converts to a text is compiled at every depth that is allowed, and so is its negation. Of a row
with a text there, the LIKE holds exactly if the operand is found in the text, which for an
operand without wildcards means that the text contains it, and the negation holds exactly if the
LIKE does not; of any other row, neither holds. -/
theorem compileAt_like_finds (allowed : depth ≤ config.maxDepth)
    (resolved : model.resolve field = .ok subject) (text : subject.kind = .text)
    (converted : raw.coerce .text = .ok (.text content)) :
    ∃ like notLike : Predicate,
      ((standard config).compileAt model depth (.criterion ⟨field, .like, [raw]⟩)).Answers
        (.ok like) ∧
      ((standard config).compileAt model depth (.criterion ⟨field, .notLike, [raw]⟩)).Answers
        (.ok notLike) ∧
      (∀ (row : Row) (stored : String), row subject.path = .text stored →
        (like.holds row = true ↔ config.Finds content.toList stored.toList) ∧
        (config.wrapLikePattern = true → '%' ∉ content.toList → '_' ∉ content.toList →
          (like.holds row = true ↔ content.toList <:+: stored.toList)) ∧
        (notLike.holds row = true ↔ ¬like.holds row = true)) ∧
      ∀ row : Row, (¬∃ stored, row subject.path = .text stored) →
        like.holds row = false ∧ notLike.holds row = false := by
  -- Both criteria are compiled to tests of the attribute for the pattern of the operand.
  refine ⟨.like subject.path (config.likePattern (.text content)),
    .notLike subject.path (config.likePattern (.text content)),
    compileAt_textTest (.inl rfl) allowed resolved text converted rfl,
    compileAt_textTest (.inr rfl) allowed resolved text converted rfl, ?_, ?_⟩
  · -- A text is matched, and what the pattern matches was settled above.
    intro row stored present
    have finds : _ ↔ config.Finds content.toList stored.toList := Predicate.like_holds_iff present
    refine ⟨finds, ?_, Predicate.notLike_holds_iff present _⟩
    intro wrapped run one
    exact finds.trans (Config.finds_plain_iff wrapped run one)
  · -- Anything else fails both tests.
    intro row other
    exact Predicate.like_notLike_holds_of_not_text other _

/-- A student whose community is known. -/
def lina : School.StudentRecord :=
  ⟨3, "Lina", "Saleh", School.hundredths 360, "A-", true, some ⟨2, "Class 10B"⟩, none⟩

/-- A student without a community. -/
def hala : School.StudentRecord :=
  ⟨7, "Hala", "Mansour", School.hundredths 375, "A-", true, none, none⟩

/-- A number is looked for in the names of classes by its digits, and without a class there is
nothing to look in. -/
theorem compileAt_like_finds_classNumber :
    ∃ like notLike : Predicate,
      ((standard .default).compileAt School.student 2
        (.criterion ⟨"community.className", .like, [.int 10]⟩)).Answers (.ok like) ∧
      ((standard .default).compileAt School.student 2
        (.criterion ⟨"community.className", .notLike, [.int 10]⟩)).Answers (.ok notLike) ∧
      like.holds lina.row = true ∧ ¬notLike.holds lina.row = true ∧
      like.holds hala.row = false ∧ notLike.holds hala.row = false := by
  -- The number is converted to the text of its digits, which has no wildcards in it.
  obtain ⟨like, notLike, compiled, denied, ofTexts, ofOthers⟩ :=
    @compileAt_like_finds .default School.student 2 "community.className" _ (.int 10) "10"
      (by decide) rfl rfl (by decide +kernel)
  obtain ⟨-, contained, negated⟩ := ofTexts lina.row "Class 10B" rfl
  have found : like.holds lina.row = true :=
    (contained rfl (by decide) (by decide)).mpr ⟨"Class ".toList, ['B'], rfl⟩
  -- A student without a community has null there.
  have absent : ¬∃ stored, hala.row ⟨["community", "className"]⟩ = .text stored := by
    intro present
    obtain ⟨stored, same⟩ := present
    cases same
  obtain ⟨neither, nor⟩ := ofOthers hala.row absent
  refine ⟨like, notLike, compiled, denied, found, ?_, neither, nor⟩
  rw [negated]
  exact fun missed => missed found

end Compiler

end Criteria
