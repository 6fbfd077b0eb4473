import Criteria.Proofs.Compiler.Agreement
import Criteria.Search

/-! What any query layer is given, told from the predicates of the library's own layer. -/

namespace Criteria

/-- The attribute that the text of a path leads to. -/
def EntityModel.attribute? (model : EntityModel) (path : AttributePath) : Option Attribute :=
  (model.resolve path.display).toOption

/-- The path of a resolved attribute leads to it again. -/
theorem EntityModel.attribute?_path {model : EntityModel} {text : String} {subject : Attribute}
    (resolved : model.resolve text = .ok subject) :
    model.attribute? subject.path = some subject := by
  -- Rendering a resolved path and splitting the text again gives the same segments.
  rw [attribute?, model.resolve_display resolved]
  rfl

variable {P O : Type} (backend : Backend P O) (model : EntityModel)

namespace Predicate

mutual

/--
The predicate with each part replaced by the primitive of a query layer with the same name.

Each path is replaced by the attribute that its text leads to in a model; there is no image if a
path leads nowhere.
-/
def image? : Predicate → Option P
  | .always => some backend.always
  | .never => some backend.never
  | .and children => (images? children).map backend.and
  | .or children => (images? children).map backend.or
  | .not child => child.image?.map backend.not
  | .compare path comparison value =>
    (model.attribute? path).map fun subject => backend.compare subject comparison value
  | .between path low high =>
    (model.attribute? path).map fun subject => backend.between subject low high
  | .like path pattern => (model.attribute? path).map fun subject => backend.like subject pattern
  | .notLike path pattern =>
    (model.attribute? path).map fun subject => backend.notLike subject pattern
  | .isNull path => (model.attribute? path).map backend.isNull
  | .isNotNull path => (model.attribute? path).map backend.isNotNull
  | .inList path values =>
    (model.attribute? path).map fun subject => backend.inList subject values
  | .notInList path values =>
    (model.attribute? path).map fun subject => backend.notInList subject values

/-- The predicates of a list replaced one by one. -/
def images? : List Predicate → Option (List P)
  | [] => some []
  | child :: rest => do
    let image ← child.image?
    let images ← images? rest
    some (image :: images)

end

end Predicate

/-- The sort term of a query layer for the attribute that the path of a term leads to. -/
def SortTerm.image? (term : SortTerm) : Option O :=
  (model.attribute? term.path).map fun subject => backend.order subject term.direction

namespace Predicate

variable {backend} {model}

/-- A list has the images of its members. -/
theorem images?_of_forall₂ {children : List Predicate} {images : List P}
    (each : List.Forall₂ (fun child image => child.image? backend model = some image)
      children images) : images? backend model children = some images := by
  -- Every member has an image, so the list of images never breaks off.
  induction each with
  | nil => rw [images?]
  | cons first _ ih =>
    rw [images?, first, ih]
    rfl

/-- Combining predicates combines their images. -/
theorem predicates_combines : Backend.Combines
    (fun predicate image => predicate.image? backend model = some image)
    Backend.predicates backend where
  -- The image of a combination is the combination of the images.
  always := by simp [Backend.predicates, image?]
  and each := by simp [Backend.predicates, image?, images?_of_forall₂ each]
  or each := by simp [Backend.predicates, image?, images?_of_forall₂ each]
  not same := by simp [Backend.predicates, image?, same]

/-- What a primitive makes of a resolved attribute in one layer is the image of what it makes of it
in the library's own. -/
theorem image?_apply {text : String} {subject : Attribute}
    (resolved : model.resolve text = .ok subject) (primitive : Primitive) :
    (primitive.apply Backend.predicates subject).image? backend model =
      some (primitive.apply backend subject) := by
  -- Whatever the primitive is, it is applied to the attribute that its own path leads back to.
  have back := EntityModel.attribute?_path resolved
  cases primitive <;> simp [Primitive.apply, Backend.predicates, image?, back]

end Predicate

namespace Compiler

variable (registry : Registry Entry) (config : Config) (request : SearchRequest)

/-- Compilers for two query layers fail with the same rejection, or make of a request a predicate
and its image, and sort terms and their images. -/
theorem compile_agree_image :
    Agree (fun query image => query.predicate.image? backend model = some image.predicate ∧
        List.Forall₂ (fun term image => term.image? backend model = some image)
          query.order image.order)
      (compile ⟨Backend.predicates, registry, config⟩ model request)
      (compile ⟨backend, registry, config⟩ model request) := by
  -- Both layers are driven by the same primitives, and combined in the same groups.
  refine compile_agree Predicate.predicates_combines ?_ ?_
  · -- A criterion is settled at an attribute that its path leads back to.
    intro condition _
    refine criterionOutcome_agree ?_
    intro subject entry operands primitive settled _
    exact Predicate.image?_apply ((settle_eq_ok_iff _ _).mp settled).1 primitive
  · -- So is a sort key.
    intro text subject direction resolved
    have back := EntityModel.attribute?_path resolved
    simp [SortTerm.image?, Backend.predicates, back]

end Compiler

end Criteria
