import Criteria.Interchange.Shape
import Criteria.Search

/-! Settings and public errors as JSON. -/

namespace Criteria

/-- Settings, of which everything may be left out. -/
def configShape : JsonShape Config where
  name := "CompilerConfig"
  fields := ["max_depth", "wrap_like_pattern"]
  lenient := false
  mayMiss _ := true
  part field value config :=
    match field with
    | "max_depth" => do
      let found ← JsonReader.count value
      .ok { config with maxDepth := found }
    | _ => do
      let found ← JsonReader.boolean value
      .ok { config with wrapLikePattern := found }

/-- The parts of a public error read so far. -/
structure SearchErrorParts where
  kind : Option SearchErrorKind
  message : Option String

namespace JsonReader

/-- Reads settings, which are not checked. -/
def config : JsonReader Config :=
  configShape.reader .default

/-- Reads the kind of a rejection by its name. -/
def rejectionKind : JsonReader RejectionKind :=
  name (RejectionKind.all.map fun kind => (kind.name, kind))

/-- Reads the kind of a public error: a name that stands alone, or one with a kind of rejection. -/
def searchErrorKind : JsonReader SearchErrorKind :=
  variant ["Compile", "Config"] fun name content =>
    match name, content with
    | "Compile", none =>
      .error (.unexpected "invalid type: unit variant, expected newtype variant")
    | "Compile", some found => (rejectionKind found).map .compile
    | _, none => .ok .config
    | _, some .null => .ok .config
    | _, some other => ReadError.mismatch other "unit"

end JsonReader

/-- A public error, beside whose own keys any others may stand. -/
def searchErrorShape : JsonShape SearchErrorParts where
  name := "Error"
  fields := ["kind", "message"]
  lenient := true
  mayMiss _ := false
  part field value parts :=
    match field with
    | "kind" => do
      let found ← JsonReader.searchErrorKind value
      .ok { parts with kind := some found }
    | _ => do
      let found ← JsonReader.text value
      .ok { parts with message := some found }

/-- Reads a public error. -/
def JsonReader.searchError : JsonReader SearchError := fun found => do
  let parts ← searchErrorShape.reader ⟨none, none⟩ found
  match parts.kind, parts.message with
  | some kind, some message => .ok ⟨kind, message⟩
  | none, _ => JsonShape.missing "kind"
  | _, none => JsonShape.missing "message"

/-- Settings as JSON. -/
def Config.toJson (config : Config) : Json :=
  .ofMembers
    [("max_depth", .ofInt config.maxDepth), ("wrap_like_pattern", .boolean config.wrapLikePattern)]

/-- The kind of a public error as JSON. -/
def SearchErrorKind.toJson : SearchErrorKind → Json
  | .compile kind => .ofMembers [("Compile", .string kind.name)]
  | .config => .string "Config"

/-- A public error as JSON. -/
def SearchError.toJson (error : SearchError) : Json :=
  .ofMembers [("kind", error.kind.toJson), ("message", .string error.message)]

end Criteria
