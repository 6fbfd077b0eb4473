/-! The limits and choices of a compiler. -/

namespace Criteria

/-- The settings of one compiler. -/
structure Config where
  /-- The deepest filter tree accepted, its root being at depth one. -/
  maxDepth : Nat
  /-- Whether the operand of a LIKE may stand anywhere in the text. -/
  wrapLikePattern : Bool
deriving DecidableEq

/-- Why settings are refused. -/
inductive ConfigError where
  /-- The document does not describe settings. -/
  | parse
  | invalidMaxDepth
deriving DecidableEq

namespace Config

/-- The depth allowed when nothing else is said. -/
def defaultMaxDepth : Nat := 64

/-- The settings in force when nothing else is said. -/
def default : Config := ⟨defaultMaxDepth, true⟩

/-- Settings that no filter could satisfy are refused. -/
def validate (config : Config) : Except ConfigError Unit :=
  if config.maxDepth = 0 then .error .invalidMaxDepth else .ok ()

end Config

/-- The error as a message, where the library words it itself. -/
def ConfigError.message : ConfigError → String
  | .parse => "invalid compiler config"
  | .invalidMaxDepth => "max_depth must be at least 1"

end Criteria
