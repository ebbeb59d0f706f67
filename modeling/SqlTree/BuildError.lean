/-!
# Errors of building

Building a statement fails where the bad input enters: at a name, a literal, a
source whose key is taken, a join that cannot be written, or a document of
dialect switches. Rendering never fails.
-/

namespace SqlTree

/-- Why a part of a statement could not be built. -/
inductive BuildError where
  /-- A name, alias or placeholder is malformed. -/
  | invalidIdentifier (reason : String)
  /-- A value has no spelling as a literal. -/
  | invalidLiteral (reason : String)
  /-- The key of a source is already taken. -/
  | duplicateSource (key : String)
  /-- A join has a shape that cannot be written. -/
  | invalidJoin (reason : String)
  /-- Dialect switches could not be read. -/
  | config (reason : String)
deriving DecidableEq

namespace BuildError

/-- The text shown for an error. -/
def message : BuildError → String
  | invalidIdentifier reason => "Invalid identifier: " ++ reason
  | invalidLiteral reason => "Invalid literal: " ++ reason
  | duplicateSource key => "Duplicate source: " ++ key
  | invalidJoin reason => "Invalid join: " ++ reason
  | config reason => "Config error: " ++ reason

/-- Whether a key was already taken. -/
def isDuplicateSource : BuildError → Bool
  | duplicateSource _ => true
  | _ => false

/-- Whether a name was malformed. -/
def isInvalidIdentifier : BuildError → Bool
  | invalidIdentifier _ => true
  | _ => false

/-- Whether a value had no literal. -/
def isInvalidLiteral : BuildError → Bool
  | invalidLiteral _ => true
  | _ => false

end BuildError

end SqlTree
