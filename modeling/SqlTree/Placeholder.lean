import SqlTree.Build

/-!
# Placeholders

The markers of parameters whose values are supplied when a statement runs:
`@id`, `:name`, `$1`, `?`. A marker is copied into the statement as it stands,
so its alphabet is kept too small for it to end the statement or to open a
comment or a literal.
-/

namespace SqlTree

/-- Whether a marker may go on with the character: an ASCII letter or digit,
or `_`. -/
def Placeholder.continuesMarker (c : Char) : Bool :=
  c = '_' || c.isAlphanum

/-- The shape of a marker: a sign, then letters, digits and `_`. -/
def Placeholder.IsMarker : List Char → Prop
  | [] => False
  | first :: rest =>
    first ∈ ['@', ':', '$', '?'] ∧ ∀ c ∈ rest, Placeholder.continuesMarker c = true

instance (marker : List Char) : Decidable (Placeholder.IsMarker marker) :=
  match marker with
  | [] => inferInstanceAs (Decidable False)
  | first :: rest =>
    letI := List.decidableBAll (Placeholder.continuesMarker · = true) rest
    inferInstanceAs (Decidable
      (first ∈ ['@', ':', '$', '?'] ∧ ∀ c ∈ rest, Placeholder.continuesMarker c = true))

/-- The marker of a parameter. -/
structure Placeholder where
  marker : String
  valid : Placeholder.IsMarker marker.toList
deriving DecidableEq

/-- The placeholder with the given marker. -/
def Placeholder.ofMarker (marker : String) : Build Placeholder :=
  if valid : IsMarker marker.toList then pure ⟨marker, valid⟩
  else throw (.invalidIdentifier ("invalid placeholder `" ++ marker ++ "`"))

end SqlTree
