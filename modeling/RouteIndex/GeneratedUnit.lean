/-
  Generated units: a source text under the name that it is published with.  The digest tells whether
  a unit that is already there has the same content.
-/

import RouteIndex.Digest.Sha256

namespace RouteIndex

/-- A source text that is handed to the compiler of the host. -/
structure GeneratedUnit where
  hintName : String
  source : String
  deriving DecidableEq, Repr

namespace GeneratedUnit

/-- The name of every unit. -/
def unitName : String :=
  "MapActionGeneratedFunctionMetadata.g.cs"

/-- The unit of a source text. -/
def ofSource (source : String) : GeneratedUnit :=
  ⟨unitName, source⟩

/-- The fingerprint of a text. -/
def digestOf (source : String) : String :=
  "sha256:" ++ String.ofList (Digest.hexText (Digest.sha256 source.toUTF8.data.toList))

/-- The fingerprint of the content. -/
def digest (u : GeneratedUnit) : String :=
  digestOf u.source

end GeneratedUnit

end RouteIndex
