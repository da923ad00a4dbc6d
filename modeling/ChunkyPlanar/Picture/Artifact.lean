import ChunkyPlanar.Picture.ArrayText

/-! Artifacts: what a planar picture is written as. -/

namespace ChunkyPlanar

inductive Mode where
  | binary
  | source
  deriving DecidableEq, Repr

inductive Artifact where
  | blob (bytes : Bytes)
  | text (content : String)
  deriving DecidableEq, Repr

def Artifact.toBytes : Artifact → Bytes
  | .blob bytes => bytes
  | .text content => content.toUTF8.data

def PlanarPicture.toArtifact (picture : PlanarPicture) (mode : Mode)
    (name : String) : Artifact :=
  match mode with
  | .binary => .blob picture.toBlob
  | .source => .text (picture.toArrayText name)

end ChunkyPlanar
