import ChunkyPlanar.Tool.Error

/-! Previews: the pixels that a blob and a palette file show together. -/

namespace ChunkyPlanar.Preview

/-- Neither file holds the size or the depth, so both are given with them. -/
def pixels (blob : Blob) (paletteFile : Bytes) (size : Size) (depth : Nat) :
    Logged ToolError Bytes := do
  let palette ← (HardwarePalette.ofBytes paletteFile).mapError .palette
  let planes ← (blob.toPlanes size depth).mapError .planes
  let raster ← (Raster.ofPlanes planes size).mapError .planes
  let chunky : ChunkyPicture := ⟨palette.colors, raster⟩
  chunky.toPixels.mapError .indexing

end ChunkyPlanar.Preview
