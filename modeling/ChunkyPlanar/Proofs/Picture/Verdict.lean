import Mathlib
import ChunkyPlanar.Proofs.Picture.Encoding

/-! Verdicts on encodings: a picture that does not fit its profile is refused for the
first of its faults, and one without a fault is encoded. -/

namespace ChunkyPlanar

theorem Profile.accepts_iff {profile : Profile} {size : Size} :
    profile.Accepts size ↔
      ¬ (profile.requiredSize? ≠ none ∧ profile.requiredSize? ≠ some size) := by
  unfold Accepts
  cases profile.requiredSize? with
  | none => simp
  | some expected => simp [eq_comm]

namespace PlanarPicture

variable {picture : ChunkyPicture} {profile : Profile}

/-- An encoding without its journal. -/
theorem outcome_ofChunky (picture : ChunkyPicture) (profile : Profile) :
    (ofChunky picture profile).outcome = (do
      (checkSize picture.raster.toSize profile.requiredSize?).outcome.mapError .planes
      let _ ← (Plane.bytesPerRow picture.raster.toSize).outcome.mapError .planes
      (Plane.checkDepth profile.depth none).outcome.mapError .planes
      let (palette, compaction) ←
        (picture.reduce profile.slots).outcome.mapError .palette
      let raster ← (compact compaction picture.raster).mapError .compaction
      let planes ← (raster.toPlanes profile.depth).outcome.mapError .planes
      return { toSize := picture.raster.toSize, palette, planes }) := by
  unfold ofChunky ofChunkyBy rankBy
  simp only [Logged.bind_eq, Logged.bind_assoc, Logged.pure_eq, Logged.bind_succeed,
    Logged.outcome_bind, Logged.outcome_info,
    Logged.outcome_mapError, Logged.outcome_silent, Logged.pure_eq,
    Logged.outcome_succeed]
  rfl

theorem outcome_checkSize_of_accepts {size : Size} (accepts : profile.Accepts size) :
    (checkSize size profile.requiredSize?).outcome = .ok () :=
  outcome_checkSize_eq_ok_iff.mpr accepts

theorem outcome_ofChunky_of_size {expected : Size}
    (asked : profile.requiredSize? = some expected)
    (other : picture.raster.toSize ≠ expected) :
    (ofChunky picture profile).outcome =
      .error (.planes (.wrongSize picture.raster.toSize expected)) := by
  have refused : (checkSize picture.raster.toSize (some expected)).outcome =
      .error (.wrongSize picture.raster.toSize expected) := by
    simp [checkSize, other]
  rw [outcome_ofChunky, asked, refused]
  rfl

theorem outcome_ofChunky_of_shape
    (accepts : profile.Accepts picture.raster.toSize)
    (unfilled : ¬ picture.raster.FillsPlanes) :
    (ofChunky picture profile).outcome =
      .error (.planes (.unsupportedSize picture.raster.toSize)) := by
  rw [outcome_ofChunky, outcome_checkSize_of_accepts accepts,
    Plane.outcome_bytesPerRow_of_not_fillsPlanes unfilled]
  rfl

theorem outcome_ofChunky_of_depth
    (accepts : profile.Accepts picture.raster.toSize)
    (fills : picture.raster.FillsPlanes)
    (outside : ¬ (1 ≤ profile.depth ∧ profile.depth ≤ maxDepth)) :
    (ofChunky picture profile).outcome =
      .error (.planes (.depthOutOfRange profile.depth 1)) := by
  rw [outcome_ofChunky, outcome_checkSize_of_accepts accepts,
    Plane.outcome_bytesPerRow_of_fillsPlanes fills,
    Plane.outcome_checkDepth_of_not_within outside]
  rfl

/-- Ranks can always be given, so after the checks only reducing and splitting may
fail. -/
theorem outcome_ofChunky_of_admits (admits : Admits profile picture)
    {ranks : Raster}
    (applied : (Compaction.ofRaster picture.raster).apply picture.raster = .ok ranks) :
    (ofChunky picture profile).outcome = (do
      let (palette, _) ← (picture.reduce profile.slots).outcome.mapError .palette
      let planes ← (ranks.toPlanes profile.depth).outcome.mapError .planes
      return { toSize := picture.raster.toSize, palette, planes }) := by
  have deep : (Plane.checkDepth profile.depth none).outcome = .ok () :=
    Plane.outcome_checkDepth_of_within admits.positive admits.most
  rw [outcome_ofChunky, outcome_checkSize_of_accepts admits.accepts,
    Plane.outcome_bytesPerRow_of_fillsPlanes admits.fills, deep]
  cases reduces : (picture.reduce profile.slots).outcome with
  | error error => rfl
  | ok reduced =>
      obtain ⟨_, _, _, rfl⟩ := ChunkyPicture.outcome_reduce_eq_ok_iff.mp reduces
      simp only [Except.mapError, bind, Except.bind, compact_ofRaster, applied]

theorem outcome_ofChunky_of_refused (admits : Admits profile picture)
    {error : PaletteError}
    (refused : (picture.reduce profile.slots).outcome = .error error) :
    (ofChunky picture profile).outcome = .error (.palette error) := by
  obtain ⟨ranks, applied⟩ := Compaction.exists_apply_ofRaster picture.raster
  rw [outcome_ofChunky_of_admits admits applied, refused]
  rfl

/-- The ranks are as many as the indices in use, so their number sets the depth. -/
theorem outcome_ofChunky_of_shallow (admits : Admits profile picture)
    {reduced : HardwarePalette × Compaction}
    (reduces : (picture.reduce profile.slots).outcome = .ok reduced)
    (shallow : 2 ^ profile.depth < picture.raster.indices.toList.toFinset.card) :
    ∃ required, IsLeast {depth | 1 ≤ depth ∧
        picture.raster.indices.toList.toFinset.card ≤ 2 ^ depth} required ∧
      (ofChunky picture profile).outcome =
        .error (.planes (.depthOutOfRange profile.depth required)) := by
  obtain ⟨ranks, applied⟩ := Compaction.exists_apply_ofRaster picture.raster
  have fills : ranks.FillsPlanes := by
    rw [Raster.toSize_of_relabel applied]
    exact admits.fills
  have needs {depth : Nat} : ranks.requiredDepth ≤ depth ↔ 1 ≤ depth ∧
      picture.raster.indices.toList.toFinset.card ≤ 2 ^ depth := by
    rw [requiredDepth_ranks_le_iff applied, Compaction.size_ofRaster]
  have splits : (ranks.toPlanes profile.depth).outcome =
      .error (.depthOutOfRange profile.depth ranks.requiredDepth) := by
    apply Raster.outcome_toPlanes_of_not_within fills
    intro within
    obtain ⟨enough, _⟩ := within
    exact absurd (needs.mp enough).2 (not_le.mpr shallow)
  refine ⟨ranks.requiredDepth, ⟨needs.mp (le_refl _), fun depth holds =>
    needs.mpr holds⟩, ?_⟩
  rw [outcome_ofChunky_of_admits admits applied, reduces, splits]
  rfl

/-- The first fault of an encoding, in the order in which faults are looked for. -/
def Verdict (picture : ChunkyPicture) (profile : Profile)
    (outcome : Except EncodingError PlanarPicture) : Prop :=
  let size := picture.raster.toSize
  let colors := picture.palette.size
  let used := picture.raster.indices.toList.toFinset
  if profile.requiredSize? ≠ none ∧ profile.requiredSize? ≠ some size then
    ∃ expected, profile.requiredSize? = some expected ∧
      outcome = .error (.planes (.wrongSize size expected))
  else if size.width = 0 ∨ size.height = 0 ∨ size.width.toNat % 8 ≠ 0 then
    outcome = .error (.planes (.unsupportedSize size))
  else if profile.depth = 0 ∨ 8 < profile.depth then
    outcome = .error (.planes (.depthOutOfRange profile.depth 1))
  else if profile.slots = 0 ∨ 256 < profile.slots then
    outcome = .error (.palette (.slotsOutOfRange profile.slots))
  else if profile.slots < colors then
    outcome = .error (.palette (.tooManyColors colors profile.slots))
  else if ∃ index ∈ used, colors ≤ index.toNat then
    ∃ index, IsLeast {index | index ∈ used ∧ colors ≤ index.toNat} index ∧
      outcome = .error (.palette (.missingColor index colors))
  else if 2 ^ profile.depth < used.card then
    ∃ required, IsLeast {depth | 1 ≤ depth ∧ used.card ≤ 2 ^ depth} required ∧
      outcome = .error (.planes (.depthOutOfRange profile.depth required))
  else
    ∃ planar, outcome = .ok planar

theorem Verdict.ne_compaction_and_ne_raster
    {outcome : Except EncodingError PlanarPicture}
    (verdict : Verdict picture profile outcome) :
    (∀ error, outcome ≠ .error (.compaction error)) ∧
      ∀ error, outcome ≠ .error (.planes (.raster error)) := by
  constructor
  all_goals
    intro error equal
    rw [equal] at verdict
    unfold Verdict at verdict
    split_ifs at verdict <;> simp at verdict

theorem verdict_outcome_ofChunky (picture : ChunkyPicture) (profile : Profile) :
    Verdict picture profile (ofChunky picture profile).outcome := by
  unfold Verdict
  simp only [List.mem_toFinset, Array.mem_toList_iff]
  -- Each check either finds its own fault or leaves a fact that the later ones use.
  refine ite_prop_iff_and.mpr ⟨fun resized => ?_, fun unresized => ?_⟩
  · obtain ⟨expected, asked⟩ := Option.ne_none_iff_exists'.mp resized.1
    refine ⟨expected, asked, outcome_ofChunky_of_size asked fun same => ?_⟩
    exact resized.2 (asked.trans (congrArg some same.symm))
  have accepts := Profile.accepts_iff.mpr unresized
  refine ite_prop_iff_and.mpr ⟨fun unsuitable => ?_, fun suitable => ?_⟩
  · have unfilled := (Size.not_fillsPlanes_iff _).mpr unsuitable
    exact outcome_ofChunky_of_shape accepts unfilled
  have fills : picture.raster.FillsPlanes := .of_suitable suitable
  refine ite_prop_iff_and.mpr ⟨fun outside => ?_, fun deep => ?_⟩
  · apply outcome_ofChunky_of_depth accepts fills
    unfold maxDepth
    omega
  have admits : Admits profile picture :=
    ⟨accepts, fills, by omega, by unfold maxDepth; omega⟩
  refine ite_prop_iff_and.mpr ⟨fun slots => ?_, fun slots => ?_⟩
  · exact outcome_ofChunky_of_refused admits
      (ChunkyPicture.outcome_reduce_of_slots slots)
  refine ite_prop_iff_and.mpr ⟨fun many => ?_, fun colors => ?_⟩
  · exact outcome_ofChunky_of_refused admits
      (ChunkyPicture.outcome_reduce_of_colors slots many)
  refine ite_prop_iff_and.mpr ⟨fun missing => ?_, fun present => ?_⟩
  · obtain ⟨index, least, refused⟩ :=
      ChunkyPicture.outcome_reduce_of_missing slots colors missing
    exact ⟨index, least, outcome_ofChunky_of_refused admits refused⟩
  have within : ∀ index ∈ picture.raster.indices,
      index.toNat < picture.palette.size := by
    simpa using present
  refine ite_prop_iff_and.mpr ⟨fun shallow => ?_, fun enough => ?_⟩
  · have reduces := ChunkyPicture.outcome_reduce_of_within slots colors within
    exact outcome_ofChunky_of_shallow admits reduces shallow
  obtain ⟨ranks, applied⟩ := Compaction.exists_apply_ofRaster picture.raster
  have required : ranks.requiredDepth ≤ profile.depth := by
    rw [requiredDepth_ranks_le_iff applied, Compaction.size_ofRaster]
    exact ⟨admits.positive, not_lt.mp enough⟩
  exact ⟨_, outcome_ofChunky_eq_ok_iff.mpr
    ⟨ranks, ⟨admits, slots, colors, within, applied, required⟩, rfl⟩⟩

theorem verdict_ofChunky (picture : ChunkyPicture) (profile : Profile) :
    let outcome := (ofChunky picture profile).outcome
    Verdict picture profile outcome ∧
      (∀ error, outcome ≠ .error (.compaction error)) ∧
      ∀ error, outcome ≠ .error (.planes (.raster error)) := by
  have verdict := verdict_outcome_ofChunky picture profile
  exact ⟨verdict, verdict.ne_compaction_and_ne_raster⟩

end PlanarPicture

end ChunkyPlanar
