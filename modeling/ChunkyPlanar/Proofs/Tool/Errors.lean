import Mathlib
import ChunkyPlanar.Tool.Error

/-! What an error holds. Most errors of the tool hold another one, which may hold a third,
and the causes that are reported are the messages on the way down. -/

namespace ChunkyPlanar

/-- Any error that another may hold. -/
inductive Problem where
  | tool (error : ToolError)
  | file (error : FileError)
  | foreign (reason : Reason)
  | indexing (error : ChunkyError)
  | encoding (error : EncodingError)
  | planes (error : PlaneError)
  | palette (error : PaletteError)
  | raster (error : RasterError)

namespace Problem

def message : Problem → String
  | .tool error => error.message
  | .file error => error.message
  | .foreign reason => reason.message
  | .indexing error => error.message
  | .encoding error => error.message
  | .planes error => error.message
  | .palette error => error.message
  | .raster error => error.message

/-- The first error holds the second. -/
inductive Holds : Problem → Problem → Prop
  | file (error : FileError) : Holds (.tool (.file error)) (.file error)
  | image (reason : Reason) : Holds (.tool (.image reason)) (.foreign reason)
  | settings (reason : Reason) : Holds (.tool (.settings reason)) (.foreign reason)
  | indexing (error : ChunkyError) : Holds (.tool (.indexing error)) (.indexing error)
  | encoding (error : EncodingError) : Holds (.tool (.encoding error)) (.encoding error)
  | planes (error : PlaneError) : Holds (.tool (.planes error)) (.planes error)
  | palette (error : PaletteError) : Holds (.tool (.palette error)) (.palette error)
  | ofIndexing (error : RasterError) : Holds (.indexing (.raster error)) (.raster error)
  | quantization (error : PaletteError) :
      Holds (.encoding (.palette error)) (.palette error)
  | splitting (error : PlaneError) : Holds (.encoding (.planes error)) (.planes error)
  | compaction (error : RasterError) :
      Holds (.encoding (.compaction error)) (.raster error)
  | ofPlanes (error : RasterError) : Holds (.planes (.raster error)) (.raster error)
  | cause (message cause : String) (causes : List String) :
      Holds (.foreign ⟨message, cause :: causes⟩) (.foreign ⟨cause, causes⟩)

/-- The messages below an error, down to the one that holds no other. -/
inductive Traced : Problem → List String → Prop
  | bare {problem : Problem} (last : ∀ inner, ¬ problem.Holds inner) : Traced problem []
  | held {problem inner : Problem} {texts : List String} (holds : problem.Holds inner)
      (rest : Traced inner texts) : Traced problem (inner.message :: texts)

theorem Holds.unique {problem inner other : Problem} (holds : problem.Holds inner)
    (also : problem.Holds other) : inner = other := by
  cases holds <;> cases also <;> rfl

theorem Traced.unique {problem : Problem} {texts others : List String}
    (traced : problem.Traced texts) (also : problem.Traced others) : texts = others := by
  induction traced generalizing others with
  | bare last =>
      cases also with
      | bare _ => rfl
      | held holds _ => exact absurd holds (last _)
  | held holds _ ih =>
      cases also with
      | bare last => exact absurd holds (last _)
      | held holdsOther rest =>
          cases holds.unique holdsOther
          rw [ih rest]

theorem traced_file (error : FileError) : Traced (.file error) [] :=
  .bare fun _ holds => by cases holds

theorem traced_palette (error : PaletteError) : Traced (.palette error) [] :=
  .bare fun _ holds => by cases holds

theorem traced_raster (error : RasterError) : Traced (.raster error) [] :=
  .bare fun _ holds => by cases holds

theorem traced_foreign (message : String) (causes : List String) :
    Traced (.foreign ⟨message, causes⟩) causes := by
  induction causes generalizing message with
  | nil => exact .bare fun _ holds => by cases holds
  | cons cause causes ih => exact .held (.cause message cause causes) (ih cause)

theorem traced_indexing (error : ChunkyError) : Traced (.indexing error) error.causes := by
  cases error with
  | wrongByteCount expected actual => exact .bare fun _ holds => by cases holds
  | tooManyColors limit ordinal => exact .bare fun _ holds => by cases holds
  | raster error => exact .held (.ofIndexing error) (traced_raster error)

theorem traced_planes (error : PlaneError) : Traced (.planes error) error.causes := by
  cases error with
  | unsupportedSize size => exact .bare fun _ holds => by cases holds
  | wrongSize actual expected => exact .bare fun _ holds => by cases holds
  | depthOutOfRange depth required => exact .bare fun _ holds => by cases holds
  | wrongBlobLength expected actual => exact .bare fun _ holds => by cases holds
  | wrongPlaneLength position expected actual => exact .bare fun _ holds => by cases holds
  | raster error => exact .held (.ofPlanes error) (traced_raster error)

theorem traced_encoding (error : EncodingError) :
    Traced (.encoding error) error.causes := by
  cases error with
  | palette error => exact .held (.quantization error) (traced_palette error)
  | planes error => exact .held (.splitting error) (traced_planes error)
  | compaction error => exact .held (.compaction error) (traced_raster error)

theorem traced_tool (error : ToolError) : Traced (.tool error) error.causes := by
  cases error with
  | file error => exact .held (.file error) (traced_file error)
  | image reason => exact .held (.image reason) (traced_foreign _ _)
  | settings reason => exact .held (.settings reason) (traced_foreign _ _)
  | indexing error => exact .held (.indexing error) (traced_indexing error)
  | encoding error => exact .held (.encoding error) (traced_encoding error)
  | planes error => exact .held (.planes error) (traced_planes error)
  | palette error => exact .held (.palette error) (traced_palette error)
  | unfilledPreview size => exact .bare fun _ holds => by cases holds

end Problem

/-- The causes of an error are the messages below it. -/
theorem ToolError.traced_iff {error : ToolError} {texts : List String} :
    Problem.Traced (.tool error) texts ↔ texts = error.causes := by
  constructor
  · intro traced
    exact traced.unique (Problem.traced_tool error)
  · rintro rfl
    exact Problem.traced_tool error

end ChunkyPlanar
