import Mathlib
import ChunkyPlanar.Journal

/-! What results tell in their journals: information when they succeed, and one report of
the error when they do not. -/

namespace ChunkyPlanar.Logged

variable {ε φ α β : Type} {result first : Logged ε α} {next : α → Logged ε β}
  {texts : List String}

/-- A success tells the texts and nothing else; an error tells nothing but its report. -/
inductive Tells (texts : List String) : Logged ε α → Prop
  | ok (value : α) : Tells texts ⟨texts.map (⟨.info, ·⟩), .ok value⟩
  | error (report : String) (error : ε) : Tells texts (.fail report error)

/-- One error entry for an error, and none for a success. -/
def ReportsOnce (result : Logged ε α) : Prop :=
  (result.journal.filter (·.level = .error)).length =
    match result.outcome with
    | .ok _ => 0
    | .error _ => 1

namespace Tells

theorem succeed (value : α) : (Logged.succeed value : Logged ε α).Tells [] := .ok value

theorem silent {outcome : Except ε α} (succeeds : ∃ value, outcome = .ok value) :
    (Logged.silent outcome).Tells [] := by
  obtain ⟨value, rfl⟩ := succeeds
  exact .ok value

theorem info_bind_succeed (text : String) (value : α) :
    ((info text).bind fun _ => (Logged.succeed value : Logged ε α)).Tells [text] := .ok value

theorem mapError (tells : result.Tells texts) (wrap : ε → φ) :
    (result.mapError wrap).Tells texts := by
  cases tells with
  | ok value => exact .ok value
  | error report error => exact .error report (wrap error)

/-- What comes before tells nothing of its own. -/
theorem bind (before : first.Tells [])
    (after : ∀ value, first.outcome = .ok value → (next value).Tells texts) :
    (first.bind next).Tells texts := by
  cases before with
  | ok value => exact after value rfl
  | error report error => exact .error report error

theorem cases_outcome (tells : result.Tells texts) :
    (∃ value, result = ⟨texts.map (⟨.info, ·⟩), .ok value⟩) ∨
      ∃ report error, result = fail report error := by
  cases tells with
  | ok value => exact .inl ⟨value, rfl⟩
  | error report error => exact .inr ⟨report, error, rfl⟩

theorem reportsOnce (tells : result.Tells texts) : result.ReportsOnce := by
  cases tells with
  | ok value => simp [ReportsOnce]
  | error report error => simp [ReportsOnce, fail]

end Tells

theorem ReportsOnce.info_bind {text : String} {later : Logged ε α}
    (reports : later.ReportsOnce) : ((info text).bind fun _ => later).ReportsOnce := by
  unfold ReportsOnce at reports ⊢
  exact reports

end ChunkyPlanar.Logged
