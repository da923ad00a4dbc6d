/-! Log entries, and results that carry the entries written on the way to them. -/

namespace ChunkyPlanar

inductive Level where
  | info
  | error
  deriving DecidableEq, Repr

structure Entry where
  level : Level
  text : String
  deriving DecidableEq, Repr

structure Logged (ε α : Type) where
  journal : List Entry
  outcome : Except ε α

namespace Logged

variable {ε φ α β : Type}

def succeed (value : α) : Logged ε α := ⟨[], .ok value⟩

/-- Gives up with `error`, after reporting `report`. -/
def fail (report : String) (error : ε) : Logged ε α :=
  ⟨[⟨.error, report⟩], .error error⟩

def info (text : String) : Logged ε Unit := ⟨[⟨.info, text⟩], .ok ()⟩

/-- A result that reports nothing, even when it is an error. -/
def silent (outcome : Except ε α) : Logged ε α := ⟨[], outcome⟩

protected def bind (first : Logged ε α) (next : α → Logged ε β) : Logged ε β :=
  match first.outcome with
  | .error error => ⟨first.journal, .error error⟩
  | .ok value => ⟨first.journal ++ (next value).journal, (next value).outcome⟩

instance : Monad (Logged ε) where
  pure := succeed
  bind := Logged.bind

def mapError (wrap : ε → φ) (result : Logged ε α) : Logged φ α :=
  ⟨result.journal, result.outcome.mapError wrap⟩

@[simp] theorem pure_eq (value : α) : (pure value : Logged ε α) = succeed value := rfl

@[simp] theorem bind_eq (first : Logged ε α) (next : α → Logged ε β) :
    first >>= next = first.bind next := rfl

@[simp] theorem bind_succeed (value : α) (next : α → Logged ε β) :
    (succeed value).bind next = next value := rfl

@[simp] theorem bind_fail (report : String) (error : ε) (next : α → Logged ε β) :
    (fail report error).bind next = fail report error := rfl

@[simp] theorem mapError_succeed (wrap : ε → φ) (value : α) :
    (succeed value).mapError wrap = succeed value := rfl

@[simp] theorem mapError_fail (wrap : ε → φ) (report : String) (error : ε) :
    (fail report error : Logged ε α).mapError wrap = fail report (wrap error) := rfl

theorem bind_assoc {γ : Type} (first : Logged ε α) (next : α → Logged ε β)
    (last : β → Logged ε γ) :
    (first.bind next).bind last = first.bind fun value => (next value).bind last := by
  obtain ⟨journal, outcome⟩ := first
  cases outcome with
  | error error => rfl
  | ok value =>
      simp only [Logged.bind]
      cases (next value).outcome with
      | error error => rfl
      | ok value => simp

/-- What follows counts only for what the first result may give. -/
theorem bind_congr {first : Logged ε α} {next other : α → Logged ε β}
    (agree : ∀ value, first.outcome = .ok value → next value = other value) :
    first.bind next = first.bind other := by
  obtain ⟨journal, outcome⟩ := first
  cases outcome with
  | error error => rfl
  | ok value => simp only [Logged.bind, agree value rfl]

/-! What comes of a chain of results, whatever its journal says. -/

@[simp] theorem outcome_succeed (value : α) :
    (succeed value : Logged ε α).outcome = .ok value := rfl

@[simp] theorem outcome_fail (report : String) (error : ε) :
    (fail report error : Logged ε α).outcome = .error error := rfl

@[simp] theorem outcome_info (text : String) :
    (info text : Logged ε Unit).outcome = .ok () := rfl

@[simp] theorem outcome_silent (outcome : Except ε α) :
    (silent outcome).outcome = outcome := rfl

@[simp] theorem outcome_mapError (wrap : ε → φ) (result : Logged ε α) :
    (result.mapError wrap).outcome = result.outcome.mapError wrap := rfl

@[simp] theorem mapError_eq_ok_iff {wrap : ε → φ} {outcome : Except ε α} {value : α} :
    outcome.mapError wrap = .ok value ↔ outcome = .ok value := by
  cases outcome with
  | error error =>
      change Except.error (wrap error) = .ok value ↔ Except.error error = .ok value
      simp
  | ok own =>
      change Except.ok own = .ok value ↔ Except.ok own = .ok value
      simp

theorem outcome_bind (first : Logged ε α) (next : α → Logged ε β) :
    (first.bind next).outcome =
      first.outcome.bind fun value => (next value).outcome := by
  unfold Logged.bind
  cases first.outcome with
  | error error => rfl
  | ok value => rfl

@[simp] theorem outcome_map (next : α → β) (first : Logged ε α) :
    (next <$> first).outcome = first.outcome.map next := by
  change (first.bind fun value => succeed (next value)).outcome = _
  rw [outcome_bind]
  cases first.outcome with
  | error error => rfl
  | ok value => rfl

theorem outcome_bind_eq_ok_iff {first : Logged ε α} {next : α → Logged ε β}
    {result : β} :
    (first.bind next).outcome = .ok result ↔
      ∃ value, first.outcome = .ok value ∧ (next value).outcome = .ok result := by
  rw [outcome_bind]
  cases first.outcome with
  | error error => simp [Except.bind]
  | ok value => simp [Except.bind]

end Logged

end ChunkyPlanar
