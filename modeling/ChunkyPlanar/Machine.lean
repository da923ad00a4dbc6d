import ChunkyPlanar.Bytes
import ChunkyPlanar.Journal

/-! A machine whose words have 64 bits. It traps on what it cannot do: a sum or a product
that no word holds, a difference below zero, a shift of a byte by its whole width, a place
outside a buffer, and chunks without a length. -/

namespace ChunkyPlanar

inductive Trap where
  | overflow (value : Nat)
  | underflow (first second : Nat)
  | shift (amount : Nat)
  | outside (position size : Nat)
  | emptyChunks
  deriving DecidableEq, Repr

namespace Machine

def word (value : Nat) : Except Trap Nat :=
  if value < UInt64.size then .ok value else .error (.overflow value)

def add (first second : Nat) : Except Trap Nat := word (first + second)

def mul (first second : Nat) : Except Trap Nat := word (first * second)

def sub (first second : Nat) : Except Trap Nat :=
  if second ≤ first then .ok (first - second) else .error (.underflow first second)

def shiftLeft (byte : UInt8) (amount : Nat) : Except Trap UInt8 :=
  if amount < 8 then .ok (byte <<< amount.toUInt8) else .error (.shift amount)

def shiftRight (byte : UInt8) (amount : Nat) : Except Trap UInt8 :=
  if amount < 8 then .ok (byte >>> amount.toUInt8) else .error (.shift amount)

def read (buffer : Array α) (position : Nat) : Except Trap α :=
  if inside : position < buffer.size then
    .ok buffer[position]
  else
    .error (.outside position buffer.size)

/-- Adds the bits of `byte` to those in its place. -/
def merge (buffer : Bytes) (position : Nat) (byte : UInt8) : Except Trap Bytes :=
  if inside : position < buffer.size then
    .ok (buffer.set position (buffer[position] ||| byte))
  else
    .error (.outside position buffer.size)

def chunks (bytes : Bytes) (length : Nat) : Except Trap (List Bytes) :=
  if length = 0 then .error .emptyChunks else .ok (bytes.chunks length)

@[simp] theorem ok_bind (value : α) (next : α → Except Trap β) :
    Except.ok value >>= next = next value := rfl

end Machine

/-- A result with its journal, unless the machine traps on the way to it. -/
def Work (ε α : Type) : Type := Except Trap (Logged ε α)

namespace Work

variable {ε α β : Type}

def done (result : Logged ε α) : Work ε α := .ok result

/-- A step of the machine, which reports nothing. -/
def step (value : Except Trap α) : Work ε α := value.map .succeed

protected def bind (first : Work ε α) (next : α → Work ε β) : Work ε β :=
  match first with
  | .error trap => .error trap
  | .ok result =>
      match result.outcome with
      | .error error => .ok ⟨result.journal, .error error⟩
      | .ok value => Except.map (fun later =>
          ⟨result.journal ++ later.journal, later.outcome⟩) (next value)

instance : Monad (Work ε) where
  pure value := done (.succeed value)
  bind := Work.bind

@[simp] theorem pure_eq (value : α) : (pure value : Work ε α) = done (.succeed value) := rfl

@[simp] theorem bind_eq (first : Work ε α) (next : α → Work ε β) :
    first >>= next = first.bind next := rfl

@[simp] theorem bind_step (value : α) (next : α → Work ε β) :
    (step (.ok value)).bind next = next value := by
  change Except.map _ (next value) = next value
  cases next value with
  | error trap => rfl
  | ok later => rfl

@[simp] theorem bind_succeed (value : α) (next : α → Work ε β) :
    (done (.succeed value)).bind next = next value := bind_step value next

@[simp] theorem bind_fail (report : String) (error : ε) (next : α → Work ε β) :
    (done (.fail report error)).bind next = done (.fail report error) := rfl

/-- Work that goes on without a trap after a result is done with the whole of it. -/
theorem bind_done {first : Logged ε α} {next : α → Work ε β} {later : α → Logged ε β}
    (goes : ∀ value, first.outcome = .ok value → next value = done (later value)) :
    (done first).bind next = done (first.bind later) := by
  obtain ⟨journal, outcome⟩ := first
  cases outcome with
  | error error => rfl
  | ok value =>
      change Except.map _ (next value) = _
      rw [goes value rfl]
      rfl

end Work

end ChunkyPlanar
