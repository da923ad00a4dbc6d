import Mathlib
import ChunkyPlanar.Machine

/-! Steps of the machine that do not trap, and passes over a buffer, which keep what each of
their steps keeps. -/

namespace ChunkyPlanar.Machine

theorem add_eq {first second : Nat} (fits : first + second < UInt64.size) :
    add first second = .ok (first + second) :=
  if_pos fits

theorem mul_eq {first second : Nat} (fits : first * second < UInt64.size) :
    mul first second = .ok (first * second) :=
  if_pos fits

theorem sub_eq {first second : Nat} (above : second ≤ first) :
    sub first second = .ok (first - second) :=
  if_pos above

theorem shiftLeft_eq {amount : Nat} (within : amount < 8) (byte : UInt8) :
    shiftLeft byte amount = .ok (byte <<< amount.toUInt8) :=
  if_pos within

theorem shiftRight_eq {amount : Nat} (within : amount < 8) (byte : UInt8) :
    shiftRight byte amount = .ok (byte >>> amount.toUInt8) :=
  if_pos within

theorem shiftRight_and_one {number : Nat} (within : number < 8) (byte : UInt8) :
    byte >>> number.toUInt8 &&& 1 = (byte.toNat.testBit number).toUInt8 := by
  apply UInt8.toNat_inj.mp
  have amount : number.toUInt8.toNat % 8 = number := by
    rw [UInt8.toNat_ofNat']
    omega
  rw [UInt8.toNat_and, UInt8.toNat_shiftRight, amount, Nat.shiftRight_eq_div_pow]
  change _ &&& 1 = _
  rw [Nat.and_one_is_mod, ← Nat.toNat_testBit]
  cases byte.toNat.testBit number with
  | false => rfl
  | true => rfl

theorem read_eq {buffer : Array α} {position : Nat} (inside : position < buffer.size) :
    read buffer position = .ok buffer[position] :=
  dif_pos inside

theorem merge_eq {buffer : Bytes} {position : Nat} (inside : position < buffer.size)
    (byte : UInt8) :
    merge buffer position byte =
      .ok (buffer.set position (buffer[position] ||| byte)) :=
  dif_pos inside

theorem chunks_eq {length : Nat} (positive : 0 < length) (bytes : Bytes) :
    chunks bytes length = .ok (bytes.chunks length) :=
  if_neg (Nat.ne_of_gt positive)

theorem mapM_eq {work : α → Except Trap β} {value : α → β} {items : List α}
    (does : ∀ item ∈ items, work item = .ok (value item)) :
    items.mapM work = .ok (items.map value) := by
  induction items with
  | nil => rfl
  | cons item items ih =>
      have rest := ih fun other member => does other (List.mem_cons_of_mem item member)
      rw [List.mapM_cons, does item List.mem_cons_self, rest]
      rfl

theorem foldlM_eq {work : β → α → Except Trap β} {value : β → α → β}
    (does : ∀ state item, work state item = .ok (value state item)) (items : List α)
    (state : β) : items.foldlM work state = .ok (items.foldl value state) := by
  induction items generalizing state with
  | nil => rfl
  | cons item items ih =>
      rw [List.foldlM_cons, does state item]
      exact ih (value state item)

/-- A pass ends, and it keeps what each of its steps takes on to the next. -/
theorem exists_foldlM {work : β → α → Except Trap β} {items : List α} {state : β}
    (keeps : Nat → β → Prop)
    (steps : ∀ number (inside : number < items.length) state, keeps number state →
      ∃ next, work state items[number] = .ok next ∧ keeps (number + 1) next)
    (start : keeps 0 state) :
    ∃ last, items.foldlM work state = .ok last ∧ keeps items.length last := by
  induction items generalizing keeps state with
  | nil => exact ⟨state, rfl, start⟩
  | cons item items ih =>
      obtain ⟨next, first, kept⟩ := steps 0 (Nat.zero_lt_succ _) state start
      rw [List.getElem_cons_zero] at first
      obtain ⟨last, rest, ends⟩ := ih (fun number => keeps (number + 1))
        (fun number inside => steps (number + 1) (Nat.succ_lt_succ inside)) kept
      refine ⟨last, ?_, ends⟩
      rw [List.foldlM_cons, first]
      exact rest

end ChunkyPlanar.Machine
