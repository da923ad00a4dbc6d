/-! Byte buffers, and the whole chunks that a buffer holds. -/

namespace ChunkyPlanar

abbrev Bytes := Array UInt8

namespace Bytes

/-- A remainder shorter than `length` belongs to no chunk. -/
def chunks (bytes : Bytes) (length : Nat) : List Bytes :=
  (List.range (bytes.size / length)).map fun chunk =>
    bytes.extract (chunk * length) ((chunk + 1) * length)

def join (parts : List Bytes) : Bytes :=
  parts.foldl (fun joined part => joined ++ part) #[]

@[simp] theorem length_chunks (bytes : Bytes) (length : Nat) :
    (bytes.chunks length).length = bytes.size / length := by
  simp [chunks]

private theorem foldl_append (parts : List Bytes) (start : Bytes) :
    parts.foldl (fun joined part => joined ++ part) start = start ++ join parts := by
  induction parts generalizing start with
  | nil => simp [join]
  | cons part rest ih =>
      simp only [join, List.foldl_cons]
      rw [ih, ih (#[] ++ part)]
      simp

@[simp] theorem join_nil : join [] = #[] := rfl

@[simp] theorem join_cons (part : Bytes) (parts : List Bytes) :
    join (part :: parts) = part ++ join parts := by
  simp only [join, List.foldl_cons]
  rw [foldl_append]
  simp [join]

theorem toList_join (parts : List Bytes) :
    (join parts).toList = parts.flatMap Array.toList := by
  induction parts with
  | nil => rfl
  | cons part parts ih => simp [ih]

/-! Parts of one length stand at multiples of it when they are joined. -/

theorem length_flatMap_of_uniform {content : α → List β} {length : Nat} :
    ∀ {parts : List α}, (∀ part ∈ parts, (content part).length = length) →
      (parts.flatMap content).length = length * parts.length
  | [], _ => rfl
  | part :: parts, uniform => by
      have rest : (parts.flatMap content).length = length * parts.length :=
        length_flatMap_of_uniform fun other member =>
          uniform other (List.mem_cons_of_mem part member)
      rw [List.flatMap_cons, List.length_append, rest,
        uniform part List.mem_cons_self, List.length_cons, Nat.mul_succ,
        Nat.add_comm]

theorem getElem?_flatMap_of_uniform {content : α → List β} {length : Nat}
    {parts : List α} (uniform : ∀ part ∈ parts, (content part).length = length)
    (number : Nat) {offset : Nat} (inside : offset < length) :
    (parts.flatMap content)[length * number + offset]? =
      parts[number]?.bind fun part => (content part)[offset]? := by
  induction parts generalizing number with
  | nil => simp
  | cons part parts ih =>
      have first : (content part).length = length :=
        uniform part List.mem_cons_self
      rw [List.flatMap_cons]
      cases number with
      | zero =>
          rw [List.getElem?_append_left (by omega)]
          simp
      | succ number =>
          have later : length * (number + 1) + offset =
              length + (length * number + offset) := by
            rw [Nat.mul_succ]
            omega
          rw [later, ← first, List.getElem?_append_right (by omega),
            Nat.add_sub_cancel_left, first, List.getElem?_cons_succ]
          exact ih (fun other member =>
            uniform other (List.mem_cons_of_mem part member)) number

theorem size_arrayFlatMap_of_uniform {content : α → Array β} {length : Nat}
    (uniform : ∀ part, (content part).size = length) (parts : Array α) :
    (parts.flatMap content).size = length * parts.size := by
  rw [← Array.length_toList, Array.toList_flatMap,
    length_flatMap_of_uniform fun part _ => uniform part, Array.length_toList]

theorem getElem?_arrayFlatMap_of_uniform {content : α → Array β} {length : Nat}
    (uniform : ∀ part, (content part).size = length) (parts : Array α)
    (number : Nat) {offset : Nat} (inside : offset < length) :
    (parts.flatMap content)[length * number + offset]? =
      parts[number]?.bind fun part => (content part)[offset]? := by
  rw [← Array.getElem?_toList, Array.toList_flatMap,
    getElem?_flatMap_of_uniform (fun part _ => uniform part) number inside,
    Array.getElem?_toList]
  simp only [Array.getElem?_toList]

section Uniform

variable {parts : List Bytes} {length : Nat}

theorem size_join_of_uniform (uniform : ∀ part ∈ parts, part.size = length) :
    (join parts).size = length * parts.length := by
  rw [← Array.length_toList, toList_join]
  exact length_flatMap_of_uniform uniform

theorem getElem?_join_of_uniform (uniform : ∀ part ∈ parts, part.size = length)
    (number : Nat) {offset : Nat} (inside : offset < length) :
    (join parts)[length * number + offset]? =
      parts[number]?.bind fun part => part[offset]? := by
  rw [← Array.getElem?_toList, toList_join,
    getElem?_flatMap_of_uniform uniform number inside]
  simp only [Array.getElem?_toList]

theorem extract_join_of_uniform (uniform : ∀ part ∈ parts, part.size = length)
    {number : Nat} (present : number < parts.length) :
    (join parts).extract (number * length) ((number + 1) * length) =
      parts[number] := by
  have size := size_join_of_uniform uniform
  have own : parts[number].size = length := uniform _ (List.getElem_mem present)
  have whole : (number + 1) * length ≤ (join parts).size := by
    rw [size, Nat.mul_comm length]
    exact Nat.mul_le_mul_right length present
  have next : (number + 1) * length = number * length + length := Nat.succ_mul ..
  apply Array.ext
  · rw [Array.size_extract, own]
    omega
  · intro offset inside inside'
    have at? := getElem?_join_of_uniform uniform number (own ▸ inside')
    rw [List.getElem?_eq_getElem present, Option.bind_some,
      Array.getElem?_eq_getElem inside', Nat.mul_comm] at at?
    rw [Array.getElem_extract]
    exact (Array.getElem?_eq_some_iff.mp at?).2

theorem chunks_join_of_uniform (positive : 0 < length)
    (uniform : ∀ part ∈ parts, part.size = length) :
    (join parts).chunks length = parts := by
  have count : (join parts).size / length = parts.length := by
    rw [size_join_of_uniform uniform]
    exact Nat.mul_div_cancel_left _ positive
  apply List.ext_getElem
  · rw [length_chunks, count]
  · intro number _ present
    rw [← extract_join_of_uniform uniform present]
    simp [chunks]

end Uniform

/-! A buffer of whole chunks is what its chunks join to. -/

theorem join_append (first second : List Bytes) :
    join (first ++ second) = join first ++ join second := by
  induction first with
  | nil => simp
  | cons part parts ih => simp [ih, Array.append_assoc]

private theorem join_extracts (bytes : Bytes) (length count : Nat) :
    join ((List.range count).map fun chunk =>
      bytes.extract (chunk * length) ((chunk + 1) * length)) =
      bytes.extract 0 (count * length) := by
  induction count with
  | zero => simp
  | succ count ih =>
      have next : count * length ≤ (count + 1) * length :=
        Nat.mul_le_mul_right length (Nat.le_succ count)
      rw [List.range_succ, List.map_append, join_append, ih]
      simp [Nat.max_eq_right next]

section Whole

variable {bytes : Bytes} {length : Nat} (whole : length ∣ bytes.size)

include whole

theorem join_chunks : join (bytes.chunks length) = bytes := by
  rw [chunks, join_extracts, Nat.div_mul_cancel whole, Array.extract_size]

theorem size_of_mem_chunks {part : Bytes} (member : part ∈ bytes.chunks length) :
    part.size = length := by
  obtain ⟨chunk, present, rfl⟩ := List.mem_map.mp member
  rw [List.mem_range] at present
  have next : (chunk + 1) * length = chunk * length + length := Nat.succ_mul ..
  have inside : (chunk + 1) * length ≤ bytes.size := by
    rw [← Nat.div_mul_cancel whole]
    exact Nat.mul_le_mul_right length present
  rw [Array.size_extract]
  omega

end Whole

end Bytes

end ChunkyPlanar
