import Mathlib
import ChunkyPlanar.Files.Tree

/-! Writing in a tree of files: one file changes, the folders stay, and what was written
to a path is read from it. -/

namespace ChunkyPlanar.FileTree

private theorem lookup_map_replace (files : List (Location × Bytes))
    (location other : Location) (content : Bytes) :
    (files.map fun file =>
      if file.1 = location then (location, content) else file).lookup other =
      if other = location then (files.lookup location).map fun _ => content
      else files.lookup other := by
  induction files with
  | nil => simp
  | cons file files ih =>
      obtain ⟨name, held⟩ := file
      by_cases sought : other = location
      · subst sought
        rw [if_pos rfl] at ih ⊢
        by_cases named : name = other
        · simp [named]
        · have apart : (other == name) = false := beq_false_of_ne (Ne.symm named)
          simp [List.lookup_cons, ih, named, apart]
      · rw [if_neg sought] at ih ⊢
        by_cases named : name = location
        · have apart : (other == location) = false := beq_false_of_ne sought
          simp [List.lookup_cons, ih, named, apart]
        · simp [List.lookup_cons, ih, named]

section Put

variable (tree : FileTree) (location : Location) (content : Bytes)

@[simp] theorem folders_put : (tree.put location content).folders = tree.folders := by
  unfold put
  split
  · rfl
  · rfl

@[simp] theorem working_put : (tree.put location content).working = tree.working := by
  unfold put
  split
  · rfl
  · rfl

theorem content?_put :
    (tree.put location content).content? =
      Function.update tree.content? location (some content) := by
  funext other
  rw [Function.update_apply]
  unfold put
  cases held : tree.content? location with
  | some old =>
      rw [if_pos (Option.isSome_some)]
      unfold content? at held ⊢
      rw [lookup_map_replace, held]
      rfl
  | none =>
      rw [if_neg (by simp)]
      unfold content? at held ⊢
      rw [List.lookup_append]
      by_cases sought : other = location
      · simp [sought, held]
      · have apart : (other == location) = false := beq_false_of_ne sought
        simp [List.lookup_cons, sought, apart]

end Put

private theorem bind_eq_ok_iff {outcome : Except ε α} {next : α → Except ε β}
    {result : β} :
    outcome >>= next = .ok result ↔ ∃ value, outcome = .ok value ∧ next value = .ok result := by
  cases outcome with
  | error error => simp [bind, Except.bind]
  | ok value => simp [bind, Except.bind]

/-! Where a path leads hangs on the folders alone. -/

section Folders

variable {first second : FileTree} (folders : second.folders = first.folders)

include folders

theorem isFolder_of_folders : second.isFolder = first.isFolder := by
  funext location
  unfold isFolder
  rw [folders]

theorem enter_eq_ok_iff_of_folders {location next : Location} {segment : FileName} :
    second.enter location segment = .ok next ↔ first.enter location segment = .ok next := by
  unfold enter
  rw [isFolder_of_folders folders]
  split_ifs <;> simp

theorem foldlM_enter_eq_ok_iff_of_folders {segments : List FileName}
    {start folder : Location} :
    segments.foldlM second.enter start = .ok folder ↔
      segments.foldlM first.enter start = .ok folder := by
  induction segments generalizing start with
  | nil => rfl
  | cons segment segments ih =>
      simp only [List.foldlM_cons, bind_eq_ok_iff, enter_eq_ok_iff_of_folders folders, ih]

end Folders

/-- The path ends in the name, in a folder where a file of that name can stand. -/
structure Names (tree : FileTree) (path : FilePath) (folder : Location)
    (name : FileName) : Prop where
  checked : checkPath path = .ok ()
  last : (path.segments.getLast?).getD [] = name
  way : path.segments.dropLast.foldlM tree.enter (tree.start path) = .ok folder
  apart : ¬ (FilePath.isInPlace name = true ∨ name = FilePath.above)
  short : ¬ longestName < name.length
  free : ¬ tree.isFolder (folder ++ [name]) = true

private theorem takeWhile_reverse_eq_nil {segments : List FileName}
    (named : (segments.getLast?).getD [] ≠ []) :
    segments.reverse.takeWhile (·.isEmpty) = [] := by
  rcases segments.eq_nil_or_concat with rfl | ⟨front, last, rfl⟩
  · rfl
  · simpa using named

theorem place_eq_ok_iff {tree : FileTree} {path : FilePath} {location : Location} :
    tree.place path = .ok location ↔
      ∃ folder name, tree.Names path folder name ∧ location = folder ++ [name] := by
  unfold place
  simp only [bind_eq_ok_iff]
  constructor
  · intro placed
    obtain ⟨_, checked, folder, way, ending⟩ := placed
    split_ifs at ending with outside long taken
    cases ending
    -- No slash is at the end, so nothing was taken from the segments.
    have whole : (path.segments.reverse.takeWhile (·.isEmpty)).length = 0 := by omega
    simp only [whole, Nat.sub_zero, List.take_length] at way outside long taken ⊢
    exact ⟨folder, _, ⟨checked, rfl, way, by tauto, long, taken⟩, rfl⟩
  · intro named
    obtain ⟨folder, name, names, rfl⟩ := named
    have nonempty : (path.segments.getLast?).getD [] ≠ [] := by
      rw [names.last]
      intro empty
      exact names.apart (.inl (by simp [FilePath.isInPlace, empty]))
    refine ⟨(), names.checked, folder, ?_⟩
    simp only [takeWhile_reverse_eq_nil nonempty, List.length_nil, Nat.sub_zero,
      List.take_length, names.last]
    refine ⟨names.way, ?_⟩
    rw [if_neg (by simpa using names.apart), if_neg names.short, if_neg names.free]

theorem Names.of_folders {first second : FileTree} {path : FilePath} {folder : Location}
    {name : FileName} (names : first.Names path folder name)
    (folders : second.folders = first.folders) (working : second.working = first.working) :
    second.Names path folder name where
  checked := names.checked
  last := names.last
  way := by
    rw [foldlM_enter_eq_ok_iff_of_folders folders, start, working]
    exact names.way
  apart := names.apart
  short := names.short
  free := by
    rw [isFolder_of_folders folders]
    exact names.free

theorem place_eq_ok_iff_of_folders {first second : FileTree} {path : FilePath}
    {location : Location} (folders : second.folders = first.folders)
    (working : second.working = first.working) :
    second.place path = .ok location ↔ first.place path = .ok location := by
  rw [place_eq_ok_iff, place_eq_ok_iff]
  constructor
  · intro named
    obtain ⟨folder, name, names, rfl⟩ := named
    exact ⟨folder, name, names.of_folders folders.symm working.symm, rfl⟩
  · intro named
    obtain ⟨folder, name, names, rfl⟩ := named
    exact ⟨folder, name, names.of_folders folders working, rfl⟩

theorem read_eq_ok_iff {tree : FileTree} {path : FilePath} {content : Bytes} :
    tree.read path = .ok content ↔
      ∃ location, tree.place path = .ok location ∧
        tree.content? location = some content := by
  unfold read
  simp only [bind_eq_ok_iff, place_eq_ok_iff]
  constructor
  · intro found
    obtain ⟨_, checked, folder, way, ending⟩ := found
    split_ifs at ending with apart long taken
    cases held : tree.content?
        (folder ++ [(path.segments.getLast?).getD []]) with
    | none =>
        simp only [held] at ending
        cases ending
    | some own =>
        simp only [held] at ending
        cases ending
        exact ⟨_, ⟨folder, _, ⟨checked, rfl, way, apart, long, taken⟩, rfl⟩, held⟩
  · intro parts
    obtain ⟨location, ⟨folder, name, names, rfl⟩, held⟩ := parts
    refine ⟨(), names.checked, folder, names.way, ?_⟩
    rw [names.last, if_neg names.apart, if_neg names.short, if_neg names.free]
    simp only [held]

/-- The whole content is in the place that the path names, and nothing else has
changed. -/
structure Stores (before : FileTree) (path : FilePath) (content : Bytes)
    (after : FileTree) (location : Location) : Prop where
  placed : before.place path = .ok location
  folders : after.folders = before.folders
  working : after.working = before.working
  content? : after.content? = Function.update before.content? location (some content)

section Stored

variable {before after : FileTree} {path other : FilePath} {content held : Bytes}
  {location : Location} (stores : before.Stores path content after location)

include stores

theorem Stores.place_eq_ok_iff {place : Location} :
    after.place other = .ok place ↔ before.place other = .ok place :=
  place_eq_ok_iff_of_folders stores.folders stores.working

theorem Stores.content?_of_ne {place : Location} (apart : place ≠ location) :
    after.content? place = before.content? place := by
  rw [stores.content?, Function.update_of_ne apart]

theorem Stores.read : after.read path = .ok content := by
  refine read_eq_ok_iff.mpr ⟨location, stores.place_eq_ok_iff.mpr stores.placed, ?_⟩
  rw [stores.content?, Function.update_self]

theorem Stores.read_of_ne (found : before.read other = .ok held)
    (apart : before.place other ≠ before.place path) : after.read other = .ok held := by
  obtain ⟨place, placed, own⟩ := read_eq_ok_iff.mp found
  rw [placed, stores.placed] at apart
  refine read_eq_ok_iff.mpr ⟨place, stores.place_eq_ok_iff.mpr placed, ?_⟩
  rw [stores.content?_of_ne fun same => apart (congrArg Except.ok same), own]

end Stored

theorem exists_stores_of_write {before after : FileTree} {path : FilePath}
    {content : Bytes} (written : before.write path content = .ok after) :
    ∃ location, before.Stores path content after location := by
  unfold write at written
  obtain ⟨location, placed, put⟩ := bind_eq_ok_iff.mp written
  cases put
  exact ⟨location, placed, folders_put .., working_put .., content?_put ..⟩

end ChunkyPlanar.FileTree
