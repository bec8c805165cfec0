import RegisterHeaders.FileSystem
import RegisterHeaders.Path

/-!
# File trees

A file tree holds the files and directories below a root, without links. A path begins at the root
or at the working directory and is followed step by step: a step leads on from a directory only, and
the root leads back to itself. `StateM FileTree` is a file system.
-/

namespace RegisterHeaders

/-- What there is at a location. -/
inductive FileTree.Entry where
  | directory
  | file (text : String)
  deriving Repr, DecidableEq

/-- A location: the names on the way to it from the root of the tree. -/
abbrev FileTree.Location := List String

/-- The files and directories at the locations of a tree, but for its root. -/
structure FileTree where
  entries : List (FileTree.Location × FileTree.Entry)
  nodup : (entries.map Prod.fst).Nodup
  /-- Where the paths begin that do not begin at the root. -/
  workingDirectory : FileTree.Location

namespace FileTree

/-! ## Entries -/

/-- The tree in which there is nothing but a working directory. -/
def empty : FileTree :=
  ⟨[(["work"], .directory)], by simp, ["work"]⟩

/-- What there is at a location. The root is a directory. -/
def get? (tree : FileTree) (location : Location) : Option Entry :=
  if location = [] then some .directory else tree.entries.lookup location

/-- Puts an entry in the place of the one at its location, or at the end. -/
def insertEntry (location : Location) (entry : Entry) :
    List (Location × Entry) → List (Location × Entry)
  | [] => [(location, entry)]
  | (l, e) :: rest =>
    if l = location then (l, entry) :: rest else (l, e) :: insertEntry location entry rest

theorem map_fst_insertEntry (location : Location) (entry : Entry)
    (entries : List (Location × Entry)) :
    (insertEntry location entry entries).map Prod.fst =
      if location ∈ entries.map Prod.fst then entries.map Prod.fst
      else entries.map Prod.fst ++ [location] := by
  induction entries with
  | nil => rfl
  | cons head rest ih =>
    obtain ⟨l, e⟩ := head
    by_cases h : l = location
    · simp [insertEntry, h]
    · simp only [insertEntry, h, if_false, List.map_cons, ih, List.mem_cons, Ne.symm h, false_or]
      split <;> rfl

theorem nodup_insertEntry {entries : List (Location × Entry)}
    (h : (entries.map Prod.fst).Nodup) (location : Location) (entry : Entry) :
    ((insertEntry location entry entries).map Prod.fst).Nodup := by
  rw [map_fst_insertEntry]
  split
  · exact h
  · grind [List.nodup_append]

/-- The tree with the given entry at a location. -/
def insert (tree : FileTree) (location : Location) (entry : Entry) : FileTree :=
  { entries := insertEntry location entry tree.entries
    nodup := nodup_insertEntry tree.nodup location entry
    workingDirectory := tree.workingDirectory }

theorem lookup_insertEntry (location l : Location) (entry : Entry)
    (entries : List (Location × Entry)) :
    (insertEntry location entry entries).lookup l =
      if l = location then some entry else entries.lookup l := by
  induction entries with
  | nil =>
    by_cases h : l = location <;> simp [insertEntry, List.lookup_cons, beq_eq_false_iff_ne.2, h]
  | cons head rest ih =>
    obtain ⟨k, e⟩ := head
    by_cases hk : k = location
    · by_cases h : l = location <;>
        simp [insertEntry, List.lookup_cons, beq_eq_false_iff_ne.2, hk, h]
    · by_cases hl : l = k
      · simp [insertEntry, hk, hl]
      · simp [insertEntry, List.lookup_cons, beq_eq_false_iff_ne.2, hk, hl, ih]

/-- An insertion changes what there is at its location only. -/
theorem get?_insert (tree : FileTree) {location : Location} (h : location ≠ []) (entry : Entry)
    (l : Location) :
    (tree.insert location entry).get? l =
      if l = location then some entry else tree.get? l := by
  by_cases hl : l = []
  · simp [get?, hl, Ne.symm h]
  · simp [get?, insert, hl, lookup_insertEntry]

/-- The files below the working directory, each with the way to it from there, and their texts. -/
def files (tree : FileTree) : List (Location × String) :=
  tree.entries.filterMap fun (location, entry) =>
    match tree.workingDirectory.isPrefixOf? location, entry with
    | some location, .file text => some (location, text)
    | _, _ => none

/-- The files below the working directory of `after` that are not in `before` with the same text. -/
def changed (before after : FileTree) : List (Location × String) :=
  after.files.filter fun (location, text) =>
    before.get? (after.workingDirectory ++ location) ≠ some (.file text)

/-! ## Following paths -/

/-- The location that steps lead to. Only the last of them may lead to nothing, and none to a name
that no file can have. -/
def follow? (tree : FileTree) (location : Location) : List Path.Step → Option Location
  | [] => some location
  | step :: rest =>
    if tree.get? location = some .directory then
      match step with
      | .stay => tree.follow? location rest
      | .back => tree.follow? location.dropLast rest
      | .down name =>
        if Path.isValidName name then tree.follow? (location ++ [name]) rest else none
    else none

/-- The location that a path begins at. -/
def base (tree : FileTree) (path : String) : Location :=
  if Path.isAbsolute path then [] else tree.workingDirectory

/-- The location of a path. -/
def locate? (tree : FileTree) (path : String) : Option Location :=
  (Path.steps? path).bind (tree.follow? (tree.base path))

/-- The text of the file that a path leads to. -/
def read? (tree : FileTree) (path : String) : Option String :=
  match (tree.locate? path).bind tree.get? with
  | some (.file text) => some text
  | _ => none

/-- Whether a path leads to a file or directory. -/
def contains (tree : FileTree) (path : String) : Bool :=
  ((tree.locate? path).bind tree.get?).isSome

/-- The tree with a text in the file that a path leads to, whose directory must exist. -/
def write? (tree : FileTree) (path text : String) : Option FileTree := do
  let location ← tree.locate? path
  if tree.get? location = some .directory then none
  else return tree.insert location (.file text)

/-! ## Creating directories -/

/-- Follows steps from a directory and creates the directories that do not exist. Tells whether all
steps lead to directories; what is created before one that does not stays. -/
def createFrom (tree : FileTree) (location : Location) : List Path.Step → Bool × FileTree
  | [] => (true, tree)
  | .stay :: rest => tree.createFrom location rest
  | .back :: rest => tree.createFrom location.dropLast rest
  | .down name :: rest =>
    match tree.get? (location ++ [name]) with
    | some .directory => tree.createFrom (location ++ [name]) rest
    | some (.file _) => (false, tree)
    | none =>
      if Path.isValidName name then
        (tree.insert (location ++ [name]) .directory).createFrom (location ++ [name]) rest
      else (false, tree)

/-- Creates the directory that a path leads to, and those on the way to it. -/
def createDirectories (tree : FileTree) (path : String) : Bool × FileTree :=
  match Path.steps? path with
  | some steps =>
    if tree.get? (tree.base path) = some .directory then tree.createFrom (tree.base path) steps
    else (false, tree)
  | none => (false, tree)

/-! ## The file system -/

instance : FileSystem (StateM FileTree) where
  readFile? path := fun tree => (tree.read? path, tree)
  pathExists path := fun tree => (tree.contains path, tree)
  createDirectories path := fun tree => tree.createDirectories path
  writeFile path text := fun tree =>
    match tree.write? path text with
    | some written => (true, written)
    | none => (false, tree)

/-- The tree of the given files, in the directories that their paths name. -/
def ofFiles (files : List (String × String)) : FileTree :=
  files.foldl (fun tree (path, text) =>
    let created := (tree.createFrom (tree.base path) ((Path.steps? path).getD []).dropLast).2
    (created.write? path text).getD created) empty

end FileTree

end RegisterHeaders
