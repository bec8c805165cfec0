import Mathlib.Data.List.TakeDrop
import Mathlib.Data.List.TakeWhile
import RegisterHeaders.Derivation.Lookup
import RegisterHeaders.Proofs.Text

/-!
# Paths of names

An element is referred to by names with dots between them, the name of the element itself last. A
path is made of one list of names only, those that stand between its dots (`isDotted_iff`). What
precedes its first dot is the first of them (`splitFirst_of_isDotted`), and with underscores for the
dots it is the name that a register has outside its clusters (`flatName_intercalate`).
-/

namespace RegisterHeaders

variable {path : String} {names : List String}

/-- A path consists of the given names, separated by dots. -/
structure IsDotted (path : String) (names : List String) : Prop where
  nonempty : names ≠ []
  dotless : ∀ name ∈ names, '.' ∉ name.toList
  joined : ".".intercalate names = path

/-- The names between the dots of a path. -/
def dottedNames (path : String) : List String :=
  (path.toList.splitOn '.').map String.ofList

theorem isDotted_dottedNames (path : String) : IsDotted path (dottedNames path) := by
  have pieces : (dottedNames path).map String.toList = path.toList.splitOn '.' := by
    rw [dottedNames, List.map_map]
    exact (List.map_congr_left fun piece _ => String.toList_ofList).trans (List.map_id _)
  refine ⟨fun empty => ?_, fun name hname hdot => ?_, ?_⟩
  · rw [empty] at pieces
    exact List.splitOn_ne_nil _ _ pieces.symm
  · have piece : name.toList ∈ path.toList.splitOnP (· == '.') := by
      rw [← List.splitOn_eq_splitOnP, ← pieces]
      exact List.mem_map_of_mem hname
    exact absurd (Text.eq_false_of_mem_splitOnP piece _ hdot) (by decide)
  · rw [← String.toList_inj, String.toList_intercalate, pieces]
    exact List.intercalate_splitOn '.'

theorem isDotted_iff : IsDotted path names ↔ dottedNames path = names := by
  constructor
  · rintro ⟨nonempty, dotless, rfl⟩
    have pieces : ∀ piece ∈ names.map String.toList, '.' ∉ piece := by simpa using dotless
    have split : (['.'].intercalate (names.map String.toList)).splitOn '.' =
        names.map String.toList :=
      List.splitOn_intercalate '.' pieces (by simpa using nonempty)
    rw [dottedNames, String.toList_intercalate]
    refine (congrArg (List.map String.ofList) split).trans ?_
    rw [List.map_map]
    exact (List.map_congr_left fun name _ => String.ofList_toList).trans (List.map_id _)
  · rintro rfl
    exact isDotted_dottedNames path

theorem IsDotted.unique {names' : List String} (h : IsDotted path names)
    (h' : IsDotted path names') : names = names' :=
  (isDotted_iff.1 h).symm.trans (isDotted_iff.1 h')

theorem IsDotted.tail_dotless {owner : String} (h : IsDotted path (owner :: names)) :
    ∀ name ∈ names, '.' ∉ name.toList :=
  (List.forall_mem_cons.1 h.dotless).2

namespace Derivation

theorem splitFirst_of_dotless (h : '.' ∉ path.toList) : splitFirst path = none := by
  have rest : path.toList.dropWhile (· ≠ '.') = [] :=
    List.dropWhile_eq_nil_iff.2 fun c hc => decide_eq_true fun heq => h (heq ▸ hc)
  rw [splitFirst, List.span_eq_takeWhile_dropWhile, rest]

theorem splitFirst_append {owner rest : String} (h : '.' ∉ owner.toList) :
    splitFirst (owner ++ "." ++ rest) = some (owner, rest) := by
  have others : ∀ c ∈ owner.toList, decide (c ≠ '.') = true := fun c hc =>
    decide_eq_true fun heq => h (heq ▸ hc)
  have chars : (owner ++ "." ++ rest).toList = owner.toList ++ '.' :: rest.toList := by
    simp [String.toList_append]
  have parts : (owner ++ "." ++ rest).toList.span (· ≠ '.') =
      (owner.toList, '.' :: rest.toList) := by
    rw [chars, List.span_eq_takeWhile_dropWhile, List.takeWhile_append_of_pos others,
      List.dropWhile_append_of_pos others]
    simp
  rw [splitFirst, parts]
  simp [String.ofList_toList]

/-- The first dot of a path stands behind its first name. -/
theorem splitFirst_of_isDotted {owner : String} (h : IsDotted path (owner :: names))
    (hn : names ≠ []) : splitFirst path = some (owner, ".".intercalate names) := by
  rw [← h.joined, String.intercalate_cons_of_ne_nil hn]
  exact splitFirst_append (h.dotless owner List.mem_cons_self)

theorem isDotted_of_splitFirst {owner rest : String} (h : splitFirst path = some (owner, rest)) :
    ∃ names, names ≠ [] ∧ IsDotted path (owner :: names) := by
  have dotted := isDotted_dottedNames path
  rcases hnames : dottedNames path with _ | ⟨first, _ | ⟨next, names⟩⟩
  · exact absurd hnames dotted.nonempty
  · rw [hnames] at dotted
    have dotless := dotted.dotless first List.mem_cons_self
    have joined := dotted.joined
    rw [String.intercalate_singleton] at joined
    rw [← joined, splitFirst_of_dotless dotless] at h
    cases h
  · rw [hnames] at dotted
    have parts := splitFirst_of_isDotted dotted (List.cons_ne_nil next names)
    obtain ⟨rfl, -⟩ := Prod.mk.inj (Option.some.inj (parts.symm.trans h))
    exact ⟨next :: names, List.cons_ne_nil next names, dotted⟩

theorem flatName_append (a b : String) : flatName (a ++ b) = flatName a ++ flatName b := by
  simp [flatName]

theorem flatName_of_dotless (h : '.' ∉ path.toList) : flatName path = path := by
  have chars : (path.toList.map fun c => if c = '.' then '_' else c) = path.toList := by
    rw [List.map_congr_left fun c hc => if_neg fun heq : c = '.' => h (heq ▸ hc), List.map_id']
  rw [flatName, chars, String.ofList_toList]

/-- Outside all clusters the names in a path are separated by underscores. -/
theorem flatName_intercalate (h : ∀ name ∈ names, '.' ∉ name.toList) :
    flatName (".".intercalate names) = "_".intercalate names := by
  induction names with
  | nil => rfl
  | cons name rest ih =>
    obtain ⟨hname, hrest⟩ := List.forall_mem_cons.1 h
    cases rest with
    | nil =>
      rw [String.intercalate_singleton, String.intercalate_singleton, flatName_of_dotless hname]
    | cons next rest =>
      rw [String.intercalate_cons_cons, String.intercalate_cons_cons, flatName_append,
        flatName_append, flatName_of_dotless hname, ih hrest]
      rfl

end Derivation

end RegisterHeaders
