/-!
# The registry of groups

A run defines every group once, at its first request; later requests only refer to it. The registry
holds the identifiers defined so far, so the order of the requests decides who defines a group.
-/

namespace RegisterHeaders.Group

/-- The identifiers defined so far in a run, in the order of their definition. -/
structure Registry where
  defined : List String
  nodup : defined.Nodup

/-- What has to be written for a requested group. -/
inductive Materialization where
  /-- Its definition: this is the first request. -/
  | define
  /-- A reference only: it is defined already. -/
  | referenceOnly
  deriving Repr, DecidableEq

namespace Registry

/-- The registry at the start of a run. -/
def empty : Registry :=
  ⟨[], List.nodup_nil⟩

/-- Whether a group is defined. -/
def contains (registry : Registry) (id : String) : Bool :=
  registry.defined.contains id

/-- The number of groups defined. -/
def size (registry : Registry) : Nat :=
  registry.defined.length

theorem nodup_concat {registry : Registry} {id : String} (h : id ∉ registry.defined) :
    (registry.defined ++ [id]).Nodup := by
  have := registry.nodup
  grind [List.nodup_append]

/-- Requests a group, which is defined afterwards. -/
def materialize (registry : Registry) (id : String) : Materialization × Registry :=
  if h : id ∈ registry.defined then (.referenceOnly, registry)
  else (.define, ⟨registry.defined ++ [id], nodup_concat h⟩)

end Registry

end RegisterHeaders.Group
