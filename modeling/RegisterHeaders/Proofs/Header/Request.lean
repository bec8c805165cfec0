import Mathlib.Data.List.Nodup
import RegisterHeaders.Header.Declaration

/-!
# Requests

While the headers of a peripheral are made, its fields request their groups and its registers their
placeholders. What is declared depends on nothing but the order of these requests: it is the first
request of every identifier that is not defined before (`firstRequests`). `registerRequests` says
what a register requests, and `runRequests` what the registers of a whole run request; the steps of
the generation are shown to declare exactly the first of them.
-/

namespace RegisterHeaders.Header

/-! ## First requests -/

/-- The requests that declare something when `defined` is defined: the first of every other
identifier. -/
def firstRequests (defined : List String) : List Declaration → List Declaration
  | [] => []
  | d :: rest =>
    if d.id ∈ defined then firstRequests defined rest
    else d :: firstRequests (defined ++ [d.id]) rest

/-- What is defined after some requests. -/
def definedAfter (defined : List String) (requests : List Declaration) : List String :=
  defined ++ (firstRequests defined requests).map Declaration.id

section First

variable {defined : List String} {d : Declaration} {id : String} {first rest : List Declaration}

theorem firstRequests_cons_of_mem (h : d.id ∈ defined) :
    firstRequests defined (d :: rest) = firstRequests defined rest := by
  rw [firstRequests, if_pos h]

theorem firstRequests_cons_of_not_mem (h : d.id ∉ defined) :
    firstRequests defined (d :: rest) = d :: firstRequests (defined ++ [d.id]) rest := by
  rw [firstRequests, if_neg h]

theorem definedAfter_nil : definedAfter defined [] = defined := by
  simp [definedAfter, firstRequests]

theorem definedAfter_cons_of_mem (h : d.id ∈ defined) :
    definedAfter defined (d :: rest) = definedAfter defined rest := by
  rw [definedAfter, definedAfter, firstRequests_cons_of_mem h]

theorem definedAfter_cons_of_not_mem (h : d.id ∉ defined) :
    definedAfter defined (d :: rest) = definedAfter (defined ++ [d.id]) rest := by
  rw [definedAfter, definedAfter, firstRequests_cons_of_not_mem h, List.map_cons,
    List.append_assoc, List.singleton_append]

theorem firstRequests_append :
    firstRequests defined (first ++ rest) =
      firstRequests defined first ++ firstRequests (definedAfter defined first) rest := by
  induction first generalizing defined with
  | nil => rw [definedAfter_nil]; rfl
  | cons d first ih =>
    by_cases h : d.id ∈ defined
    · rw [List.cons_append, firstRequests_cons_of_mem h, firstRequests_cons_of_mem h,
        definedAfter_cons_of_mem h, ih]
    · rw [List.cons_append, firstRequests_cons_of_not_mem h, firstRequests_cons_of_not_mem h,
        definedAfter_cons_of_not_mem h, ih, List.cons_append]

theorem definedAfter_append :
    definedAfter defined (first ++ rest) = definedAfter (definedAfter defined first) rest := by
  rw [definedAfter, firstRequests_append, List.map_append, ← List.append_assoc]
  rfl

/-- A request declares something if its identifier is not defined and it is the first request of
it. -/
theorem mem_firstRequests_iff :
    d ∈ firstRequests defined rest ↔ d.id ∉ defined ∧ rest.find? (·.id = d.id) = some d := by
  induction rest generalizing defined with
  | nil => simp [firstRequests]
  | cons e rest ih =>
    by_cases h : e.id ∈ defined
    · rw [firstRequests_cons_of_mem h, ih]
      refine and_congr_right fun hd => ?_
      have hne : e.id ≠ d.id := fun he => hd (he ▸ h)
      rw [List.find?_cons_of_neg (by simpa using hne)]
    · rw [firstRequests_cons_of_not_mem h, List.mem_cons, ih, List.mem_append, List.mem_singleton,
        not_or]
      by_cases he : e.id = d.id
      · rw [List.find?_cons_of_pos (by simpa using he)]
        constructor
        · rintro (rfl | ⟨⟨-, hd⟩, -⟩)
          · exact ⟨h, rfl⟩
          · exact absurd he.symm hd
        · rintro ⟨-, hd⟩
          exact Or.inl (Option.some.inj hd).symm
      · rw [List.find?_cons_of_neg (by simpa using he)]
        constructor
        · rintro (rfl | ⟨⟨hd, -⟩, hf⟩)
          · exact absurd rfl he
          · exact ⟨hd, hf⟩
        · rintro ⟨hd, hf⟩
          exact Or.inr ⟨⟨hd, Ne.symm he⟩, hf⟩

theorem mem_firstRequests_singleton_iff {e : Declaration} :
    d ∈ firstRequests defined [e] ↔ e = d ∧ d.id ∉ defined := by
  rw [mem_firstRequests_iff, List.find?_singleton, and_comm]
  refine and_congr_left fun _ => ?_
  by_cases h : e.id = d.id
  · simp [h]
  · simp only [h, decide_false, if_false, reduceCtorEq, false_iff]
    exact fun he => h (congrArg Declaration.id he)

theorem mem_of_mem_firstRequests (h : d ∈ firstRequests defined rest) : d ∈ rest :=
  List.mem_of_find?_eq_some (mem_firstRequests_iff.1 h).2

theorem mem_definedAfter_iff :
    id ∈ definedAfter defined rest ↔ id ∈ defined ∨ ∃ d ∈ rest, d.id = id := by
  induction rest generalizing defined with
  | nil => simp [definedAfter_nil]
  | cons d rest ih =>
    rw [List.exists_mem_cons_iff]
    by_cases h : d.id ∈ defined
    · rw [definedAfter_cons_of_mem h, ih]
      constructor
      · rintro (hi | hr)
        · exact Or.inl hi
        · exact Or.inr (Or.inr hr)
      · rintro (hi | rfl | hr)
        · exact Or.inl hi
        · exact Or.inl h
        · exact Or.inr hr
    · rw [definedAfter_cons_of_not_mem h, ih, List.mem_append, List.mem_singleton, or_assoc,
        eq_comm (a := id)]

/-- A request declares something where its identifier is not defined after those before it. -/
theorem mem_firstRequests_iff_append :
    d ∈ firstRequests defined rest ↔
      ∃ before after, rest = before ++ d :: after ∧ d.id ∉ definedAfter defined before := by
  constructor
  · intro h
    obtain ⟨hd, hf⟩ := mem_firstRequests_iff.1 h
    obtain ⟨-, before, after, rfl, hb⟩ := List.find?_eq_some_iff_append.1 hf
    refine ⟨before, after, rfl, fun hi => ?_⟩
    rcases mem_definedAfter_iff.1 hi with hi | ⟨e, he, hi⟩
    · exact hd hi
    · simpa [hi] using hb e he
  · rintro ⟨before, after, rfl, hd⟩
    rw [firstRequests_append, firstRequests_cons_of_not_mem hd]
    exact List.mem_append_right _ List.mem_cons_self

theorem nodup_definedAfter (h : defined.Nodup) : (definedAfter defined rest).Nodup := by
  induction rest generalizing defined with
  | nil => rwa [definedAfter_nil]
  | cons d rest ih =>
    by_cases hd : d.id ∈ defined
    · rw [definedAfter_cons_of_mem hd]
      exact ih h
    · rw [definedAfter_cons_of_not_mem hd]
      refine ih (List.nodup_append.2 ⟨h, List.nodup_singleton _, ?_⟩)
      rintro a ha b hb rfl
      exact hd (List.mem_singleton.1 hb ▸ ha)

end First

/-! ## The requests of a state -/

variable {maxWidth : UInt32} {peripheral : String} {s : State} {register : Register}

theorem request_of_mem {d : Declaration} (h : d.id ∈ s.registry.defined) :
    s.request d = s := by
  simp only [State.request, Group.Registry.materialize, dif_pos h]

theorem defined_request_of_not_mem {d : Declaration} (h : d.id ∉ s.registry.defined) :
    (s.request d).registry.defined = s.registry.defined ++ [d.id] := by
  simp only [State.request, Group.Registry.materialize, dif_neg h]

theorem declared_request_of_not_mem {d : Declaration} (h : d.id ∉ s.registry.defined) :
    (s.request d).declared = s.declared ++ [d] := by
  simp only [State.request, Group.Registry.materialize, dif_neg h]

theorem mem_defined_request_iff {d : Declaration} {id : String} :
    id ∈ (s.request d).registry.defined ↔ id ∈ s.registry.defined ∨ id = d.id := by
  by_cases hd : d.id ∈ s.registry.defined
  · rw [request_of_mem hd, or_iff_left_of_imp]
    rintro rfl
    exact hd
  · rw [defined_request_of_not_mem hd, List.mem_append, List.mem_singleton]

/-- Making requests one after the other defines what the first of them define. -/
theorem defined_foldl_request (requests : List Declaration) :
    (requests.foldl State.request s).registry.defined =
      definedAfter s.registry.defined requests := by
  induction requests generalizing s with
  | nil => exact definedAfter_nil.symm
  | cons d rest ih =>
    rw [List.foldl_cons, ih]
    by_cases h : d.id ∈ s.registry.defined
    · rw [request_of_mem h, definedAfter_cons_of_mem h]
    · rw [defined_request_of_not_mem h, definedAfter_cons_of_not_mem h]

/-- Making requests one after the other declares the first of them. -/
theorem declared_foldl_request (requests : List Declaration) :
    (requests.foldl State.request s).declared =
      s.declared ++ firstRequests s.registry.defined requests := by
  induction requests generalizing s with
  | nil => exact (List.append_nil _).symm
  | cons d rest ih =>
    rw [List.foldl_cons, ih]
    by_cases h : d.id ∈ s.registry.defined
    · rw [request_of_mem h, firstRequests_cons_of_mem h]
    · rw [defined_request_of_not_mem h, declared_request_of_not_mem h,
        firstRequests_cons_of_not_mem h, List.append_assoc, List.singleton_append]

/-! ## What a register requests -/

/-- The groups that the fields of a register request, in document order. -/
def groupRequests (maxWidth : UInt32) (peripheral : String) (register : Register) :
    List Declaration :=
  register.fields.filterMap fun field =>
    (field.groupValues maxWidth).map
      (.group (Group.identifier peripheral register.name field.name))

/-- What a register requests: the groups of its fields. If there are none, and nothing that is
defined has the identifier of one of its fields, it requests a placeholder. -/
def registerRequests (maxWidth : UInt32) (peripheral : String) (defined : List String)
    (register : Register) : List Declaration :=
  if groupRequests maxWidth peripheral register ≠ [] then
    groupRequests maxWidth peripheral register
  else if ∃ field ∈ register.fields,
      Group.identifier peripheral register.name field.name ∈ defined then []
  else [.placeholder (Group.placeholder peripheral register.name)]

theorem groupRequests_eq_nil_iff :
    groupRequests maxWidth peripheral register = [] ↔
      ∀ field ∈ register.fields, field.groupValues maxWidth = none := by
  simp [groupRequests, List.filterMap_eq_nil_iff]

/-- A field with an enumerated alias requests the group of the alias. -/
theorem exists_groupRequest {a : FieldAlias}
    (ha : a ∈ register.fields.map (fieldAlias maxWidth peripheral register))
    (he : a.enumerated = true) :
    ∃ d ∈ groupRequests maxWidth peripheral register, d.id = a.identifier := by
  obtain ⟨field, hf, rfl⟩ := List.mem_map.1 ha
  obtain ⟨values, hv⟩ := Option.isSome_iff_exists.1 he
  refine ⟨.group (Group.identifier peripheral register.name field.name) values, ?_, rfl⟩
  exact List.mem_filterMap.2 ⟨field, hf, by rw [hv]; rfl⟩

theorem exists_groupRequest_iff {id : String} :
    (∃ d ∈ groupRequests maxWidth peripheral register, d.id = id) ↔
      ∃ f ∈ register.fields, (f.groupValues maxWidth).isSome ∧
        Group.identifier peripheral register.name f.name = id := by
  constructor
  · rintro ⟨d, hd, rfl⟩
    obtain ⟨f, hf, hd⟩ := List.mem_filterMap.1 hd
    obtain ⟨values, hv, rfl⟩ := Option.map_eq_some_iff.1 hd
    exact ⟨f, hf, by rw [hv]; rfl, rfl⟩
  · rintro ⟨f, hf, he, rfl⟩
    exact exists_groupRequest (a := fieldAlias maxWidth peripheral register f)
      (List.mem_map_of_mem hf) he

theorem groupRequests_subset {defined : List String} :
    groupRequests maxWidth peripheral register ⊆
      registerRequests maxWidth peripheral defined register := by
  intro d hd
  rw [registerRequests, if_pos (List.ne_nil_of_mem hd)]
  exact hd

theorem foldl_requestGroup :
    register.fields.foldl (requestGroup maxWidth peripheral register) s =
      (groupRequests maxWidth peripheral register).foldl State.request s := by
  rw [groupRequests, List.foldl_filterMap]
  congr 1
  funext s field
  rw [requestGroup]
  cases field.groupValues maxWidth <;> rfl

theorem knownGroup_eq_none_iff {registry : Group.Registry} :
    knownGroup registry (register.fields.map (fieldAlias maxWidth peripheral register)) = none ↔
      groupRequests maxWidth peripheral register = [] ∧ ¬ ∃ field ∈ register.fields,
        Group.identifier peripheral register.name field.name ∈ registry.defined := by
  rw [groupRequests_eq_nil_iff, knownGroup, Option.map_eq_none_iff, List.find?_eq_none]
  simp only [List.forall_mem_map, fieldAlias, Group.Registry.contains, Bool.or_eq_true,
    List.contains_iff_mem, not_or, Option.not_isSome_iff_eq_none, not_exists, not_and]
  exact ⟨fun h => ⟨fun f hf => (h f hf).1, fun f hf => (h f hf).2⟩,
    fun h f hf => ⟨h.1 f hf, h.2 f hf⟩⟩

/-- What is declared after a register is what it requests. -/
theorem declareRegister_snd :
    (declareRegister maxWidth peripheral s register).2 =
      (registerRequests maxWidth peripheral s.registry.defined register).foldl State.request s := by
  simp only [declareRegister, foldl_requestGroup, registerRequests]
  set groups := groupRequests maxWidth peripheral register with hg
  by_cases h : groups = []
  · rw [h, List.foldl_nil, if_neg (not_not_intro rfl)]
    by_cases hf : ∃ field ∈ register.fields,
        Group.identifier peripheral register.name field.name ∈ s.registry.defined
    · rw [if_pos hf, if_pos]
      · rfl
      · rw [Option.isSome_iff_ne_none, ne_eq, knownGroup_eq_none_iff]
        exact fun hn => hn.2 hf
    · rw [if_neg hf, if_neg]
      · rfl
      · rw [Option.not_isSome_iff_eq_none, knownGroup_eq_none_iff]
        exact ⟨hg ▸ h, hf⟩
  · rw [if_pos h, if_pos]
    rw [Option.isSome_iff_ne_none, ne_eq, knownGroup_eq_none_iff]
    exact fun hn => h hn.1

end RegisterHeaders.Header
