import RegisterHeaders.Proofs.Header.MemberName

/-!
# The marker of a register

The packed alias of a register takes the marker of a group or of a placeholder. `packedMarkerOfLine`
reads it off the lines of the register. Whether a field counts does not depend on how its alias is
declared: one without a group counts if a field of this register or of an earlier one has defined
the group of its identifier. So the marker is that of the first field whose identifier is defined
after all of them (`IsFirstKnown`), and only a register without such a field requests a placeholder.
-/

namespace RegisterHeaders.Header

/-! ## Reading the marker off the lines -/

/-- The marker that a line names if it declares a packed alias: the last argument before those that
the alias passes on. -/
def packedMarkerOfLine (line : String) : Option String :=
  (between? "  using " ", T...> ;" line.toList).map fun text =>
    String.ofList (text.toList.rtakeWhile (· ≠ ' '))

variable {line marker : String} {maxWidth : UInt32} {peripheral : String} {s : State}
  {register : Register}

theorem rtakeWhile_append_blank {text rest : List Char} (h : ' ' ∉ rest) :
    (text ++ ' ' :: rest).rtakeWhile (· ≠ ' ') = rest := by
  have taken : ∀ c ∈ rest.reverse, decide (c ≠ ' ') = true := by
    intro c hc
    rw [decide_eq_true_iff]
    rintro rfl
    exact h (List.mem_reverse.1 hc)
  rw [List.append_cons, List.rtakeWhile, List.reverse_append, List.takeWhile_append_of_pos taken,
    List.reverse_append]
  simp

theorem packedMarkerOfLine_using (text : String) (h : ' ' ∉ marker.toList) :
    packedMarkerOfLine ("  using " ++ (text ++ " " ++ marker) ++ ", T...> ;") = some marker := by
  have inner : (text ++ " " ++ marker).toList = text.toList ++ ' ' :: marker.toList := by simp
  rw [packedMarkerOfLine, between?_eq_some_iff.2 rfl, Option.map_some, inner,
    rtakeWhile_append_blank h, String.ofList_toList]

/-- A line whose third character does not begin `using` declares no packed alias. -/
theorem packedMarkerOfLine_eq_none (h : line.toList[2]? ≠ some 'u') :
    packedMarkerOfLine line = none := by
  rw [packedMarkerOfLine, Option.map_eq_none_iff]
  refine between?_eq_none ?_
  rintro ⟨rest, hr⟩
  exact h (by simp [← hr])

theorem filterMap_packedMarkerOfLine_lines {r : RegisterStruct} (owner : String)
    (hm : ' ' ∉ r.marker.toList) :
    (r.lines owner).filterMap packedMarkerOfLine = [Group.markerName r.marker] := by
  have struct : packedMarkerOfLine
      ("  struct " ++ r.name ++ " : public RegisterBase<" ++ r.arguments ++ ">") = none :=
    packedMarkerOfLine_eq_none (by simp)
  have packed : packedMarkerOfLine ("  using " ++ r.name ++ "Pack = Register<" ++ r.arguments ++
      ", " ++ Group.markerName r.marker ++ ", T...> ;") = some (Group.markerName r.marker) := by
    have line : "  using " ++ r.name ++ "Pack = Register<" ++ r.arguments ++ ", " ++
        Group.markerName r.marker ++ ", T...> ;" = "  using " ++ (r.name ++ "Pack = Register<" ++
          r.arguments ++ "," ++ " " ++ Group.markerName r.marker) ++ ", T...> ;" := by
      simp [← String.toList_inj]
    rw [line]
    exact packedMarkerOfLine_using _ (by simp [Group.markerName, hm])
  have aliases : (r.aliases.map (FieldAlias.line (owner ++ "::" ++ r.name))).filterMap
      packedMarkerOfLine = [] := by
    rw [List.filterMap_eq_nil_iff, List.forall_mem_map]
    intro a _
    refine packedMarkerOfLine_eq_none ?_
    rw [FieldAlias.line]
    split <;> simp
  have others : packedMarkerOfLine "  \x7b" = none ∧ packedMarkerOfLine "  \x7d ;" = none ∧
      packedMarkerOfLine "" = none ∧ packedMarkerOfLine "  template<typename... T>" = none :=
    ⟨packedMarkerOfLine_eq_none (by simp), packedMarkerOfLine_eq_none (by simp),
      packedMarkerOfLine_eq_none (by simp), packedMarkerOfLine_eq_none (by simp)⟩
  simp [RegisterStruct.lines, struct, packed, aliases, others]

theorem blank_notMem_marker (maxWidth : UInt32) (peripheral : String) (s : State)
    (register : Register) :
    ' ' ∉ (declareRegister maxWidth peripheral s register).1.marker.toList := by
  rw [declareRegister_fst]
  exact notMem_packMarker (by decide +kernel) (by decide)

/-! ## The state after the fields -/

/-- The state in which the fields of a register have their aliases and the register has no marker
yet. -/
def afterFields (maxWidth : UInt32) (peripheral : String) (s : State) (register : Register) :
    State :=
  register.fields.foldl (requestGroup maxWidth peripheral register) s

theorem defined_afterFields :
    (afterFields maxWidth peripheral s register).registry.defined =
      definedAfter s.registry.defined (groupRequests maxWidth peripheral register) := by
  rw [afterFields, foldl_requestGroup, defined_foldl_request]

theorem mem_defined_afterFields_iff {id : String} :
    id ∈ (afterFields maxWidth peripheral s register).registry.defined ↔
      id ∈ s.registry.defined ∨ ∃ f ∈ register.fields, (f.groupValues maxWidth).isSome ∧
        Group.identifier peripheral register.name f.name = id := by
  rw [defined_afterFields, mem_definedAfter_iff, exists_groupRequest_iff]

theorem knownGroup_afterFields :
    knownGroup (afterFields maxWidth peripheral s register).registry
        (registerAliases maxWidth peripheral register) =
      (register.fields.find? fun f => Group.identifier peripheral register.name f.name ∈
        (afterFields maxWidth peripheral s register).registry.defined).map fun f =>
          Group.identifier peripheral register.name f.name := by
  rw [defined_afterFields, afterFields, foldl_requestGroup, knownGroup_eq, List.find?_map]
  rfl

/-- If the identifier of no field is defined after the fields, none of them has a group. -/
theorem afterFields_eq_self
    (h : ∀ f ∈ register.fields, Group.identifier peripheral register.name f.name ∉
      (afterFields maxWidth peripheral s register).registry.defined) :
    afterFields maxWidth peripheral s register = s := by
  have groups : groupRequests maxWidth peripheral register = [] := by
    rw [groupRequests_eq_nil_iff]
    intro f hf
    rw [← Option.not_isSome_iff_eq_none]
    exact fun he => h f hf (mem_defined_afterFields_iff.2 (Or.inr ⟨f, hf, he, rfl⟩))
  rw [afterFields, foldl_requestGroup, groups, List.foldl_nil]

/-! ## The marker -/

/-- A field is the first of its register whose identifier is among the defined ones. -/
def IsFirstKnown (defined : List String) (peripheral : String) (register : Register)
    (field : Field) : Prop :=
  ∃ before after, register.fields = before ++ field :: after ∧
    Group.identifier peripheral register.name field.name ∈ defined ∧
    ∀ f ∈ before, Group.identifier peripheral register.name f.name ∉ defined

/-- A register takes the marker of its first known field and defines nothing more, or it has no such
field and requests its placeholder. -/
theorem declareRegister_cases (maxWidth : UInt32) (peripheral : String) (s : State)
    (register : Register) :
    let aliased := afterFields maxWidth peripheral s register
    let struct := (declareRegister maxWidth peripheral s register).1
    let after := (declareRegister maxWidth peripheral s register).2
    (∃ field, IsFirstKnown aliased.registry.defined peripheral register field ∧
      struct.marker = Group.identifier peripheral register.name field.name ∧ after = aliased) ∨
    ((∀ f ∈ register.fields,
        Group.identifier peripheral register.name f.name ∉ aliased.registry.defined) ∧
      struct.marker = Group.placeholder peripheral register.name ∧
      after = s.request (.placeholder (Group.placeholder peripheral register.name))) := by
  intro aliased struct after
  have hmarker : struct.marker =
      (knownGroup aliased.registry (registerAliases maxWidth peripheral register)).getD
        (Group.placeholder peripheral register.name) := rfl
  have hafter : after =
      if (knownGroup aliased.registry (registerAliases maxWidth peripheral register)).isSome
      then aliased
      else aliased.request (.placeholder (Group.placeholder peripheral register.name)) := rfl
  rw [hmarker, hafter, knownGroup_afterFields]
  cases hf : register.fields.find? fun f =>
      Group.identifier peripheral register.name f.name ∈ aliased.registry.defined with
  | none =>
    have unknown : ∀ f ∈ register.fields,
        Group.identifier peripheral register.name f.name ∉ aliased.registry.defined := by
      simpa using hf
    have fields : aliased = s := afterFields_eq_self unknown
    refine Or.inr ⟨unknown, rfl, ?_⟩
    rw [← fields]
    rfl
  | some field =>
    obtain ⟨known, before, rest, split, unknown⟩ := List.find?_eq_some_iff_append.1 hf
    refine Or.inl ⟨field, ⟨before, rest, split, of_decide_eq_true known, ?_⟩, rfl, rfl⟩
    simpa using unknown

/-- A register adds declarations that have lines. -/
theorem exists_declared_declareRegister (maxWidth : UInt32) (peripheral : String) (s : State)
    (register : Register) :
    ∃ new lines, (declareRegister maxWidth peripheral s register).2.declared = s.declared ++ new ∧
      new.mapM Declaration.lines = .ok lines := by
  have declared : (declareRegister maxWidth peripheral s register).2.declared = s.declared ++
      firstRequests s.registry.defined
        (registerRequests maxWidth peripheral s.registry.defined register) := by
    rw [declareRegister_snd, declared_foldl_request]
  obtain ⟨lines, hl⟩ := Steps.exists_mapM_eq_ok fun d hd =>
    lines_of_registerRequest (mem_of_mem_firstRequests hd)
  exact ⟨_, lines, declared, hl⟩

/-- The markers that a request for a placeholder adds to what is declared. -/
theorem definedMarkers_request_placeholder {id : String} {new : List Declaration}
    (h : (s.request (.placeholder id)).declared = s.declared ++ new) :
    definedMarkers new = if id ∈ s.registry.defined then [] else [Group.markerName id] := by
  by_cases hid : id ∈ s.registry.defined
  · rw [request_of_mem (d := .placeholder id) hid] at h
    obtain rfl : new = [] := List.self_eq_append_right.1 h
    rw [if_pos hid]
    exact definedMarkers_eq rfl
  · rw [declared_request_of_not_mem (d := .placeholder id) hid] at h
    obtain rfl := List.append_cancel_left h
    rw [if_neg hid]
    exact definedMarkers_eq rfl

/-- Whatever has been defined before a register, its fields add the identifiers of their groups. The
marker in its packed alias is that of the first field whose identifier is defined then, and nothing
more is added; if there is none, it is that of a placeholder, which is defined afterwards, and is
declared if it has not been before. -/
theorem marker_of_first_known (maxWidth : UInt32) (peripheral : String) (s : State)
    (register : Register) :
    let aliased := (afterFields maxWidth peripheral s register).registry.defined
    let struct := (declareRegister maxWidth peripheral s register).1
    let after := (declareRegister maxWidth peripheral s register).2
    (∀ id, id ∈ aliased ↔ id ∈ s.registry.defined ∨
      ∃ f ∈ register.fields, (f.groupValues maxWidth).isSome ∧
        Group.identifier peripheral register.name f.name = id) ∧
    ∃ marker new lines,
      (∀ owner, (struct.lines owner).filterMap packedMarkerOfLine = [Group.markerName marker]) ∧
      after.declared = s.declared ++ new ∧ new.mapM Declaration.lines = .ok lines ∧
      ((∃ field, IsFirstKnown aliased peripheral register field ∧
          marker = Group.identifier peripheral register.name field.name ∧
          after.registry.defined = aliased) ∨
        ((∀ f ∈ register.fields, Group.identifier peripheral register.name f.name ∉ aliased) ∧
          marker = Group.placeholder peripheral register.name ∧
          (∀ id, id ∈ after.registry.defined ↔ id ∈ aliased ∨ id = marker) ∧
          definedMarkers new =
            if marker ∈ s.registry.defined then [] else [Group.markerName marker])) := by
  intro aliased struct after
  obtain ⟨new, lines, declared, hl⟩ :=
    exists_declared_declareRegister maxWidth peripheral s register
  refine ⟨fun id => mem_defined_afterFields_iff, struct.marker, new, lines, fun owner =>
    filterMap_packedMarkerOfLine_lines owner (blank_notMem_marker maxWidth peripheral s register),
    declared, hl, ?_⟩
  rcases declareRegister_cases maxWidth peripheral s register with
    ⟨field, first, marker, same⟩ | ⟨unknown, marker, requested⟩
  · exact Or.inl ⟨field, first, marker, congrArg (·.registry.defined) same⟩
  · have fields : aliased = s.registry.defined :=
      congrArg (·.registry.defined) (afterFields_eq_self unknown)
    have later : after = s.request (.placeholder (Group.placeholder peripheral register.name)) :=
      requested
    refine Or.inr ⟨unknown, marker, fun id => ?_, ?_⟩
    · rw [marker, later, fields]
      exact mem_defined_request_iff
    · rw [marker]
      exact definedMarkers_request_placeholder (later ▸ declared)

end RegisterHeaders.Header
