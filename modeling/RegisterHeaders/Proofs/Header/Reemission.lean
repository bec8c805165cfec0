import RegisterHeaders.Proofs.Header.Marker

/-!
# Peripherals that are generated again

The headers of a peripheral can be made twice with one registry, with other peripherals in between.
The second time its registers may take other markers than the first, since more groups are known by
then, and so not even request the same. But all that they request is defined already, for a register
(`registerRequests_again`), for a peripheral (`declarePeripheral_again`) and after any other calls
(`headersOfCalls_again`).
-/

namespace RegisterHeaders.Header

variable {maxWidth : UInt32} {peripheral : String} {register : Register} {registry : Group.Registry}
  {defined later : List String} {requests : List Declaration}

/-! ## Requests of what is defined -/

theorem firstRequests_eq_nil (h : ∀ d ∈ requests, d.id ∈ defined) :
    firstRequests defined requests = [] := by
  rw [List.eq_nil_iff_forall_not_mem]
  intro d hd
  exact (mem_firstRequests_iff.1 hd).1 (h d (mem_of_mem_firstRequests hd))

theorem definedAfter_eq_self (h : ∀ d ∈ requests, d.id ∈ defined) :
    definedAfter defined requests = defined := by
  rw [definedAfter, firstRequests_eq_nil h, List.map_nil, List.append_nil]

theorem definedAfter_subset (grown : defined ⊆ later) (done : ∀ d ∈ requests, d.id ∈ later) :
    definedAfter defined requests ⊆ later := by
  intro id hid
  rcases mem_definedAfter_iff.1 hid with hid | ⟨d, hd, rfl⟩
  · exact grown hid
  · exact done d hd

/-- If what a register requests is defined later, so is what it requests then: it requests its
placeholder at most if it has done so before, since the groups that kept it from that are still
known. -/
theorem registerRequests_again (grown : defined ⊆ later)
    (done : ∀ d ∈ registerRequests maxWidth peripheral defined register, d.id ∈ later) :
    ∀ d ∈ registerRequests maxWidth peripheral later register, d.id ∈ later := by
  by_cases groups : groupRequests maxWidth peripheral register = []
  · rw [registerRequests, if_neg (not_not_intro groups)] at done ⊢
    by_cases known : ∃ f ∈ register.fields,
        Group.identifier peripheral register.name f.name ∈ later
    · rw [if_pos known]
      exact List.forall_mem_nil _
    · have unknown : ¬ ∃ f ∈ register.fields,
          Group.identifier peripheral register.name f.name ∈ defined := by
        rintro ⟨f, hf, hd⟩
        exact known ⟨f, hf, grown hd⟩
      rw [if_neg unknown] at done
      rwa [if_neg known]
  · rw [registerRequests, if_pos groups] at done ⊢
    exact done

theorem runRequests_again {registers : List (String × Register)} (grown : defined ⊆ later)
    (done : ∀ d ∈ runRequests maxWidth defined registers, d.id ∈ later) :
    ∀ d ∈ runRequests maxWidth later registers, d.id ∈ later := by
  induction registers generalizing defined with
  | nil => exact List.forall_mem_nil _
  | cons r rest ih =>
    obtain ⟨peripheral, register⟩ := r
    rw [runRequests, List.forall_mem_append] at done ⊢
    have first := registerRequests_again grown done.1
    -- the first register leaves what is defined as it is, so the others start from there
    rw [definedAfter_eq_self first]
    exact ⟨first, ih (definedAfter_subset grown done.1) done.2⟩

/-! ## One peripheral -/

theorem registry_eq {a b : Group.Registry} (h : a.defined = b.defined) : a = b := by
  cases a
  cases b
  cases h
  rfl

/-- If everything that is defined after a peripheral is defined later, the peripheral declares
nothing then and leaves the registry as it is. -/
theorem declarePeripheral_again {p : Peripheral} {later : Group.Registry}
    (grown : (declarePeripheral maxWidth registry p).2.defined ⊆ later.defined) :
    (declarePeripheral maxWidth later p).1.declared = [] ∧
      (declarePeripheral maxWidth later p).2 = later := by
  rw [defined_declarePeripheral] at grown
  have done : ∀ d ∈ runRequests maxWidth later.defined (p.registers.map (p.name, ·)),
      d.id ∈ later.defined :=
    runRequests_again (fun id h => grown (mem_definedAfter_iff.2 (Or.inl h)))
      fun d hd => grown (mem_definedAfter_iff.2 (Or.inr ⟨d, hd, rfl⟩))
  rw [declared_declarePeripheral]
  refine ⟨firstRequests_eq_nil done, registry_eq ?_⟩
  rw [defined_declarePeripheral, definedAfter_eq_self done]

/-- The text of an enumerations header that defines no groups and no placeholders. -/
def bareEnumerations (options : Options) (device : String) (p : Peripheral) : String :=
  Text.unlines <| fileLines (enumerationsFile p.name) (enumerationsDetails device p.name)
    options.bannerWidth.toNat (guardName p.name "ENUMS_HPP")
    ["#include \"bitsfield.hpp\"     //for BitsField", ""]

theorem enumerationsText_nil (options : Options) (device : String) (p : Peripheral) :
    enumerationsText options device p [] = .ok (bareEnumerations options device p) :=
  rfl

theorem peripheralHeaders_again {options : Options} {device : String} {p : Peripheral}
    {later : Group.Registry}
    (grown : (declarePeripheral options.narrowFieldMaxWidth registry p).2.defined ⊆ later.defined) :
    ∃ headers, peripheralHeaders options device later p = .ok (headers, later) ∧
      headers.enumerations = bareEnumerations options device p := by
  obtain ⟨declared, same⟩ := declarePeripheral_again grown
  obtain ⟨headers, hh⟩ := exists_peripheralHeaders options device later p
  obtain ⟨⟨enumerations, text, rfl⟩, -⟩ := peripheralHeaders_eq_ok_iff.1 hh
  rw [declared, enumerationsText_nil] at text
  rw [same] at hh
  exact ⟨_, hh, (Except.ok.inj text).symm⟩

/-! ## A sequence of calls -/

theorem defined_prefix_declarePeripheral (maxWidth : UInt32) (registry : Group.Registry)
    (p : Peripheral) :
    registry.defined <+: (declarePeripheral maxWidth registry p).2.defined := by
  rw [defined_declarePeripheral_eq_append]
  exact List.prefix_append _ _

/-- The registry after calls with the given outcomes, when it is `registry` before them. -/
def lastRegistry (registry : Group.Registry) (outcomes : List (Headers × Group.Registry)) :
    Group.Registry :=
  (outcomes.map (·.2)).getLastD registry

theorem lastRegistry_cons (headers : Headers) (after : Group.Registry)
    (outcomes : List (Headers × Group.Registry)) :
    lastRegistry registry ((headers, after) :: outcomes) = lastRegistry after outcomes :=
  List.getLastD_cons

/-- After the headers of a peripheral, any calls leave nothing for it to define. -/
theorem headersOfCalls_again {c : Call} {earlier : Group.Registry} (others : List Call)
    (grown : (declarePeripheral c.options.narrowFieldMaxWidth earlier c.peripheral).2.defined ⊆
      registry.defined) :
    ∃ outcomes headers, headersOfCalls registry others = .ok outcomes ∧
      headersOfCalls registry (others ++ [c]) =
        .ok (outcomes ++ [(headers, lastRegistry registry outcomes)]) ∧
      headers.enumerations = bareEnumerations c.options c.device c.peripheral := by
  induction others generalizing registry with
  | nil =>
    obtain ⟨headers, hh, bare⟩ := peripheralHeaders_again grown
    exact ⟨[], headers, rfl, headersOfCalls_cons_eq_ok hh rfl, bare⟩
  | cons other rest ih =>
    obtain ⟨first, hf⟩ :=
      exists_peripheralHeaders other.options other.device registry other.peripheral
    have kept := defined_prefix_declarePeripheral other.options.narrowFieldMaxWidth registry
      other.peripheral
    obtain ⟨outcomes, headers, ho, ha, bare⟩ := ih (List.Subset.trans grown kept.subset)
    refine ⟨_, headers, headersOfCalls_cons_eq_ok hf ho, ?_, bare⟩
    rw [lastRegistry_cons]
    exact headersOfCalls_cons_eq_ok hf ha

/-- Whatever is defined before it, a call for a peripheral gives headers and keeps all that is
defined. If the peripheral is generated again with the same options, for a device of any name, at
once or after other calls, the registry stays as it is and the enumerations header defines nothing.
-/
theorem reemission_defines_nothing (registry : Group.Registry) (c : Call) (others : List Call)
    (device : String) :
    ∃ first after outcomes headers,
      peripheralHeaders c.options c.device registry c.peripheral = .ok (first, after) ∧
      registry.defined <+: after.defined ∧
      headersOfCalls after others = .ok outcomes ∧
      headersOfCalls registry (c :: (others ++ [{ c with device }])) =
        .ok ((first, after) :: (outcomes ++ [(headers, lastRegistry after outcomes)])) ∧
      headers.enumerations = bareEnumerations c.options device c.peripheral := by
  obtain ⟨first, hf⟩ := exists_peripheralHeaders c.options c.device registry c.peripheral
  obtain ⟨outcomes, headers, ho, ha, bare⟩ :=
    headersOfCalls_again (c := { c with device }) others (List.Subset.refl _)
  exact ⟨first, _, outcomes, headers, hf, defined_prefix_declarePeripheral _ _ _, ho,
    headersOfCalls_cons_eq_ok hf ha, bare⟩

end RegisterHeaders.Header
