import Mathlib.Data.List.TakeWhile
import RegisterHeaders.Proofs.Header.Selection
import RegisterHeaders.Proofs.Text.ClosedComment

/-!
# The comments at the top of the headers

The headers of a peripheral begin with banners, which are made of the description of the peripheral
and of the names of the peripheral and the device. Nothing is escaped: the banner of a registers
header is one comment if and only if neither the description nor the name of the device closes a
comment, and that of an enumerations header if and only if no name does (`banners_closed_iff`).
-/

namespace RegisterHeaders.Header

open Text

variable {options : Options} {device : String} {p : Peripheral}

/-! ## What banners tell -/

/-- Leaving out the periods and blanks at the end of a text leaves out no end of a comment. -/
theorem isUnterminated_sentence_iff {text : String} :
    IsUnterminated (String.ofList
      (text.toList.reverse.dropWhile fun c => c = '.' || c = ' ').reverse) ↔
      IsUnterminated text := by
  let ending (c : Char) : Bool := c = '.' || c = ' '
  have parts : text = String.ofList (text.toList.reverse.dropWhile ending).reverse ++
      String.ofList (text.toList.reverse.takeWhile ending).reverse := by
    rw [← String.ofList_append, ← List.reverse_append, List.takeWhile_append_dropWhile,
      List.reverse_reverse, String.ofList_toList]
  have noSlash : '/' ∉ (String.ofList (text.toList.reverse.takeWhile ending).reverse).toList := by
    rw [String.toList_ofList, List.mem_reverse]
    intro slash
    have ends : ending '/' = true := List.mem_takeWhile_imp slash
    exact absurd ends (by decide)
  conv_rhs => rw [parts]
  exact (isUnterminated_append_of_notMem noSlash).symm

/-- The sentence in both banners that tells the device. -/
def originSentence (device : String) : String :=
  "This header file is auto-generated for " ++ device ++ " device."

theorem isUnterminated_originSentence_iff :
    IsUnterminated (originSentence device) ↔ IsUnterminated device := by
  have blank : "This header file is auto-generated for ".toList.getLast? = some ' ' := by simp
  have before : '/' ∉ "This header file is auto-generated for ".toList := by decide
  have after : '/' ∉ " device.".toList := by decide
  exact (isUnterminated_append_of_notMem after).trans
    (isUnterminated_label_append blank (isUnterminated_of_notMem before) device)

theorem isUnterminated_registersDetails_iff {description : Option String} :
    IsUnterminated (registersDetails device description) ↔
      (∀ text ∈ description, IsUnterminated text) ∧ IsUnterminated device := by
  cases description with
  | none =>
    have details : registersDetails device none = originSentence device := rfl
    rw [details, isUnterminated_originSentence_iff]
    simp
  | some text =>
    have details : registersDetails device (some text) = String.ofList
        (text.toList.reverse.dropWhile fun c => c = '.' || c = ' ').reverse ++ ". " ++
          originSentence device := rfl
    have separator : '/' ∉ ". ".toList := by decide
    rw [details, isUnterminated_append_of_getLast (by simp), isUnterminated_originSentence_iff,
      isUnterminated_append_of_notMem separator, isUnterminated_sentence_iff]
    simp

theorem isUnterminated_enumerationsDetails_iff {peripheral : String} :
    IsUnterminated (enumerationsDetails device peripheral) ↔
      IsUnterminated peripheral ∧ IsUnterminated device := by
  let label := "Enumerations related with "
  let middle := " peripheral. This header file is auto-generated for "
  have blank : label.toList.getLast? = some ' ' := by simp [label]
  have before : '/' ∉ label.toList := by decide
  have between : '/' ∉ middle.toList := by decide
  have after : '/' ∉ " device.".toList := by decide
  have last : (label ++ peripheral ++ middle).toList.getLast? ≠ some '*' := by simp [middle]
  calc IsUnterminated (label ++ peripheral ++ middle ++ device ++ " device.")
      ↔ IsUnterminated (label ++ peripheral ++ middle ++ device) :=
        isUnterminated_append_of_notMem after
    _ ↔ IsUnterminated (label ++ peripheral ++ middle) ∧ IsUnterminated device :=
        isUnterminated_append_of_getLast last
    _ ↔ IsUnterminated peripheral ∧ IsUnterminated device := by
        rw [isUnterminated_append_of_notMem between,
          isUnterminated_label_append blank (isUnterminated_of_notMem before)]

/-! ## The headers of a run -/

theorem exists_registersText_eq (options : Options) (device : String) (p : Peripheral)
    (structs : List RegisterStruct) :
    ∃ rest, registersText options device p structs =
      banner (registersFile p.name) (registersDetails device p.description)
        options.bannerWidth.toNat ++ rest := by
  simp only [registersText, fileLines, List.append_assoc, unlines_append]
  exact ⟨_, rfl⟩

theorem exists_enumerationsText_eq {declared : List Declaration} {text : String}
    (h : enumerationsText options device p declared = .ok text) :
    ∃ rest, text = banner (enumerationsFile p.name) (enumerationsDetails device p.name)
      options.bannerWidth.toNat ++ rest := by
  obtain ⟨lines, -, h⟩ := Steps.bind_eq_ok_iff.1 h
  obtain rfl := Except.ok.inj h
  simp only [fileLines, List.append_assoc, unlines_append]
  exact ⟨_, rfl⟩

/-- A text begins with the banner of a file. If the name of the file is plain, the banner is one
comment if and only if `closed` holds. -/
structure BeginsWithBanner (options : Options) (file details : String) (closed : Prop)
    (text : String) : Prop where
  begins : ∃ rest, text = banner file details options.bannerWidth.toNat ++ rest
  isClosedComment_iff : IsPlainName file →
    (IsClosedComment (banner file details options.bannerWidth.toNat) ↔ closed)

/-- The headers of a peripheral begin with the banners of their files. What closes a comment in the
description or in a name closes that of the banner early. -/
structure BeginWithBanners (options : Options) (device : String) (p : Peripheral)
    (headers : Headers) : Prop where
  registersFile_eq : headers.registersFile = registersFile p.name
  enumerationsFile_eq : headers.enumerationsFile = enumerationsFile p.name
  registers : BeginsWithBanner options (registersFile p.name)
    (registersDetails device p.description)
    ((∀ text ∈ p.description, IsUnterminated text) ∧ IsUnterminated device) headers.registers
  enumerations : BeginsWithBanner options (enumerationsFile p.name)
    (enumerationsDetails device p.name) (IsUnterminated p.name ∧ IsUnterminated device)
    headers.enumerations

theorem Emission.Renders.beginWithBanners {e : Emission} {headers : Headers}
    (h : e.Renders options device headers) :
    BeginWithBanners options device e.peripheral headers := by
  obtain ⟨enumerations, text, rfl⟩ := h
  refine ⟨rfl, rfl, ⟨?_, fun plain => ?_⟩, ⟨?_, fun plain => ?_⟩⟩
  · dsimp only
    exact exists_registersText_eq options device e.peripheral e.declarations.structs
  · rw [isClosedComment_banner_iff plain, isUnterminated_registersDetails_iff]
  · exact exists_enumerationsText_eq text
  · rw [isClosedComment_banner_iff plain, isUnterminated_enumerationsDetails_iff]

/-- The banner of a file with a plain name is one closed comment if and only if its description does
not close a comment, at whatever width it is wrapped. So the comment at the top of a registers
header of a run holds all of its banner if and only if the description of the peripheral and the
name of the device do not close a comment, and in an enumerations header if and only if the names
of the peripheral and the device do not. -/
theorem banners_closed_iff {fileName : String} (h : IsPlainName fileName) (description : String)
    (width : Nat) :
    (IsClosedComment (banner fileName description width) ↔ IsUnterminated description) ∧
    ∀ device options filter run, generate device options filter = .ok run →
      List.Forall₂ (BeginWithBanners options device.name) (device.selected filter) run.headers := by
  refine ⟨isClosedComment_banner_iff h, fun device options filter run hrun => ?_⟩
  have banners := (generate_eq_ok_iff.1 hrun).2.1.imp fun _ _ => Emission.Renders.beginWithBanners
  have made : (emissionsOf device options filter).map (·.peripheral) = device.selected filter :=
    map_peripheral_emissions _
  rw [← made]
  exact List.forall₂_map_left_iff.2 banners

/-- A timer whose description closes a comment. -/
def remarkTimer : Peripheral :=
  { timer "TIM1" 0 1 with description := some "Timer */ counter" }

/-- A device with that timer only. -/
def remarkDevice : Device where
  name := "D"
  description := none
  access := .readWrite
  width := 32
  peripherals := [remarkTimer]

/-- The banner of a registers header that the description of the timer closes early, and that of the
enumerations header, which does not have the description. -/
theorem remarkDevice_banners :
    IsClosedComment (banner "a.hpp" "Timer * / counter" 62) ∧
    ∃ run headers, generate remarkDevice {} none = .ok run ∧ run.headers = [headers] ∧
      (∃ rest, headers.registers = banner (registersFile "TIM1")
        (registersDetails "D" (some "Timer */ counter")) 62 ++ rest) ∧
      ¬ IsClosedComment (banner (registersFile "TIM1")
        (registersDetails "D" (some "Timer */ counter")) 62) ∧
      IsClosedComment (banner (enumerationsFile "TIM1") (enumerationsDetails "D" "TIM1") 62) := by
  have name : IsPlainName "a.hpp" := by decide
  obtain ⟨lone, runs⟩ := banners_closed_iff name "Timer * / counter" 62
  have plain : ({} : Options).strictEnumWidths = false := rfl
  obtain ⟨run, hrun⟩ := exists_generate plain remarkDevice none
  have selected : remarkDevice.selected none = [remarkTimer] := rfl
  have each := runs remarkDevice {} none run hrun
  rw [selected, List.forall₂_cons_left_iff] at each
  obtain ⟨headers, others, timer, rest, hheaders⟩ := each
  obtain rfl := List.forall₂_nil_left_iff.1 rest
  have registersName : IsPlainName (registersFile "TIM1") := by decide +kernel
  have enumerationsName : IsPlainName (enumerationsFile "TIM1") := by decide +kernel
  refine ⟨lone.2 (by decide), run, headers, hrun, hheaders, timer.registers.begins,
    fun closed => ?_, ?_⟩
  · have remark := ((timer.registers.isClosedComment_iff registersName).1 closed).1
    exact remark "Timer */ counter" rfl "Timer " " counter" rfl
  · exact (timer.enumerations.isClosedComment_iff enumerationsName).2 ⟨by decide, by decide⟩

/-- The comment at the top of the file ends within its description. -/
theorem banner_not_closed :
    IsPlainName "a.hpp" ∧ ¬ IsClosedComment (banner "a.hpp" "Timer */ counter" 62) := by
  have plain : IsPlainName "a.hpp" := by decide
  refine ⟨plain, fun closed => ?_⟩
  exact (isClosedComment_banner_iff plain).1 closed "Timer " " counter" rfl

end RegisterHeaders.Header
