import RegisterHeaders.Job.Run
import RegisterHeaders.Proofs.FileTree
import RegisterHeaders.Proofs.Header.Run
import RegisterHeaders.Proofs.Text

/-!
# The files of peripherals

The files of a peripheral are called after the stem of its name, with an ending that tells the
registers header from the enumerations header. No file is both (`locate?_enumerationsPath_ne`), and
the files of two peripherals in one directory are the same if and only if the stems are
(`locate?_registersPath_eq_iff`, `locate?_enumerationsPath_eq_iff`). The name itself, of which the
stem is only a part, stands in the text of the enumerations header, so different names give
different texts (`peripheral_eq_of_enumerations_eq`).
-/

namespace RegisterHeaders

/-! ## Slashes in stems -/

namespace Unicode

theorem toLower_ne_slash {c : Char} (h : c ≠ '/') : c.toLower ≠ '/' := by
  by_cases upper : c.val ≥ 'A'.val ∧ c.val ≤ 'Z'.val
  · intro hc
    have code : c.val + ('a'.val - 'A'.val) = '/'.val :=
      (congrArg Char.val (dif_pos upper)).symm.trans (congrArg Char.val hc)
    have low : 65 ≤ c.val.toNat := upper.1
    have high : c.val.toNat ≤ 90 := upper.2
    have shift : ('a'.val - 'A'.val).toNat = 32 := rfl
    have slash : '/'.val.toNat = 47 := rfl
    have sum := congrArg UInt32.toNat code
    rw [UInt32.toNat_add, shift, slash] at sum
    omega
  · have same : c.toLower = c := dif_neg upper
    rwa [same]

theorem eq_of_ofNat_eq_slash {n : Nat} (h : Char.ofNat n = '/') : n = 0x2F := by
  by_cases valid : n.isValidChar
  · have image : Char.ofNat n = Char.ofNatAux n valid := dif_pos valid
    exact congrArg Char.toNat (image.symm.trans h)
  · have image : (Char.ofNat n).toNat = 0 := congrArg Char.toNat (dif_neg valid)
    rw [h] at image
    exact absurd image (by decide)

/-- Every character from U+0080 on is moved to one above the slash. -/
theorem lowerShifts_apply_ne {n : Nat} (large : 0x80 ≤ n) : lowerShifts.apply n ≠ 0x2F := by
  have above : ∀ s ∈ lowerShifts, 0x2F < (s.first : Int) + s.shift := by decide +kernel
  rw [CaseShifts.apply]
  split
  · next s hs =>
    have moved := List.find?_some hs
    have far := above s (List.mem_of_find?_eq_some hs)
    simp only [CaseShift.moves, Bool.and_eq_true, decide_eq_true_eq] at moved
    omega
  · omega

theorem slash_notMem_lower {c : Char} (h : c ≠ '/') : '/' ∉ lower c := by
  rw [lower]
  split
  · simpa using (toLower_ne_slash h).symm
  · next large =>
    split
    · next image hi =>
      have expansions : ∀ e ∈ lowerExpansions, '/' ∉ e.2.map Char.ofNat := by decide
      obtain ⟨before, after, split, -⟩ := List.lookup_eq_some_iff.1 hi
      exact expansions (c.toNat, image) (by simp [split])
    · intro hc
      have := eq_of_ofNat_eq_slash (List.mem_singleton.1 hc).symm
      exact lowerShifts_apply_ne (by omega) this

theorem slash_notMem_lowerAfter {before text : List Char} (h : '/' ∉ text) :
    '/' ∉ lowerAfter before text := by
  induction text generalizing before with
  | nil => exact h
  | cons c text ih =>
    rw [List.mem_cons, not_or] at h
    rw [lowerAfter, List.mem_append, not_or]
    refine ⟨?_, ih h.2⟩
    split
    · decide
    · exact slash_notMem_lower (Ne.symm h.1)

end Unicode

theorem Identifier.slash_notMem_fileStem {name : String} (h : '/' ∉ name.toList) :
    '/' ∉ (fileStem name).toList := by
  rw [fileStem, Unicode.lowercase, String.toList_ofList, String.toList_ofList]
  intro hc
  exact Unicode.slash_notMem_lowerAfter h (List.mem_filter.1 hc).1

/-! ## Names in texts -/

namespace Header

/-- The name of the peripheral stands between other words. -/
theorem words_enumerationsDetails (device peripheral : String) :
    Text.words (enumerationsDetails device peripheral) =
      Text.words "Enumerations related with" ++ Text.words peripheral ++
        Text.words ("peripheral. This header file is auto-generated for " ++ device ++
          " device.") := by
  have first : "Enumerations related with " = "Enumerations related with" ++ " " := by
    decide +kernel
  have second : " peripheral. This header file is auto-generated for " =
      " " ++ "peripheral. This header file is auto-generated for " := by
    decide +kernel
  rw [← Text.words_append_space, ← Text.words_append_space]
  apply congrArg
  apply (congrArg₂ (fun a b => a ++ peripheral ++ b ++ device ++ " device.") first second).trans
  -- the literals have to stay as they are split
  simp only [String.append_assoc, -String.reduceAppend]

/-- The file names of the headers are those for the peripheral. -/
structure Headers.Named (headers : Headers) : Prop where
  registersFile : headers.registersFile = Header.registersFile headers.peripheral
  enumerationsFile : headers.enumerationsFile = Header.enumerationsFile headers.peripheral

variable {options : Options} {device : String} {x y : Headers} {e e' : Emission}

theorem Emission.Renders.named (h : e.Renders options device x) : x.Named := by
  obtain ⟨enumerations, -, rfl⟩ := h
  exact ⟨rfl, rfl⟩

/-- A text of enumerations is that of one name only. -/
theorem peripheral_eq_of_enumerations_eq (hx : e.Renders options device x)
    (hy : e'.Renders options device y)
    (stem : Identifier.fileStem x.peripheral = Identifier.fileStem y.peripheral)
    (solid : Text.IsSolid x.peripheral) (solid' : Text.IsSolid y.peripheral)
    (h : x.enumerations = y.enumerations) : x.peripheral = y.peripheral := by
  obtain ⟨text, ht, rfl⟩ := hx
  obtain ⟨text', ht', rfl⟩ := hy
  obtain ⟨declarations, -, ht⟩ := Steps.bind_eq_ok_iff.1 ht
  obtain ⟨declarations', -, ht'⟩ := Steps.bind_eq_ok_iff.1 ht'
  have file : enumerationsFile e.peripheral.name = enumerationsFile e'.peripheral.name := by
    rw [enumerationsFile, stem, enumerationsFile]
  have same := (Except.ok.inj ht).trans (h.trans (Except.ok.inj ht').symm)
  simp only [fileLines, List.append_assoc, file] at same
  have words := Text.words_eq_of_banner same
  rw [words_enumerationsDetails, words_enumerationsDetails, List.append_cancel_right_eq,
    List.append_cancel_left_eq] at words
  exact Text.words_inj solid solid' words

theorem exists_renders_of_mem {device : Device} {filter : Option String} {run : Generated}
    (h : generate device options filter = .ok run) (hx : x ∈ run.headers) :
    ∃ e : Emission, e.Renders options device.name x := by
  obtain ⟨i, hi⟩ := List.mem_iff_getElem?.1 hx
  obtain ⟨e, -, he⟩ := Steps.forall₂_getElem? (generate_eq_ok_iff.1 h).2.1 hi
  exact ⟨e, he⟩

end Header

/-! ## Places of files -/

namespace Job

variable {directory : String} {tree : FileTree} {location : FileTree.Location}
  {x y : Header.Headers}

/-- The path of the registers header of a peripheral. -/
def registersPath (directory : String) (headers : Header.Headers) : String :=
  Path.join directory headers.registersFile

/-- The path of the enumerations header of a peripheral. -/
def enumerationsPath (directory : String) (headers : Header.Headers) : String :=
  Path.join (Path.join directory enumerationsDirectory) headers.enumerationsFile

/-- The last name of a place is the rest of a path and the ending of the file. -/
theorem exists_last_of_locate? {stem ending : String} (slash : '/' ∉ ending.toList)
    (length : 2 < ending.length)
    (h : tree.locate? (Path.join directory (stem ++ ending)) = some location) :
    ∃ base last, location = base ++ [last ++ ending] := by
  obtain ⟨path, hpath⟩ := Path.exists_join_append directory stem ending
  obtain ⟨base, last, hl⟩ := FileTree.exists_locate?_append tree path
  rw [hpath] at h
  exact ⟨base, last, hl ending location slash length h⟩

theorem append_registers_ne_append_bitsfield (a b : String) :
    a ++ "registers.hpp" ≠ b ++ "bitsfield.hpp" := by
  intro names
  have endings := congrArg String.toList names
  rw [String.toList_append, String.toList_append] at endings
  exact absurd (List.append_inj' endings (by decide +kernel)).2 (by decide +kernel)

/-- No file is a registers header and an enumerations header. -/
theorem locate?_enumerationsPath_ne (hx : x.Named) (hy : y.Named)
    (h : tree.locate? (registersPath directory x) = some location) :
    tree.locate? (enumerationsPath directory y) ≠ some location := by
  intro h'
  rw [registersPath, hx.registersFile, Header.registersFile] at h
  rw [enumerationsPath, hy.enumerationsFile, Header.enumerationsFile] at h'
  obtain ⟨base, last, hl⟩ := exists_last_of_locate? (by decide) (by decide) h
  obtain ⟨base', last', hl'⟩ := exists_last_of_locate? (by decide) (by decide) h'
  have names := (List.append_inj' (hl.symm.trans hl') rfl).2
  exact append_registers_ne_append_bitsfield last last' (List.cons.inj names).1

/-- Files of one directory that have a common ending are the same if and only if their stems are. -/
theorem locate?_join_eq_iff {a b ending : String} (ha : '/' ∉ (a ++ ending).toList)
    (hb : '/' ∉ (b ++ ending).toList) (length : 2 < ending.length)
    (h : ∃ location, tree.locate? (Path.join directory (a ++ ending)) = some location)
    (h' : ∃ location, tree.locate? (Path.join directory (b ++ ending)) = some location) :
    tree.locate? (Path.join directory (a ++ ending)) =
      tree.locate? (Path.join directory (b ++ ending)) ↔ a = b := by
  obtain ⟨path, hpath⟩ := Path.exists_join_eq_append directory
  obtain ⟨base, last, hl⟩ := FileTree.exists_locate?_append tree path
  obtain ⟨location, h⟩ := h
  obtain ⟨location', h'⟩ := h'
  constructor
  · intro same
    have long : ∀ stem : String, 2 < (stem ++ ending).length := by
      intro stem
      rw [String.length_append]
      omega
    rw [h, h', Option.some.injEq] at same
    rw [hpath _ (Path.isAbsolute_eq_false ha)] at h
    rw [hpath _ (Path.isAbsolute_eq_false hb)] at h'
    rw [hl _ _ ha (long a) h, hl _ _ hb (long b) h', List.append_cancel_left_eq,
      List.singleton_inj, String.append_right_inj, String.append_left_inj] at same
    exact same
  · rintro rfl
    rfl

theorem locate?_registersPath_eq_iff (hx : x.Named) (hy : y.Named)
    (slash : '/' ∉ x.peripheral.toList) (slash' : '/' ∉ y.peripheral.toList)
    (h : ∃ location, tree.locate? (registersPath directory x) = some location)
    (h' : ∃ location, tree.locate? (registersPath directory y) = some location) :
    tree.locate? (registersPath directory x) = tree.locate? (registersPath directory y) ↔
      Identifier.fileStem x.peripheral = Identifier.fileStem y.peripheral := by
  simp only [registersPath, hx.registersFile, hy.registersFile, Header.registersFile] at h h' ⊢
  apply locate?_join_eq_iff _ _ (by decide) h h'
  · simpa using Identifier.slash_notMem_fileStem slash
  · simpa using Identifier.slash_notMem_fileStem slash'

theorem locate?_enumerationsPath_eq_iff (hx : x.Named) (hy : y.Named)
    (slash : '/' ∉ x.peripheral.toList) (slash' : '/' ∉ y.peripheral.toList)
    (h : ∃ location, tree.locate? (enumerationsPath directory x) = some location)
    (h' : ∃ location, tree.locate? (enumerationsPath directory y) = some location) :
    tree.locate? (enumerationsPath directory x) = tree.locate? (enumerationsPath directory y) ↔
      Identifier.fileStem x.peripheral = Identifier.fileStem y.peripheral := by
  simp only [enumerationsPath, hx.enumerationsFile, hy.enumerationsFile, Header.enumerationsFile]
    at h h' ⊢
  apply locate?_join_eq_iff _ _ (by decide) h h'
  · simpa using Identifier.slash_notMem_fileStem slash
  · simpa using Identifier.slash_notMem_fileStem slash'

end Job

end RegisterHeaders
