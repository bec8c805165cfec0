import RegisterHeaders.Path

/-!
# The last names of paths

A file is found under the last name of its path. Text without slashes at the end of a path belongs
to that name, and what comes before it depends on the rest of the path only
(`exists_steps?_append`). In particular paths with different endings lead to differently named
files.
-/

namespace RegisterHeaders.Path

theorem exists_splitOn_append (text : List Char) : ∃ names last, ∀ ending, '/' ∉ ending →
    (text ++ ending).splitOn '/' = names ++ [last ++ ending] := by
  induction text with
  | nil => exact ⟨[], [], fun ending h => List.splitOn_eq_singleton h⟩
  | cons c text ih =>
    obtain ⟨names, last, ih⟩ := ih
    by_cases hc : c = '/'
    · refine ⟨[] :: names, last, fun ending h => ?_⟩
      rw [List.cons_append, List.splitOn_cons_eq_if_modifyHead, if_pos (by simpa using hc), ih _ h,
        List.cons_append]
    · have step : ∀ ending, '/' ∉ ending → (c :: text ++ ending).splitOn '/' =
          (names ++ [last ++ ending]).modifyHead (c :: ·) := by
        intro ending h
        rw [List.cons_append, List.splitOn_cons_eq_if_modifyHead, if_neg (by simpa using hc),
          ih _ h]
      rcases names with _ | ⟨name, names⟩
      · exact ⟨[], c :: last, fun ending h => step ending h⟩
      · exact ⟨(c :: name) :: names, last, fun ending h => step ending h⟩

/-- A name of more than two characters leads down. -/
theorem Step.ofName_of_length {name : String} (h : 2 < name.length) :
    Step.ofName name = .down name := by
  have one : name ≠ "" := by rintro rfl; exact absurd h (by decide)
  have two : name ≠ "." := by rintro rfl; exact absurd h (by decide)
  have three : name ≠ ".." := by rintro rfl; exact absurd h (by decide)
  simp [Step.ofName, one, two, three]

/-- A long enough ending without slashes belongs to the last name of a path. -/
theorem exists_steps?_append (directory : String) : ∃ steps last, ∀ ending all,
    '/' ∉ ending.toList → 2 < ending.length → steps? (directory ++ ending) = some all →
      all = steps ++ [.down (last ++ ending)] := by
  obtain ⟨names, last, h⟩ := exists_splitOn_append directory.toList
  refine ⟨names.map fun name => Step.ofName (String.ofList name), String.ofList last,
    fun ending all hslash hlength hall => ?_⟩
  rw [steps?] at hall
  split at hall
  · obtain rfl := Option.some.inj hall
    have hname : String.ofList (last ++ ending.toList) = String.ofList last ++ ending := by
      rw [String.ofList_append, String.ofList_toList]
    have hlong : 2 < (String.ofList last ++ ending).length := by
      rw [String.length_append]
      omega
    rw [String.toList_append, h _ hslash, List.map_append, List.map_singleton, hname,
      Step.ofName_of_length hlong]
  · cases hall

/-- What a directory puts before the names in it. -/
theorem exists_join_eq_append (directory : String) : ∃ path, ∀ name, isAbsolute name = false →
    join directory name = path ++ name := by
  by_cases h : (directory = "" || directory.toList.getLast? = some '/') = true
  · refine ⟨directory, fun name hname => ?_⟩
    rw [join, if_neg (by simp [hname]), if_pos h]
  · refine ⟨directory ++ "/", fun name hname => ?_⟩
    rw [join, if_neg (by simp [hname]), if_neg h]

theorem isAbsolute_append {directory ending : String} (h : '/' ∉ ending.toList) :
    isAbsolute (directory ++ ending) = isAbsolute directory := by
  rw [isAbsolute, isAbsolute, String.toList_append, List.head?_append]
  cases directory.toList.head? with
  | some c => rfl
  | none =>
    rw [Option.none_or, decide_eq_decide]
    exact iff_of_false (fun hhead => h (List.mem_of_mem_head? hhead)) nofun

theorem isAbsolute_eq_false {name : String} (h : '/' ∉ name.toList) : isAbsolute name = false := by
  rw [isAbsolute, decide_eq_false_iff_not]
  exact fun hhead => h (List.mem_of_mem_head? hhead)

/-- The path of a file ends as the name of the file does. -/
theorem exists_join_append (directory stem ending : String) :
    ∃ path, join directory (stem ++ ending) = path ++ ending := by
  by_cases h : isAbsolute (stem ++ ending) = true
  · exact ⟨stem, by rw [join, if_pos h]⟩
  · obtain ⟨path, hpath⟩ := exists_join_eq_append directory
    refine ⟨path ++ stem, ?_⟩
    rw [hpath _ (by simpa using h), String.append_assoc]

end RegisterHeaders.Path
