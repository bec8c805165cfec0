import RegisterHeaders.Proofs.Text.Wrapping

/-!
# Banners as comments

A banner is a block comment of the generated language, so what its description says must not close
it early. A text closes a comment where an asterisk is followed by a slash (`IsUnterminated` says
that it does so nowhere). Neither character is white space, and all that a banner puts next to the
words of the description is a blank, a line break, or a label that ends with a blank. So a banner
closes its comment early if and only if a word of the description does
(`isClosedComment_banner_iff`).
-/

namespace RegisterHeaders.Text

open Unicode

/-! ## Ends of comments -/

/-- The text does not close a comment. -/
def IsUnterminated (text : String) : Prop :=
  ∀ before after, text ≠ before ++ "*/" ++ after

/-- Two characters that do not close a comment. -/
def Apart (a b : Char) : Prop :=
  ¬ (a = '*' ∧ b = '/')

instance : DecidableRel Apart :=
  fun a b => inferInstanceAs (Decidable ¬ (a = '*' ∧ b = '/'))

theorem isUnterminated_iff {text : String} : IsUnterminated text ↔ text.toList.IsChain Apart := by
  rw [List.isChain_iff_forall_rel_of_append_cons_cons]
  constructor
  · rintro h a b before after e ⟨rfl, rfl⟩
    refine h (String.ofList before) (String.ofList after) ?_
    rw [← String.toList_inj, e]
    simp
  · intro h before after e
    have chars : text.toList = before.toList ++ '*' :: '/' :: after.toList := by
      rw [e]
      simp
    exact h chars ⟨rfl, rfl⟩

instance : DecidablePred IsUnterminated :=
  fun _ => decidable_of_iff _ isUnterminated_iff.symm

/-- A text in two parts closes a comment in one of them, or with one character of each. -/
theorem isUnterminated_append {a b : String}
    (h : ∀ x ∈ a.toList.getLast?, ∀ y ∈ b.toList.head?, Apart x y) :
    IsUnterminated (a ++ b) ↔ IsUnterminated a ∧ IsUnterminated b := by
  simp only [isUnterminated_iff, String.toList_append, List.isChain_append, and_iff_left h]

theorem isUnterminated_append_of_getLast {a b : String} (h : a.toList.getLast? ≠ some '*') :
    IsUnterminated (a ++ b) ↔ IsUnterminated a ∧ IsUnterminated b :=
  isUnterminated_append fun _ hx _ _ ⟨star, _⟩ => h (star ▸ hx)

theorem isUnterminated_append_of_head {a b : String} (h : b.toList.head? ≠ some '/') :
    IsUnterminated (a ++ b) ↔ IsUnterminated a ∧ IsUnterminated b :=
  isUnterminated_append fun _ _ _ hy ⟨_, slash⟩ => h (slash ▸ hy)

theorem isUnterminated_of_notMem {text : String} (h : '/' ∉ text.toList) : IsUnterminated text := by
  rintro before after rfl
  simp at h

/-- What has no slash closes no comment. -/
theorem isUnterminated_append_of_notMem {a b : String} (h : '/' ∉ b.toList) :
    IsUnterminated (a ++ b) ↔ IsUnterminated a := by
  rw [isUnterminated_append_of_head fun head => h (List.mem_of_mem_head? head),
    and_iff_left (isUnterminated_of_notMem h)]

/-- Lines do not close a comment together if none of them does. -/
theorem isUnterminated_unlines_append {lines : List String} {rest : String} :
    IsUnterminated (unlines lines ++ rest) ↔
      (∀ line ∈ lines, IsUnterminated line) ∧ IsUnterminated rest := by
  induction lines with
  | nil => simp [unlines]
  | cons line lines ih =>
    have lineBreak : IsUnterminated "\n" := by decide
    rw [unlines_cons, String.append_assoc, String.append_assoc,
      isUnterminated_append_of_head (by simp), isUnterminated_append_of_getLast (by decide), ih,
      List.forall_mem_cons, and_iff_right lineBreak, and_assoc]

/-! ## Wrapped texts -/

theorem apart_of_isWhiteSpace {c : Char} (h : isWhiteSpace c = true) (d : Char) :
    Apart c d ∧ Apart d c := by
  constructor
  · rintro ⟨rfl, -⟩
    exact absurd h (by decide)
  · rintro ⟨-, rfl⟩
    exact absurd h (by decide)

/-- A text closes a comment only within a word. -/
theorem isChain_apart_iff_of_areWords {text : List Char} {ws : List String}
    (h : AreWords text ws) : text.IsChain Apart ↔ ∀ word ∈ ws, IsUnterminated word := by
  induction h with
  | nil => simp
  | space h _ ih =>
    rw [List.isChain_cons, ih, and_iff_right fun d _ => (apart_of_isWhiteSpace h d).1]
  | word nonempty solid ends _ ih =>
    rw [List.isChain_append, ih, List.forall_mem_cons, isUnterminated_iff, String.toList_ofList,
      and_iff_left fun c _ d hd => (apart_of_isWhiteSpace (ends d hd) c).2]

theorem isUnterminated_iff_words {text : String} :
    IsUnterminated text ↔ ∀ word ∈ words text, IsUnterminated word := by
  rw [isUnterminated_iff]
  exact isChain_apart_iff_of_areWords (words_eq_iff_areWords.1 rfl)

/-- The lines of a text close a comment if and only if the text does, as they have the same
words. -/
theorem isUnterminated_wrap_iff {width : Nat} {text : String} :
    (∀ line ∈ wrap width text, IsUnterminated line) ↔ IsUnterminated text := by
  rw [isUnterminated_iff_words, ← flatMap_words_wrap width, List.forall_mem_flatMap]
  exact forall₂_congr fun line _ => isUnterminated_iff_words

/-! ## Banners -/

/-- A single line that begins with an asterisk. -/
def IsStarred (line : String) : Prop :=
  '\n' ∉ line.toList ∧ ∃ rest, line = "*" ++ rest

/-- A text that is one block comment: its last line closes it and no other does, and all lines
between the first and the last begin with an asterisk. -/
structure IsClosedComment (text : String) : Prop where
  opens : ∃ rest, text = "/*" ++ rest
  ends : ∃ body, text = body ++ "*/\n"
  only : ∀ before after, text = before ++ "*/" ++ after → after = "\n"
  starred : ∃ first middle last, text = unlines (first :: (middle ++ [last])) ∧
    '\n' ∉ first.toList ∧ '\n' ∉ last.toList ∧ ∀ line ∈ middle, IsStarred line

/-- The end of a text closes a comment for the first time if and only if no part before it does. -/
theorem forall_closes_iff {body : String} :
    (∀ before after, body ++ "/\n" = before ++ "*/" ++ after → after = "\n") ↔
      IsUnterminated body := by
  constructor
  · rintro h before after rfl
    have last := h before (after ++ "/\n") (by simp only [String.append_assoc])
    have length := congrArg String.length last
    rw [String.length_append] at length
    have : "/\n".length = 2 := rfl
    have : "\n".length = 1 := rfl
    omega
  · intro h before after e
    rw [isUnterminated_iff] at h
    have chars : body.toList ++ ['/', '\n'] = before.toList ++ '*' :: '/' :: after.toList := by
      simpa using congrArg String.toList e
    rw [← String.toList_inj]
    rcases List.append_eq_append_iff.1 chars with ⟨more, -, e⟩ | ⟨more, hbody, e⟩
    · -- the last two characters of the text do not close a comment
      rcases more with _ | ⟨_, _ | ⟨_, more⟩⟩ <;> simp at e
    · rcases more with _ | ⟨_, _ | ⟨_, more⟩⟩
      · simp at e
      · simpa using (List.cons.inj e).2
      · simp only [List.cons_append, List.cons.injEq] at e
        obtain ⟨rfl, rfl, -⟩ := e
        rw [hbody, List.isChain_append_cons_cons] at h
        exact absurd ⟨rfl, rfl⟩ h.2.1

/-- A text that ends with a blank closes no comment with what follows it. -/
theorem isUnterminated_label_append {label : String} (blank : label.toList.getLast? = some ' ')
    (h : IsUnterminated label) (line : String) :
    IsUnterminated (label ++ line) ↔ IsUnterminated line := by
  rw [isUnterminated_append_of_getLast (by simp [blank]), and_iff_right h]

theorem isUnterminated_detailLines_iff {lines : List String} :
    (∀ line ∈ detailLines lines, IsUnterminated line) ↔ ∀ line ∈ lines, IsUnterminated line := by
  cases lines with
  | nil => rfl
  | cons line lines =>
    simp only [detailLines, List.forall_mem_cons, List.forall_mem_map]
    rw [isUnterminated_label_append (by decide) (by decide)]
    exact and_congr_right fun _ => forall₂_congr fun l _ =>
      isUnterminated_label_append (by decide) (by decide) l

theorem exists_label_of_mem_detailLines {lines : List String} {line : String}
    (h : line ∈ detailLines lines) :
    ∃ label ∈ ["* Details       : ", "*                 "], ∃ l ∈ lines, line = label ++ l := by
  cases lines with
  | nil => cases h
  | cons first rest =>
    rcases List.mem_cons.1 h with rfl | h
    · exact ⟨_, List.mem_cons_self, first, List.mem_cons_self, rfl⟩
    · obtain ⟨l, hl, rfl⟩ := List.mem_map.1 h
      exact ⟨_, List.mem_cons_of_mem _ List.mem_cons_self, l, List.mem_cons_of_mem _ hl, rfl⟩

/-- The lines of a banner between the first and the last. -/
def innerLines (fileName description : String) (width : Nat) : List String :=
  ["* Filename      : " ++ fileName, "*"] ++ detailLines (wrap width description) ++ ["*", "*"]

variable {fileName description : String} {width : Nat}

theorem bannerLines_eq : bannerLines fileName description width =
    ("/" ++ rule) :: (innerLines fileName description width ++ [rule ++ "/"]) := by
  simp [bannerLines, innerLines]

theorem banner_eq_append : banner fileName description width =
    unlines (("/" ++ rule) :: innerLines fileName description width) ++ rule ++ "/\n" := by
  have last : unlines [rule ++ "/"] = rule ++ "/\n" := by decide +kernel
  rw [banner, bannerLines_eq, ← List.cons_append, unlines_append, last, String.append_assoc]

theorem isUnterminated_innerLines_iff :
    (∀ line ∈ innerLines fileName description width, IsUnterminated line) ↔
      IsUnterminated fileName ∧ IsUnterminated description := by
  have star : IsUnterminated "*" := by decide
  rw [innerLines, List.forall_mem_append, List.forall_mem_append, List.forall_mem_cons,
    isUnterminated_label_append (by decide) (by decide), isUnterminated_detailLines_iff,
    isUnterminated_wrap_iff]
  simp [star]

theorem IsStarred.append {label line : String} (h : IsStarred label) (hl : '\n' ∉ line.toList) :
    IsStarred (label ++ line) := by
  obtain ⟨unbroken, tail, rfl⟩ := h
  exact ⟨by simp_all, tail ++ line, String.append_assoc⟩

theorem isStarred_of_mem_innerLines (h : '\n' ∉ fileName.toList) :
    ∀ line ∈ innerLines fileName description width, IsStarred line := by
  have star : IsStarred "*" := ⟨by decide, "", rfl⟩
  have label : ∀ label ∈ ["* Details       : ", "*                 "], IsStarred label := by
    simp only [List.forall_mem_cons]
    exact ⟨⟨by decide, " Details       : ", rfl⟩, ⟨by decide, "                 ", rfl⟩, by simp⟩
  have details : ∀ line ∈ detailLines (wrap width description), IsStarred line := by
    intro line hline
    obtain ⟨l, hl, text, ht, rfl⟩ := exists_label_of_mem_detailLines hline
    exact (label l hl).append (notMem_newline_of_mem_wrap text ht)
  have file : IsStarred ("* Filename      : " ++ fileName) :=
    IsStarred.append ⟨by decide, " Filename      : ", rfl⟩ h
  simp only [innerLines, List.forall_mem_append, List.forall_mem_cons]
  exact ⟨⟨⟨file, star, by simp⟩, details⟩, star, star, by simp⟩

/-- A file name that has no line break and does not close a comment. -/
def IsPlainName (fileName : String) : Prop :=
  '\n' ∉ fileName.toList ∧ IsUnterminated fileName

instance : DecidablePred IsPlainName :=
  fun fileName => inferInstanceAs (Decidable ('\n' ∉ fileName.toList ∧ IsUnterminated fileName))

/-- The banner of a file with a plain name is one comment if and only if the description does not
close a comment. -/
theorem isClosedComment_banner_iff (h : IsPlainName fileName) :
    IsClosedComment (banner fileName description width) ↔ IsUnterminated description := by
  have opening : IsUnterminated ("/" ++ rule) := by decide +kernel
  have closing : IsUnterminated rule := by decide +kernel
  -- the slash at the end is the first to close the comment
  have only : (∀ before after, banner fileName description width = before ++ "*/" ++ after →
      after = "\n") ↔ IsUnterminated description := by
    rw [banner_eq_append, forall_closes_iff, isUnterminated_unlines_append, List.forall_mem_cons,
      isUnterminated_innerLines_iff]
    simp only [opening, closing, h.2, true_and, and_true]
  refine ⟨fun comment => only.1 comment.only, fun hd => ⟨?_, ?_, only.2 hd, ?_⟩⟩
  · obtain ⟨rest, begins⟩ : ∃ rest, "/" ++ rule = "/*" ++ rest :=
      ⟨String.ofList (List.replicate 78 '*'), by decide +kernel⟩
    rw [banner_eq_append, unlines_cons, begins]
    simp only [String.append_assoc]
    exact ⟨_, rfl⟩
  · obtain ⟨body, ends⟩ : ∃ body, rule ++ "/\n" = body ++ "*/\n" :=
      ⟨String.ofList (List.replicate 78 '*'), by decide +kernel⟩
    rw [banner_eq_append, String.append_assoc, ends, ← String.append_assoc]
    exact ⟨_, rfl⟩
  · exact ⟨"/" ++ rule, innerLines fileName description width, rule ++ "/",
      congrArg unlines bannerLines_eq, by decide +kernel, by decide +kernel,
      isStarred_of_mem_innerLines h.1⟩

end RegisterHeaders.Text
