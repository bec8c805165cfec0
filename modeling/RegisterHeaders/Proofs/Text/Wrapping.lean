import Mathlib.Data.List.Chain
import RegisterHeaders.Proofs.Text

/-!
# Greedy wrapping

`IsWrapping width text lines` says what it means to wrap a text, without saying how it is done: the
lines have the words of the text, separated by single blanks; a line that is too long has a single
word; and no line has room for the first word of the next one. The first and the last condition pull
in opposite directions, so that there is exactly one such list of lines, and `wrap` finds it
(`wrap_eq_iff_isWrapping`). The words of a text are its maximal runs of characters that are not
white space (`AreWords`).
-/

namespace RegisterHeaders.Text

open Unicode

/-! ## Words -/

/-- The maximal runs of characters that are not white space, in order. -/
inductive AreWords : List Char → List String → Prop
  | nil : AreWords [] []
  | space {c : Char} {text : List Char} {ws : List String} (h : isWhiteSpace c = true)
      (rest : AreWords text ws) : AreWords (c :: text) ws
  | word {run text : List Char} {ws : List String} (nonempty : run ≠ [])
      (solid : ∀ c ∈ run, isWhiteSpace c = false)
      (ends : ∀ c ∈ text.head?, isWhiteSpace c = true) (rest : AreWords text ws) :
      AreWords (run ++ text) (String.ofList run :: ws)

theorem words_cons_of_space {c : Char} (h : isWhiteSpace c = true) (text : List Char) :
    words (String.ofList (c :: text)) = words (String.ofList text) := by
  simp [words, List.splitOnP_cons_eq_if_modifyHead, h]

theorem words_run_append {run text : List Char} (nonempty : run ≠ [])
    (solid : ∀ c ∈ run, isWhiteSpace c = false) (ends : ∀ c ∈ text.head?, isWhiteSpace c = true) :
    words (String.ofList (run ++ text)) = String.ofList run :: words (String.ofList text) := by
  cases text with
  | nil =>
    have isSolid : IsSolid (String.ofList run) := by rwa [IsSolid, String.toList_ofList]
    rw [List.append_nil, words_of_isSolid isSolid, if_neg (by simpa using nonempty)]
    rfl
  | cons c text =>
    have space : isWhiteSpace c = true := ends c rfl
    rw [words_cons_of_space space, words, words, String.toList_ofList, String.toList_ofList,
      List.splitOnP_append_cons _ _ space, List.splitOnP_eq_singleton solid]
    simp [nonempty]

theorem words_of_areWords {text : List Char} {ws : List String} (h : AreWords text ws) :
    words (String.ofList text) = ws := by
  induction h with
  | nil => rfl
  | space h _ ih => rw [words_cons_of_space h, ih]
  | word nonempty solid ends _ ih => rw [words_run_append nonempty solid ends, ih]

theorem exists_areWords (text : List Char) : ∃ ws, AreWords text ws := by
  induction text with
  | nil => exact ⟨[], .nil⟩
  | cons c text ih =>
    obtain ⟨ws, h⟩ := ih
    by_cases space : isWhiteSpace c = true
    · exact ⟨ws, .space space h⟩
    · have solid : isWhiteSpace c = false := Bool.eq_false_iff.2 space
      -- the character begins a run of its own, or goes in front of the run that follows
      cases h with
      | nil =>
        exact ⟨_, @AreWords.word [c] [] _ (List.cons_ne_nil c []) (by simpa using solid) (by simp)
          .nil⟩
      | space h rest =>
        exact ⟨_, @AreWords.word [c] _ _ (List.cons_ne_nil c []) (by simpa using solid)
          (by simpa using h) (.space h rest)⟩
      | @word run text ws nonempty others ends rest =>
        exact ⟨_, @AreWords.word (c :: run) text _ (List.cons_ne_nil c run)
          (List.forall_mem_cons.2 ⟨solid, others⟩) ends rest⟩

theorem words_eq_iff_areWords {text : String} {ws : List String} :
    words text = ws ↔ AreWords text.toList ws := by
  constructor
  · rintro rfl
    obtain ⟨ws, h⟩ := exists_areWords text.toList
    have found := words_of_areWords h
    rw [String.ofList_toList] at found
    rwa [found]
  · intro h
    rw [← words_of_areWords h, String.ofList_toList]

/-! ## Wrappings -/

/-- The first word of `next` does not fit on `line`. -/
def IsFull (width : Nat) (line next : String) : Prop :=
  ∀ word ∈ (words next).head?, width < line.utf8ByteSize + 1 + word.utf8ByteSize

/-- A line of words separated by single blanks, of `width` bytes at most or with a single word. -/
structure IsLine (width : Nat) (line : String) : Prop where
  spaced : " ".intercalate (words line) = line
  long : width < line.utf8ByteSize → ∃ word, words line = [word]

/-- `lines` is the text wrapped at `width` bytes. -/
structure IsWrapping (width : Nat) (text : String) (lines : List String) : Prop where
  /-- The lines have the words of the text, in order. -/
  flatMap_words : lines.flatMap words = words text
  isLine : ∀ line ∈ lines, IsLine width line
  /-- No line has room for the first word of the next one. -/
  isChain : lines.IsChain (IsFull width)
  /-- An empty line is there only for a text without words, and is then the only line. -/
  empty : "" ∈ lines → lines = [""] ∧ words text = []
  nonempty : lines ≠ []

theorem words_of_mem_words {text word : String} (h : word ∈ words text) : words word = [word] := by
  rw [words_of_isSolid (isSolid_of_mem_words h), if_neg (ne_empty_of_mem_words h)]

section Lines

variable {width : Nat} {line : String} {rest : List String}

theorem isLine_of_words (width : Nat) {word : String} (h : words word = [word]) :
    IsLine width word :=
  ⟨by rw [h, String.intercalate_singleton], fun _ => ⟨word, h⟩⟩

/-- The size of a line with the words of another one and more. -/
theorem size_le_intercalate {ws : List String} (h : ws ≠ []) (word : String) (more : List String) :
    (" ".intercalate ws).utf8ByteSize + 1 + word.utf8ByteSize ≤
      (" ".intercalate (ws ++ word :: more)).utf8ByteSize := by
  have blank : " ".utf8ByteSize = 1 := rfl
  have begins : word.utf8ByteSize ≤ (" ".intercalate (word :: more)).utf8ByteSize := by
    cases more with
    | nil => simp
    | cons w more =>
      rw [String.intercalate_cons_cons, String.utf8ByteSize_append, String.utf8ByteSize_append]
      omega
  rw [String.intercalate_append_of_ne_nil h (List.cons_ne_nil word more),
    String.utf8ByteSize_append, String.utf8ByteSize_append]
  omega

/-! ### The lines that are made -/

/-- A word that fits can be put on a line. -/
theorem IsLine.append_word {word : String} (h : IsLine width line) (nonempty : words line ≠ [])
    (hword : words word = [word])
    (fits : line.utf8ByteSize + 1 + word.utf8ByteSize ≤ width) :
    IsLine width (line ++ " " ++ word) := by
  constructor
  · rw [words_append_space, hword,
      String.intercalate_append_of_ne_nil nonempty (List.cons_ne_nil word []), h.spaced,
      String.intercalate_singleton]
  · intro long
    have blank : " ".utf8ByteSize = 1 := rfl
    rw [String.utf8ByteSize_append, String.utf8ByteSize_append] at long
    omega

/-- A line of words takes the next word if there is room for it. -/
theorem fill_cons (nonempty : words line ≠ []) (word : String) (rest : List String) :
    fill width line (word :: rest) =
      if line.utf8ByteSize + 1 + word.utf8ByteSize ≤ width then
        fill width (line ++ " " ++ word) rest
      else line :: fill width word rest := by
  have notEmpty : ¬ line.isEmpty = true := fun h => by
    obtain rfl := String.isEmpty_iff.1 h
    exact nonempty rfl
  rw [fill, if_neg notEmpty]

theorem words_append_ne_nil {word : String} (hword : words word = [word]) :
    words (line ++ " " ++ word) ≠ [] := by
  rw [words_append_space, hword]
  simp

/-- The lines begin with the words that stand on the current line already. -/
theorem exists_fill_eq_cons (width : Nat) (nonempty : words line ≠ [])
    (hrest : ∀ w ∈ rest, words w = [w]) :
    ∃ first others, fill width line rest = first :: others ∧
      (words first).head? = (words line).head? := by
  induction rest generalizing line with
  | nil => exact ⟨line, [], rfl, rfl⟩
  | cons word rest ih =>
    obtain ⟨hword, hrest⟩ := List.forall_mem_cons.1 hrest
    rw [fill_cons nonempty]
    split
    · obtain ⟨first, others, hfill, hhead⟩ := ih (words_append_ne_nil hword) hrest
      refine ⟨first, others, hfill, ?_⟩
      rw [hhead, words_append_space, List.head?_append_of_ne_nil _ nonempty]
    · exact ⟨line, _, rfl, rfl⟩

/-- What holds of the lines that continue a line of words. -/
theorem isLine_of_mem_fill (h : IsLine width line) (nonempty : words line ≠ [])
    (hrest : ∀ w ∈ rest, words w = [w]) :
    ∀ l ∈ fill width line rest, IsLine width l ∧ words l ≠ [] := by
  induction rest generalizing line with
  | nil => simpa [fill] using ⟨h, nonempty⟩
  | cons word rest ih =>
    obtain ⟨hword, hrest⟩ := List.forall_mem_cons.1 hrest
    rw [fill_cons nonempty]
    split
    · next fits => exact ih (h.append_word nonempty hword fits) (words_append_ne_nil hword) hrest
    · exact List.forall_mem_cons.2
        ⟨⟨h, nonempty⟩, ih (isLine_of_words width hword) (by simp [hword]) hrest⟩

theorem isChain_fill (nonempty : words line ≠ []) (hrest : ∀ w ∈ rest, words w = [w]) :
    (fill width line rest).IsChain (IsFull width) := by
  induction rest generalizing line with
  | nil => exact .singleton line
  | cons word rest ih =>
    obtain ⟨hword, hrest⟩ := List.forall_mem_cons.1 hrest
    have one : words word ≠ [] := by simp [hword]
    rw [fill_cons nonempty]
    split
    · exact ih (words_append_ne_nil hword) hrest
    · next full =>
      -- the next line begins with the word that did not fit
      obtain ⟨first, others, hfill, hhead⟩ := exists_fill_eq_cons width one hrest
      have chain := ih one hrest
      rw [hfill] at chain ⊢
      refine .cons_cons (fun w hw => ?_) chain
      rw [hhead, hword] at hw
      obtain rfl : word = w := by simpa using hw
      omega

theorem isWrapping_wrap (width : Nat) (text : String) : IsWrapping width text (wrap width text) := by
  have solid : ∀ w ∈ words text, words w = [w] := fun _ => words_of_mem_words
  have same := flatMap_words_wrap width text
  rw [wrap] at same ⊢
  cases hw : words text with
  | nil =>
    refine ⟨by rw [← hw, same], ?_, .singleton "", fun _ => ⟨rfl, hw⟩, by simp [fill]⟩
    exact List.forall_mem_singleton.2 ⟨rfl, fun long => absurd long (Nat.not_lt_zero width)⟩
  | cons word rest =>
    rw [hw] at solid same
    obtain ⟨hword, hrest⟩ := List.forall_mem_cons.1 solid
    have one : words word ≠ [] := by simp [hword]
    have lines := isLine_of_mem_fill (isLine_of_words width hword) one hrest
    rw [fill, if_pos (String.isEmpty_iff.2 rfl)] at same ⊢
    refine ⟨by rw [same, hw], fun l hl => (lines l hl).1, isChain_fill one hrest, fun h => ?_,
      fill_ne_nil _ _ _⟩
    exact absurd rfl (lines "" h).2

/-! ### There is no other choice -/

/-- A line with the words of a full line, and the next word, would be too long. -/
theorem not_longer {line' word : String} {lines : List String} {more others : List String}
    (h' : IsLine width line') (nonempty : words line ≠ []) (h : IsLine width line)
    (hlines : ∀ l ∈ lines, words l ≠ []) (chain : (line :: lines).IsChain (IsFull width))
    (longer : words line' = words line ++ word :: more)
    (next : lines.flatMap words = word :: others) : False := by
  obtain ⟨w, hw⟩ : ∃ w, words line' = [w] := by
    apply h'.long
    cases lines with
    | nil => cases next
    | cons l lines =>
      obtain ⟨v, vs, hv⟩ := List.exists_cons_of_ne_nil (hlines l List.mem_cons_self)
      rw [List.flatMap_cons, hv, List.cons_append] at next
      obtain ⟨rfl, -⟩ := List.cons.inj next
      have full : width < line.utf8ByteSize + 1 + v.utf8ByteSize :=
        (List.isChain_cons_cons.1 chain).1 v (by rw [hv]; rfl)
      have size := size_le_intercalate nonempty v more
      rw [← longer, h.spaced, h'.spaced] at size
      omega
  have length := congrArg List.length (longer.symm.trans hw)
  rw [List.length_append, List.length_cons, List.length_singleton] at length
  have := List.length_pos_iff.2 nonempty
  omega

theorem eq_of_isChain {lines lines' : List String}
    (h : ∀ l ∈ lines, IsLine width l ∧ words l ≠ [])
    (h' : ∀ l ∈ lines', IsLine width l ∧ words l ≠ []) (chain : lines.IsChain (IsFull width))
    (chain' : lines'.IsChain (IsFull width)) (same : lines.flatMap words = lines'.flatMap words) :
    lines = lines' := by
  induction lines generalizing lines' with
  | nil =>
    cases lines' with
    | nil => rfl
    | cons l' lines' =>
      obtain ⟨wordless, -⟩ := List.append_eq_nil_iff.1 same.symm
      exact absurd wordless (h' l' List.mem_cons_self).2
  | cons l lines ih =>
    cases lines' with
    | nil =>
      obtain ⟨wordless, -⟩ := List.append_eq_nil_iff.1 same
      exact absurd wordless (h l List.mem_cons_self).2
    | cons l' lines' =>
      obtain ⟨⟨hl, nonempty⟩, hlines⟩ := List.forall_mem_cons.1 h
      obtain ⟨⟨hl', nonempty'⟩, hlines'⟩ := List.forall_mem_cons.1 h'
      rw [List.flatMap_cons, List.flatMap_cons, List.append_eq_append_iff] at same
      rcases same with ⟨_ | ⟨word, more⟩, longer, next⟩ | ⟨_ | ⟨word, more⟩, longer, next⟩
      · rw [List.append_nil] at longer
        rw [← hl.spaced, ← longer, hl'.spaced,
          ih hlines hlines' chain.tail chain'.tail (by simpa using next)]
      · exact (not_longer hl' nonempty hl (fun x hx => (hlines x hx).2) chain longer next).elim
      · rw [List.append_nil] at longer
        rw [← hl.spaced, longer, hl'.spaced,
          ih hlines hlines' chain.tail chain'.tail (by simpa using next.symm)]
      · exact (not_longer hl nonempty' hl' (fun x hx => (hlines' x hx).2) chain' longer next).elim

theorem IsWrapping.eq_singleton {text : String} {lines : List String}
    (h : IsWrapping width text lines) (hw : words text = []) : lines = [""] := by
  obtain ⟨line, others, rfl⟩ := List.exists_cons_of_ne_nil h.nonempty
  have wordless : words line = [] :=
    List.flatMap_eq_nil_iff.1 (h.flatMap_words.trans hw) line List.mem_cons_self
  have spaced := (h.isLine line List.mem_cons_self).spaced
  rw [wordless, String.intercalate_nil] at spaced
  exact (h.empty (by simp [spaced])).1

theorem IsWrapping.words_ne_nil {text : String} {lines : List String}
    (h : IsWrapping width text lines) (hw : words text ≠ []) :
    ∀ l ∈ lines, IsLine width l ∧ words l ≠ [] := by
  refine fun l hl => ⟨h.isLine l hl, fun wordless => hw (h.empty ?_).2⟩
  have spaced := (h.isLine l hl).spaced
  rw [wordless, String.intercalate_nil] at spaced
  rwa [spaced]

theorem IsWrapping.unique {text : String} {lines lines' : List String}
    (h : IsWrapping width text lines) (h' : IsWrapping width text lines') : lines = lines' := by
  by_cases hw : words text = []
  · rw [h.eq_singleton hw, h'.eq_singleton hw]
  · exact eq_of_isChain (h.words_ne_nil hw) (h'.words_ne_nil hw) h.isChain h'.isChain
      (h.flatMap_words.trans h'.flatMap_words.symm)

end Lines

/-- Wrapping breaks a text between its words, the maximal runs of characters that are not white
space, into lines that are as full as possible; there is no other way to do so. -/
theorem wrap_eq_iff_isWrapping :
    (∀ text ws, words text = ws ↔ AreWords text.toList ws) ∧
    ∀ width text lines, wrap width text = lines ↔ IsWrapping width text lines := by
  refine ⟨fun text ws => words_eq_iff_areWords, fun width text lines => ⟨?_, fun h => ?_⟩⟩
  · rintro rfl
    exact isWrapping_wrap width text
  · exact (isWrapping_wrap width text).unique h

/-- A line may have exactly `width` bytes, and a word that is too long has a line of its own. -/
example : wrap 7 " one two  three-four\nfive" = ["one two", "three-four", "five"] := by
  decide +kernel

end RegisterHeaders.Text
