import Mathlib.Data.List.Basic
import RegisterHeaders.Text.Banner

/-!
# What a banner says

A description is wrapped between its words, so its words are those of the lines it is wrapped into
(`flatMap_words_wrap`). These lines hold no line breaks, and a line of the description differs from
the lines that follow it in the banner. So the words of the description can be read back from a text
that begins with the banner (`words_eq_of_banner`).
-/

namespace RegisterHeaders.Text

open Unicode

/-! ## Lines -/

/-- What stands before the first of the given characters can be told from what follows it. -/
theorem append_cons_inj {c : Char} {a b x y : List Char} (ha : c ∉ a) (hb : c ∉ b)
    (h : a ++ c :: x = b ++ c :: y) : a = b ∧ x = y := by
  induction a generalizing b with
  | nil =>
    cases b with
    | nil => exact ⟨rfl, (List.cons.inj h).2⟩
    | cons d b =>
      obtain ⟨rfl, -⟩ := List.cons.inj h
      exact absurd List.mem_cons_self hb
  | cons d a ih =>
    cases b with
    | nil =>
      obtain ⟨rfl, -⟩ := List.cons.inj h
      exact absurd List.mem_cons_self ha
    | cons e b =>
      obtain ⟨rfl, htail⟩ := List.cons.inj h
      obtain ⟨rfl, rfl⟩ := ih (fun hc => ha (List.mem_cons_of_mem d hc))
        (fun hc => hb (List.mem_cons_of_mem d hc)) htail
      exact ⟨rfl, rfl⟩

theorem toList_unlines (lines : List String) :
    (unlines lines).toList = lines.flatMap fun line => line.toList ++ ['\n'] := by
  rw [unlines, String.toList_join, List.flatMap_map]
  simp only [String.toList_append]
  rfl

/-- The first line of a text can be told from the rest. -/
theorem unlines_cons_inj {a b : String} {as bs : List String} (ha : '\n' ∉ a.toList)
    (hb : '\n' ∉ b.toList) (h : unlines (a :: as) = unlines (b :: bs)) :
    a = b ∧ unlines as = unlines bs := by
  simp only [← String.toList_inj, toList_unlines, List.flatMap_cons, List.append_assoc,
    List.singleton_append] at h ⊢
  exact append_cons_inj ha hb h

theorem unlines_cons (line : String) (lines : List String) :
    unlines (line :: lines) = line ++ ("\n" ++ unlines lines) := by
  rw [unlines, unlines, List.map_cons, String.join_cons, String.append_assoc]

theorem unlines_append (first rest : List String) :
    unlines (first ++ rest) = unlines first ++ unlines rest := by
  rw [unlines, unlines, unlines, List.map_append, String.join_append]

theorem unlines_append_inj {first as bs : List String}
    (h : unlines (first ++ as) = unlines (first ++ bs)) : unlines as = unlines bs := by
  rw [unlines_append, unlines_append] at h
  exact (String.append_right_inj _).1 h

/-- A list of blocks of lines can be told from what follows it if each block can, and if no block
begins as what follows. -/
theorem flatMap_lines_inj {α β : Type} {lines : α → List String} {view : α → β} {P : α → Prop}
    {ending : String}
    (told : ∀ {a b as bs}, P a → P b → unlines (lines a ++ as) = unlines (lines b ++ bs) →
      view a = view b ∧ unlines as = unlines bs)
    (apart : ∀ {a as bs}, unlines (lines a ++ as) ≠ unlines (ending :: bs))
    {blocks others : List α} (hb : ∀ a ∈ blocks, P a) (ho : ∀ a ∈ others, P a)
    {as bs : List String}
    (h : unlines (blocks.flatMap lines ++ ending :: as) =
      unlines (others.flatMap lines ++ ending :: bs)) :
    blocks.map view = others.map view ∧ unlines as = unlines bs := by
  induction blocks generalizing others with
  | nil =>
    cases others with
    | nil =>
      simp only [List.flatMap_nil, List.nil_append, unlines_cons, String.append_right_inj] at h
      exact ⟨rfl, h⟩
    | cons b others =>
      rw [List.flatMap_cons, List.append_assoc] at h
      exact absurd h.symm apart
  | cons a blocks ih =>
    cases others with
    | nil =>
      rw [List.flatMap_cons, List.append_assoc] at h
      exact absurd h apart
    | cons b others =>
      obtain ⟨ha, hb⟩ := List.forall_mem_cons.1 hb
      obtain ⟨hb', ho⟩ := List.forall_mem_cons.1 ho
      rw [List.flatMap_cons, List.flatMap_cons, List.append_assoc, List.append_assoc] at h
      obtain ⟨first, h⟩ := told ha hb' h
      obtain ⟨rest, h⟩ := ih hb ho h
      exact ⟨by rw [List.map_cons, List.map_cons, first, rest], h⟩

/-! ## Words -/

theorem eq_false_of_mem_splitOnP {p : Char → Bool} {text piece : List Char}
    (h : piece ∈ text.splitOnP p) : ∀ c ∈ piece, p c = false := by
  induction text generalizing piece with
  | nil =>
    obtain rfl := List.mem_singleton.1 h
    simp
  | cons c text ih =>
    obtain ⟨first, rest, hs⟩ := List.exists_cons_of_ne_nil (List.splitOnP_ne_nil p text)
    rw [List.splitOnP_cons_eq_if_modifyHead] at h
    rw [hs] at h ih
    split at h
    · rcases List.mem_cons.1 h with rfl | h
      · simp
      · exact ih h
    · next hc =>
      rw [List.modifyHead_cons] at h
      rcases List.mem_cons.1 h with rfl | h
      · exact List.forall_mem_cons.2 ⟨Bool.eq_false_iff.2 hc, ih List.mem_cons_self⟩
      · exact ih (List.mem_cons_of_mem first h)

/-- A text without white space. -/
def IsSolid (text : String) : Prop :=
  ∀ c ∈ text.toList, isWhiteSpace c = false

instance : DecidablePred IsSolid :=
  fun text => decidable_of_iff (text.toList.all fun c => !isWhiteSpace c) (by simp [IsSolid])

theorem IsSolid.notMem_newline {text : String} (h : IsSolid text) : '\n' ∉ text.toList :=
  fun hc => absurd (h _ hc) (by decide)

theorem isSolid_of_mem_words {text word : String} (h : word ∈ words text) : IsSolid word := by
  obtain ⟨piece, hp, rfl⟩ := List.mem_map.1 h
  rw [IsSolid, String.toList_ofList]
  exact eq_false_of_mem_splitOnP (List.mem_filter.1 hp).1

theorem ne_empty_of_mem_words {text word : String} (h : word ∈ words text) : word ≠ "" := by
  obtain ⟨piece, hp, rfl⟩ := List.mem_map.1 h
  have nonempty := (List.mem_filter.1 hp).2
  simpa using nonempty

theorem words_of_isSolid {text : String} (h : IsSolid text) :
    words text = if text = "" then [] else [text] := by
  rw [words, List.splitOnP_eq_singleton h]
  by_cases empty : text = "" <;> simp [empty]

/-- A text without white space is the only word it has, if it has any. -/
theorem words_inj {a b : String} (ha : IsSolid a) (hb : IsSolid b) (h : words a = words b) :
    a = b := by
  rw [words_of_isSolid ha, words_of_isSolid hb] at h
  by_cases hae : a = "" <;> by_cases hbe : b = "" <;> simp_all

theorem words_append_space (a b : String) : words (a ++ " " ++ b) = words a ++ words b := by
  have space : (a ++ " " ++ b).toList = a.toList ++ ' ' :: b.toList := by simp
  rw [words, space, List.splitOnP_append_cons _ _ (by decide), List.filter_append, List.map_append,
    words, words]

/-! ## Wrapped texts -/

theorem flatMap_words_fill {width : Nat} {line : String} {rest : List String}
    (h : ∀ word ∈ rest, words word = [word]) :
    (fill width line rest).flatMap words = words line ++ rest := by
  induction rest generalizing line with
  | nil => simp [fill]
  | cons word rest ih =>
    obtain ⟨hword, hrest⟩ := List.forall_mem_cons.1 h
    rw [fill]
    split
    · next empty =>
      obtain rfl := String.isEmpty_iff.1 empty
      rw [ih hrest, hword]
      rfl
    · split
      · rw [ih hrest, words_append_space, hword, List.append_assoc, List.singleton_append]
      · rw [List.flatMap_cons, ih hrest, hword, List.singleton_append]

/-- The lines of a text have its words. -/
theorem flatMap_words_wrap (width : Nat) (text : String) :
    (wrap width text).flatMap words = words text := by
  have hwords : ∀ word ∈ words text, words word = [word] := fun word h => by
    rw [words_of_isSolid (isSolid_of_mem_words h), if_neg (ne_empty_of_mem_words h)]
  rw [wrap, flatMap_words_fill hwords]
  rfl

theorem fill_ne_nil (width : Nat) (line : String) (rest : List String) :
    fill width line rest ≠ [] := by
  induction rest generalizing line with
  | nil => simp [fill]
  | cons word rest ih =>
    rw [fill]
    split
    · exact ih word
    · split
      · exact ih _
      · simp

theorem notMem_newline_of_mem_fill {width : Nat} {line : String} {rest : List String}
    (hline : '\n' ∉ line.toList) (hrest : ∀ word ∈ rest, '\n' ∉ word.toList) :
    ∀ l ∈ fill width line rest, '\n' ∉ l.toList := by
  induction rest generalizing line with
  | nil => simpa [fill] using hline
  | cons word rest ih =>
    obtain ⟨hword, hrest⟩ := List.forall_mem_cons.1 hrest
    rw [fill]
    split
    · exact ih hword hrest
    · split
      · exact ih (by simp [hline, hword]) hrest
      · exact List.forall_mem_cons.2 ⟨hline, ih hword hrest⟩

theorem notMem_newline_of_mem_wrap {width : Nat} {text : String} :
    ∀ l ∈ wrap width text, '\n' ∉ l.toList :=
  notMem_newline_of_mem_fill (by simp) fun _ h => (isSolid_of_mem_words h).notMem_newline

/-! ## Banners -/

/-- No aligned line is an empty line of the banner. -/
theorem aligned_ne (line : String) : "*                 " ++ line ≠ "*" := by
  intro h
  have h := congrArg String.length h
  rw [String.length_append] at h
  have : "*                 ".length = 18 := rfl
  have : "*".length = 1 := rfl
  omega

theorem aligned_inj {a b as bs : List String} (ha : ∀ l ∈ a, '\n' ∉ l.toList)
    (hb : ∀ l ∈ b, '\n' ∉ l.toList)
    (h : unlines (a.map ("*                 " ++ ·) ++ "*" :: as) =
      unlines (b.map ("*                 " ++ ·) ++ "*" :: bs)) : a = b := by
  have aligned : ∀ line : String, '\n' ∉ line.toList →
      '\n' ∉ ("*                 " ++ line).toList := by simp
  induction a generalizing b with
  | nil =>
    rcases b with _ | ⟨l, b⟩
    · rfl
    · have := unlines_cons_inj (by simp) (aligned l (hb l List.mem_cons_self)) h
      exact absurd this.1.symm (aligned_ne l)
  | cons l a ih =>
    obtain ⟨hl, ha⟩ := List.forall_mem_cons.1 ha
    rcases b with _ | ⟨l', b⟩
    · have := unlines_cons_inj (aligned l hl) (by simp) h
      exact absurd this.1 (aligned_ne l)
    · obtain ⟨hl', hb⟩ := List.forall_mem_cons.1 hb
      obtain ⟨e, h⟩ := unlines_cons_inj (aligned l hl) (aligned l' hl') h
      rw [ih ha hb h, (String.append_right_inj _).1 e]

theorem detailLines_inj {a b as bs : List String} (ha : ∀ l ∈ a, '\n' ∉ l.toList)
    (hb : ∀ l ∈ b, '\n' ∉ l.toList) (hane : a ≠ []) (hbne : b ≠ [])
    (h : unlines (detailLines a ++ "*" :: as) = unlines (detailLines b ++ "*" :: bs)) : a = b := by
  have labelled : ∀ line : String, '\n' ∉ line.toList →
      '\n' ∉ ("* Details       : " ++ line).toList := by simp
  obtain ⟨l, a, rfl⟩ := List.exists_cons_of_ne_nil hane
  obtain ⟨l', b, rfl⟩ := List.exists_cons_of_ne_nil hbne
  obtain ⟨hl, ha⟩ := List.forall_mem_cons.1 ha
  obtain ⟨hl', hb⟩ := List.forall_mem_cons.1 hb
  obtain ⟨e, h⟩ := unlines_cons_inj (labelled l hl) (labelled l' hl') h
  rw [aligned_inj ha hb h, (String.append_right_inj _).1 e]

/-- The description in a banner can be told from what follows it. -/
theorem wrap_inj_of_banner {description description' : String} {width : Nat}
    {as bs : List String}
    (h : unlines (detailLines (wrap width description) ++ "*" :: as) =
      unlines (detailLines (wrap width description') ++ "*" :: bs)) :
    wrap width description = wrap width description' ∧ unlines as = unlines bs := by
  have lines := detailLines_inj notMem_newline_of_mem_wrap notMem_newline_of_mem_wrap
    (fill_ne_nil _ _ _) (fill_ne_nil _ _ _) h
  rw [lines, List.append_cons, List.append_cons _ _ bs] at h
  exact ⟨lines, unlines_append_inj h⟩

/-- The banner of a file of known name tells the words of the description. -/
theorem words_eq_of_banner {fileName description description' : String} {width : Nat}
    {rest rest' : List String}
    (h : unlines (bannerLines fileName description width ++ rest) =
      unlines (bannerLines fileName description' width ++ rest')) :
    words description = words description' := by
  simp only [bannerLines, List.append_assoc] at h
  have lines := (wrap_inj_of_banner (unlines_append_inj h)).1
  rw [← flatMap_words_wrap width, lines, flatMap_words_wrap]

end RegisterHeaders.Text
