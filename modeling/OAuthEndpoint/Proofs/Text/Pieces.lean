import OAuthEndpoint.Text.Pieces

/-! Cutting at separators undoes joining with them: pieces that hold no separator come back from
their join (`split_join`).  The pieces of a text are the parts without a separator that stand
between separators or the ends (`mem_split_iff`), and no other pieces are joined to it
(`parted_iff`). -/

namespace OAuthEndpoint.Text

variable {α : Type}

theorem pushFirst_append (a : α) {pieces : List (List α)} (h : pieces ≠ [])
    (more : List (List α)) : pushFirst a (pieces ++ more) = pushFirst a pieces ++ more := by
  cases pieces with
  | nil => exact absurd rfl h
  | cons _ _ => rfl

/-- A separator parts the pieces before it from those after it. -/
theorem split_append_sep {isSep : α → Bool} (before : List α) {sep : α} (hsep : isSep sep = true)
    (after : List α) :
    split isSep (before ++ sep :: after) = split isSep before ++ split isSep after := by
  induction before with
  | nil => exact split_cons_sep after hsep
  | cons a before ih =>
    rw [List.cons_append]
    cases h : isSep a with
    | true => rw [split_cons_sep _ h, split_cons_sep _ h, ih, List.cons_append]
    | false =>
      rw [split_cons_other _ h, split_cons_other _ h, ih,
        pushFirst_append _ (split_ne_nil isSep before)]

theorem split_eq_self {isSep : α → Bool} {text : List α} (h : ∀ a ∈ text, isSep a = false) :
    split isSep text = [text] := by
  induction text with
  | nil => rfl
  | cons a text ih =>
    rw [split_cons_other text (h a List.mem_cons_self),
      ih fun b hb => h b (List.mem_cons_of_mem a hb)]
    rfl

theorem split_join {isSep : α → Bool} {sep : α} (hsep : isSep sep = true)
    {pieces : List (List α)} (hne : pieces ≠ [])
    (h : ∀ piece ∈ pieces, ∀ a ∈ piece, isSep a = false) :
    split isSep (join [sep] pieces) = pieces := by
  induction pieces with
  | nil => exact absurd rfl hne
  | cons piece pieces ih =>
    have hpiece := split_eq_self (h piece List.mem_cons_self)
    by_cases hnil : pieces = []
    · subst hnil
      exact hpiece
    · rw [join_cons_of_ne_nil _ _ hnil, List.append_assoc, List.singleton_append,
        split_append_sep _ hsep, hpiece, ih hnil fun q hq => h q (List.mem_cons_of_mem piece hq)]
      rfl

theorem join_eq_intercalate (sep : List α) (pieces : List (List α)) :
    join sep pieces = sep.intercalate pieces := by
  induction pieces with
  | nil => rfl
  | cons piece pieces ih =>
    cases pieces with
    | nil => simp [join]
    | cons next pieces => rw [join_cons_of_ne_nil _ _ (by simp), ih, List.intercalate_cons_cons]

theorem mem_join {sep a : α} {pieces : List (List α)} (h : a ∈ join [sep] pieces) :
    a = sep ∨ ∃ piece ∈ pieces, a ∈ piece := by
  induction pieces with
  | nil => simp [join] at h
  | cons piece pieces ih =>
    by_cases hnil : pieces = []
    · subst hnil
      exact .inr ⟨piece, List.mem_cons_self, h⟩
    · rw [join_cons_of_ne_nil _ _ hnil, List.append_assoc, List.mem_append] at h
      rcases h with h | h
      · exact .inr ⟨piece, List.mem_cons_self, h⟩
      · rcases List.mem_cons.mp h with rfl | h
        · exact .inl rfl
        · obtain rfl | ⟨q, hq, ha⟩ := ih h
          · exact .inl rfl
          · exact .inr ⟨q, List.mem_cons_of_mem piece hq, ha⟩

/-- A part of a text that holds no separator and stands between separators or the ends. -/
structure IsPiece (isSep : α → Bool) (piece text : List α) : Prop where
  whole : ∀ a ∈ piece, isSep a = false
  between : ∃ before after, text = before ++ piece ++ after ∧
    (∀ a ∈ before.getLast?, isSep a = true) ∧ (∀ a ∈ after.head?, isSep a = true)

theorem no_sep_or_first_sep (isSep : α → Bool) (text : List α) :
    (∀ a ∈ text, isSep a = false) ∨
    ∃ first sep rest, text = first ++ sep :: rest ∧ (∀ a ∈ first, isSep a = false) ∧
      isSep sep = true := by
  induction text with
  | nil => exact .inl (by simp)
  | cons a text ih =>
    cases ha : isSep a with
    | true => exact .inr ⟨[], a, text, rfl, by simp, ha⟩
    | false =>
      rcases ih with hnone | ⟨first, sep, rest, rfl, hfirst, hsep⟩
      · exact .inl (List.forall_mem_cons.mpr ⟨ha, hnone⟩)
      · exact .inr ⟨a :: first, sep, rest, rfl, List.forall_mem_cons.mpr ⟨ha, hfirst⟩, hsep⟩

/-- What starts a text and is of a class, where no more of the class follows. -/
theorem span_append {p : α → Bool} {before after : List α} (hbefore : ∀ a ∈ before, p a = true)
    (hafter : ∀ a ∈ after.head?, p a = false) :
    (before ++ after).takeWhile p = before ∧ (before ++ after).dropWhile p = after := by
  rw [List.takeWhile_append_of_pos hbefore, List.dropWhile_append_of_pos hbefore]
  cases after with
  | nil => simp
  | cons a after =>
    have ha : ¬p a = true := by simp [hafter a rfl]
    rw [List.takeWhile_cons_of_neg ha, List.dropWhile_cons_of_neg ha, List.append_nil]
    exact ⟨rfl, rfl⟩

/-- Cutting finds no separator where there is none. -/
theorem snd_cut_eq_none_iff {isSep : α → Bool} {text : List α} :
    (cut isSep text).2 = none ↔ ∀ a ∈ text, isSep a = false := by
  rcases no_sep_or_first_sep isSep text with hnone | ⟨first, sep, rest, rfl, hfirst, hsep⟩
  · simp only [cut_eq_self hnone, true_iff]
    exact hnone
  · simp only [cut_append_cons hfirst hsep, reduceCtorEq, false_iff]
    intro h
    rw [h sep (by simp)] at hsep
    cases hsep

/-- What stands before the first separator is the whole text or ends at a separator. -/
theorem eq_or_eq_append_of_cut (isSep : α → Bool) (text : List α) :
    text = (cut isSep text).1 ∨
    ∃ sep rest, isSep sep = true ∧ text = (cut isSep text).1 ++ sep :: rest := by
  rcases no_sep_or_first_sep isSep text with hnone | ⟨first, sep, rest, rfl, hfirst, hsep⟩
  · rw [cut_eq_self hnone]
    exact .inl rfl
  · rw [cut_append_cons hfirst hsep]
    exact .inr ⟨sep, rest, hsep, rfl⟩

/-- What stands before the first separator does not depend on what comes after any separator. -/
theorem fst_cut_append_cons {isSep : α → Bool} (text : List α) {sep : α} (hsep : isSep sep = true)
    (rest : List α) : (cut isSep (text ++ sep :: rest)).1 = (cut isSep text).1 := by
  rcases no_sep_or_first_sep isSep text with hnone | ⟨first, sep', rest', rfl, hfirst, hsep'⟩
  · rw [cut_append_cons hnone hsep, cut_eq_self hnone]
  · rw [List.append_assoc, List.cons_append, cut_append_cons hfirst hsep',
      cut_append_cons hfirst hsep']

theorem subset_of_cut {isSep : α → Bool} {text before : List α} {rest : Option (List α)}
    (h : cut isSep text = (before, rest)) : before ⊆ text ∧ ∀ after ∈ rest, after ⊆ text := by
  rcases no_sep_or_first_sep isSep text with hnone | ⟨first, sep, tail, rfl, hfirst, hsep⟩
  · rw [cut_eq_self hnone] at h
    cases h
    exact ⟨List.Subset.refl text, by simp⟩
  · rw [cut_append_cons hfirst hsep] at h
    cases h
    refine ⟨List.subset_append_left before _, ?_⟩
    rintro after ⟨⟩
    exact List.Subset.trans (List.subset_cons_self sep tail) (List.subset_append_right before _)

namespace IsPiece

variable {isSep : α → Bool} {piece text : List α}

theorem self (h : ∀ a ∈ text, isSep a = false) : IsPiece isSep text text :=
  ⟨h, [], [], by simp, by simp, by simp⟩

theorem first {sep : α} (h : ∀ a ∈ piece, isSep a = false) (hsep : isSep sep = true)
    (rest : List α) : IsPiece isSep piece (piece ++ sep :: rest) :=
  ⟨h, [], sep :: rest, by simp, by simp, by simp [hsep]⟩

/-- More text and a separator before it change nothing for a piece. -/
theorem after {sep : α} (h : IsPiece isSep piece text) (hsep : isSep sep = true)
    (front : List α) : IsPiece isSep piece (front ++ sep :: text) := by
  obtain ⟨before, after, rfl, hbefore, hafter⟩ := h.between
  refine ⟨h.whole, front ++ sep :: before, after, by simp, ?_, hafter⟩
  intro a ha
  cases before with
  | nil =>
    rw [List.getLast?_concat, Option.mem_some_iff] at ha
    rw [← ha]
    exact hsep
  | cons b before =>
    refine hbefore a ?_
    simpa [List.getLast?_append, List.getLast?_cons] using ha

/-- Cutting gives a piece that starts its text. -/
theorem mem_split_append {after : List α} (h : ∀ a ∈ piece, isSep a = false)
    (hafter : ∀ a ∈ after.head?, isSep a = true) : piece ∈ split isSep (piece ++ after) := by
  cases after with
  | nil =>
    rw [List.append_nil, split_eq_self h]
    exact List.mem_singleton.mpr rfl
  | cons sep rest =>
    rw [split_append_sep piece (hafter sep (by simp)), split_eq_self h]
    exact List.mem_append_left _ (List.mem_singleton.mpr rfl)

theorem mem_split (h : IsPiece isSep piece text) : piece ∈ split isSep text := by
  obtain ⟨before, after, rfl, hbefore, hafter⟩ := h.between
  have hstart := mem_split_append h.whole hafter
  rcases List.eq_nil_or_concat before with rfl | ⟨front, sep, rfl⟩
  · exact hstart
  · have hsep : isSep sep = true := hbefore sep (by simp)
    rw [List.append_assoc, List.concat_eq_append, List.append_assoc, List.singleton_append,
      split_append_sep front hsep]
    exact List.mem_append_right _ hstart

/-- The induction is on the length of the text, which loses its first piece at each step. -/
theorem of_mem_split {text : List α} (h : piece ∈ split isSep text) :
    IsPiece isSep piece text := by
  rcases no_sep_or_first_sep isSep text with hnone | ⟨front, sep, rest, hcut, hfront, hsep⟩
  · rw [split_eq_self hnone, List.mem_singleton] at h
    subst h
    exact .self hnone
  · have hshorter : rest.length < text.length := by
      rw [hcut, List.length_append, List.length_cons]
      omega
    rw [hcut, split_append_sep front hsep, split_eq_self hfront, List.singleton_append,
      List.mem_cons] at h
    rw [hcut]
    rcases h with rfl | hrest
    · exact .first hfront hsep rest
    · exact (of_mem_split hrest).after hsep front
termination_by text.length
decreasing_by exact hshorter

end IsPiece

theorem mem_split_iff {isSep : α → Bool} {piece text : List α} :
    piece ∈ split isSep text ↔ IsPiece isSep piece text :=
  ⟨.of_mem_split, fun h => h.mem_split⟩

theorem mem_of_mem_split {isSep : α → Bool} {piece text : List α} (h : piece ∈ split isSep text) :
    ∀ a ∈ piece, a ∈ text ∧ isSep a = false := by
  have hpiece := IsPiece.of_mem_split h
  obtain ⟨before, after, rfl, -, -⟩ := hpiece.between
  intro a ha
  exact ⟨by simp [ha], hpiece.whole a ha⟩

theorem beq_eq_false_of_not_mem [BEq α] [LawfulBEq α] {sep : α} {text : List α} (h : sep ∉ text) :
    ∀ a ∈ text, (a == sep) = false := by
  intro a ha
  rw [beq_eq_false_iff_ne]
  rintro rfl
  exact h ha

/-- A text and the pieces between its separators, of which there is always one more. -/
structure Parted (sep : α) (text : List α) (pieces : List (List α)) : Prop where
  join_eq : join [sep] pieces = text
  whole : ∀ piece ∈ pieces, sep ∉ piece
  ne_nil : pieces ≠ []

/-- A text is parted in one way, by cutting it. -/
theorem parted_iff [BEq α] [LawfulBEq α] {sep : α} {text : List α} {pieces : List (List α)} :
    Parted sep text pieces ↔ pieces = split (· == sep) text := by
  constructor
  · intro h
    have hwhole : ∀ piece ∈ pieces, ∀ a ∈ piece, (a == sep) = false :=
      fun piece hpiece => beq_eq_false_of_not_mem (h.whole piece hpiece)
    have hsplit : split (· == sep) (join [sep] pieces) = pieces :=
      split_join (by simp) h.ne_nil hwhole
    rw [← h.join_eq, hsplit]
  · rintro rfl
    refine ⟨join_split sep text, ?_, split_ne_nil _ text⟩
    intro piece hpiece hsep
    have hother := (mem_of_mem_split hpiece sep hsep).2
    rw [beq_self_eq_true] at hother
    cases hother

end OAuthEndpoint.Text
