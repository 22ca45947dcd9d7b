import Mathlib.Data.List.Perm.Subperm
import OAuthEndpoint.Proofs.Text.Pieces
import OAuthEndpoint.TokenSet

/-! What is in a set of tokens: exactly the pieces between the blanks of its text
(`mem_parse_iff`).  Comparing a set with a list counts the list's repeats, so the answer is right
for every list without repeats and for some others (`matchesExactly_exact_iff`). -/

namespace OAuthEndpoint.TokenSet

open Text

variable {set : TokenSet} {token other : String}

theorem contains_iff_mem : set.contains token = true ↔ token ∈ set := List.contains_iff_mem

theorem items_insert_of_mem (h : token ∈ set) : (set.insert token).items = set.items :=
  congrArg items (dif_pos h)

theorem items_insert_of_not_mem (h : token ∉ set) :
    (set.insert token).items = set.items ++ [token] :=
  congrArg items (dif_neg h)

theorem mem_insert : other ∈ set.insert token ↔ other ∈ set ∨ other = token := by
  show other ∈ (set.insert token).items ↔ _
  by_cases h : token ∈ set
  · rw [items_insert_of_mem h]
    refine ⟨.inl, ?_⟩
    rintro (hmem | rfl)
    · exact hmem
    · exact h
  · rw [items_insert_of_not_mem h]
    exact List.mem_append.trans (or_congr_right List.mem_singleton)

theorem mem_foldl_insert {tokens : List String} :
    token ∈ tokens.foldl insert set ↔ token ∈ set ∨ token ∈ tokens := by
  induction tokens generalizing set with
  | nil => simp
  | cons head tokens ih => rw [List.foldl_cons, ih, mem_insert, List.mem_cons, or_assoc]

theorem mem_ofList {tokens : List String} : token ∈ ofList tokens ↔ token ∈ tokens := by
  have hempty : token ∉ empty := List.not_mem_nil
  rw [ofList, mem_foldl_insert, or_iff_right hempty]

/-- The tokens of a text are its pieces between blanks, less the empty ones. -/
theorem mem_parse_iff {text : String} :
    token ∈ parse text ↔ token ≠ "" ∧ IsPiece (· == ' ') token.toList text.toList := by
  rw [parse, mem_ofList, List.mem_map, ← mem_split_iff]
  constructor
  · rintro ⟨piece, hpiece, rfl⟩
    obtain ⟨hmem, hfull⟩ := List.mem_filter.mp hpiece
    rw [String.toList_ofList]
    refine ⟨?_, hmem⟩
    rw [ne_eq, ← String.toList_eq_nil_iff, String.toList_ofList]
    simpa using hfull
  · rintro ⟨hne, hmem⟩
    refine ⟨token.toList, List.mem_filter.mpr ⟨hmem, ?_⟩, String.ofList_toList⟩
    simpa [String.toList_eq_nil_iff] using hne

/-! ### Comparison with a list -/

/-- A list of exactly the set's tokens, in any order and each as often as it likes. -/
def HoldsExactly (set : TokenSet) (tokens : List String) : Prop :=
  ∀ token, token ∈ set ↔ token ∈ tokens

/-- A list within the set that makes up by repeats for a token that it leaves out. -/
structure Padded (set : TokenSet) (tokens : List String) : Prop where
  within : ∀ token ∈ tokens, token ∈ set
  length_eq : tokens.length = set.size
  leftOut : ∃ token ∈ set, token ∉ tokens

variable {tokens : List String}

theorem matchesExactly_eq_true_iff :
    set.matchesExactly tokens = true ↔
      tokens.length = set.size ∧ ∀ token ∈ tokens, token ∈ set := by
  rw [matchesExactly, Bool.and_eq_true, beq_iff_eq, containsAll, List.all_eq_true, eq_comm]
  simp only [contains_iff_mem]

theorem HoldsExactly.perm_of_nodup (h : set.HoldsExactly tokens) (hnodup : tokens.Nodup) :
    set.items.Perm tokens :=
  (List.perm_ext_iff_of_nodup set.nodup hnodup).mpr h

theorem HoldsExactly.of_perm (h : set.items.Perm tokens) : set.HoldsExactly tokens :=
  fun _ => h.mem_iff

/-- A list as long as the set and with all its tokens has no room for repeats. -/
theorem HoldsExactly.nodup_of_length (h : set.HoldsExactly tokens)
    (hlength : tokens.length = set.size) : tokens.Nodup := by
  have hsubset : set.items ⊆ tokens := fun token => (h token).mp
  have hperm : set.items.Perm tokens :=
    (List.subperm_of_subset set.nodup hsubset).perm_of_length_le (Nat.le_of_eq hlength)
  exact hperm.nodup_iff.mp set.nodup

theorem Padded.not_holdsExactly (h : set.Padded tokens) : ¬set.HoldsExactly tokens := by
  obtain ⟨token, hmem, hleft⟩ := h.leftOut
  exact fun hexact => hleft ((hexact token).mp hmem)

theorem Padded.not_nodup (h : set.Padded tokens) : ¬tokens.Nodup := by
  intro hnodup
  have hperm : tokens.Perm set.items :=
    (List.subperm_of_subset hnodup h.within).perm_of_length_le (Nat.le_of_eq h.length_eq.symm)
  exact h.not_holdsExactly (.of_perm hperm.symm)

/-- What makes the comparison succeed: the set's tokens without repeats, or a padded list. -/
theorem matchesExactly_iff_holdsExactly_or_padded :
    set.matchesExactly tokens = true ↔
      (set.HoldsExactly tokens ∧ tokens.Nodup) ∨ set.Padded tokens := by
  rw [matchesExactly_eq_true_iff]
  constructor
  · rintro ⟨hlength, hwithin⟩
    by_cases hall : ∀ token ∈ set, token ∈ tokens
    · have hexact : set.HoldsExactly tokens := fun token => ⟨hall token, hwithin token⟩
      exact .inl ⟨hexact, hexact.nodup_of_length hlength⟩
    · simp only [not_forall] at hall
      obtain ⟨token, hmem, hleft⟩ := hall
      exact .inr ⟨hwithin, hlength, token, hmem, hleft⟩
  · rintro (⟨hexact, hnodup⟩ | hpadded)
    · exact ⟨(hexact.perm_of_nodup hnodup).length_eq.symm, fun token => (hexact token).mpr⟩
    · exact ⟨hpadded.length_eq, hpadded.within⟩

/-- The comparison is right on every list without repeats.  On one with repeats it errs twice: it
takes a padded list for the set's tokens, and does not know the set's own tokens. -/
theorem matchesExactly_exact_iff (set : TokenSet) (tokens : List String) :
    (set.matchesExactly tokens = true ↔ set.HoldsExactly tokens) ↔
      tokens.Nodup ∨ ¬set.Padded tokens ∧ ¬set.HoldsExactly tokens := by
  rw [matchesExactly_iff_holdsExactly_or_padded]
  constructor
  · intro h
    have hpadded : ¬set.Padded tokens := fun hpadded =>
      hpadded.not_holdsExactly (h.mp (.inr hpadded))
    by_cases hexact : set.HoldsExactly tokens
    · exact .inl ((h.mpr hexact).resolve_right hpadded).2
    · exact .inr ⟨hpadded, hexact⟩
  · rintro (hnodup | ⟨hpadded, hexact⟩)
    · have hpadded : ¬set.Padded tokens := fun hpadded => hpadded.not_nodup hnodup
      exact ⟨fun h => (h.resolve_right hpadded).1, fun hexact => .inl ⟨hexact, hnodup⟩⟩
    · exact ⟨fun h => (h.resolve_right hpadded).1, fun h => absurd h hexact⟩

/-- Two tokens are taken for a list that holds one of them twice, and one token is not known in a
list that repeats it. -/
theorem matchesExactly_exact_iff_repeated :
    (parse "a b").matchesExactly ["a", "a"] = true ∧ ¬(parse "a b").HoldsExactly ["a", "a"] ∧
    (parse "a").matchesExactly ["a", "a"] = false ∧ (parse "a").HoldsExactly ["a", "a"] ∧
    ¬((parse "a b").matchesExactly ["a", "a"] = true ↔ (parse "a b").HoldsExactly ["a", "a"]) := by
  have hpadded : (parse "a b").Padded ["a", "a"] :=
    ⟨by decide, by decide, "b", by decide, by decide⟩
  have hrepeated : (parse "a").HoldsExactly ["a", "a"] := by
    have hitems : (parse "a").items = ["a"] := by decide
    intro token
    show token ∈ (parse "a").items ↔ token ∈ ["a", "a"]
    simp [hitems]
  refine ⟨by decide, hpadded.not_holdsExactly, by decide, hrepeated, ?_⟩
  rw [matchesExactly_exact_iff]
  rintro (hnodup | ⟨hnot, -⟩)
  · exact hpadded.not_nodup hnodup
  · exact hnot hpadded

end OAuthEndpoint.TokenSet
