import OAuthEndpoint.Proofs.TokenSet

/-! The canonical form of a set of tokens.  A text is read as its tokens, each once and in the order
of their `FirstPlaces`, and what is written of that is read as the same set (`parse_render`).
Comparing two sets, and all that can be asked of a set but its order, looks at what is in them alone
(`sameTokens_iff`, `interchangeable_of_mem_iff`). -/

namespace OAuthEndpoint.TokenSet

open Text

variable {set set' : TokenSet} {token : String} {tokens : List String} {text : String}

/-- The set has the members of a list, each once, in the order in which they first occur there. -/
structure FirstPlaces (set : TokenSet) (tokens : List String) : Prop where
  members : set.HoldsExactly tokens
  once : set.items.Nodup
  order : set.items.Pairwise fun a b => tokens.idxOf a < tokens.idxOf b

/-- A part of a text that is not empty and stands between blanks or the ends. -/
def IsToken (token text : String) : Prop :=
  token ≠ "" ∧ IsPiece (· == ' ') token.toList text.toList

/-- Two sets that give the same answer to every question but that for their order. -/
structure Interchangeable (a b : TokenSet) : Prop where
  contains : ∀ token, a.contains token = b.contains token
  containsAll : ∀ tokens, a.containsAll tokens = b.containsAll tokens
  matchesExactly : ∀ tokens, a.matchesExactly tokens = b.matchesExactly tokens
  size : a.size = b.size
  isEmpty : a.isEmpty = b.isEmpty
  compared : ∀ other, a.sameTokens other = b.sameTokens other
  comparedWith : ∀ other : TokenSet, other.sameTokens a = other.sameTokens b

/-! ### The order of first places -/

theorem firstPlaces_empty : FirstPlaces empty [] := ⟨fun _ => Iff.rfl, .nil, .nil⟩

/-- One more token keeps its first place where it has one, and comes last where it has none. -/
theorem FirstPlaces.insert (h : set.FirstPlaces tokens) (token : String) :
    (set.insert token).FirstPlaces (tokens ++ [token]) := by
  -- No first place moves, since the token is added at the end of the list.
  have hplace : ∀ a ∈ set, (tokens ++ [token]).idxOf a = tokens.idxOf a :=
    fun a ha => List.idxOf_append_of_mem ((h.members a).mp ha)
  have hbefore : set.items.Pairwise fun a b =>
      (tokens ++ [token]).idxOf a < (tokens ++ [token]).idxOf b := by
    refine h.order.imp_of_mem fun {a b} ha hb hlt => ?_
    rw [hplace a ha, hplace b hb]
    exact hlt
  refine ⟨fun other => ?_, (set.insert token).nodup, ?_⟩
  · rw [mem_insert, h.members other, List.mem_append, List.mem_singleton]
  · by_cases htoken : token ∈ set
    · rw [items_insert_of_mem htoken]
      exact hbefore
    · rw [items_insert_of_not_mem htoken, List.pairwise_append]
      refine ⟨hbefore, List.pairwise_singleton _ _, fun a ha b hb => ?_⟩
      rw [List.mem_singleton] at hb
      subst hb
      have hnone : b ∉ tokens := fun hmem => htoken ((h.members b).mpr hmem)
      have hlt : tokens.idxOf a < tokens.length :=
        List.idxOf_lt_length_of_mem ((h.members a).mp ha)
      rw [hplace a ha, List.idxOf_append_of_notMem hnone]
      omega

theorem FirstPlaces.foldl_insert {before : List String} (h : set.FirstPlaces before) :
    (tokens.foldl TokenSet.insert set).FirstPlaces (before ++ tokens) := by
  induction tokens generalizing set before with
  | nil => rwa [List.append_nil]
  | cons token tokens ih =>
    rw [List.foldl_cons, List.append_cons]
    exact ih (h.insert token)

theorem firstPlaces_ofList (tokens : List String) : (ofList tokens).FirstPlaces tokens :=
  firstPlaces_empty.foldl_insert

theorem firstPlaces_items (set : TokenSet) : set.FirstPlaces set.items := by
  refine ⟨fun _ => Iff.rfl, set.nodup, ?_⟩
  rw [List.pairwise_iff_getElem]
  intro i j hi hj hlt
  rw [set.nodup.idxOf_getElem i hi, set.nodup.idxOf_getElem j hj]
  exact hlt

/-- First places leave no choice of the order. -/
theorem FirstPlaces.unique (h : set.FirstPlaces tokens) (h' : set'.FirstPlaces tokens) :
    set = set' := by
  have hperm : set.items.Perm set'.items :=
    (List.perm_ext_iff_of_nodup set.nodup set'.nodup).mpr fun token =>
      (h.members token).trans (h'.members token).symm
  have hitems : set.items = set'.items :=
    hperm.eq_of_pairwise (fun a b _ _ hab hba => absurd hab (Nat.lt_asymm hba)) h.order h'.order
  cases set
  cases set'
  congr

/-! ### Writing and reading again -/

theorem isToken_of_mem_parse (h : token ∈ parse text) : token ≠ "" ∧ ' ' ∉ token.toList := by
  obtain ⟨hne, hpiece⟩ := mem_parse_iff.mp h
  exact ⟨hne, fun hblank => absurd (hpiece.whole ' ' hblank) (by simp)⟩

theorem toList_render (set : TokenSet) :
    set.render.toList = join [' '] (set.items.map String.toList) := by
  rw [render, String.toList_intercalate, join_eq_intercalate]
  rfl

/-- A set whose members can stand in a text is read back from what is written of it, in its order.
-/
theorem parse_render (h : ∀ token ∈ set, token ≠ "" ∧ ' ' ∉ token.toList) :
    parse set.render = set := by
  have hread : ((split (· == ' ') set.render.toList).filter fun piece => !piece.isEmpty).map
      String.ofList = set.items := by
    rw [toList_render]
    by_cases hnil : set.items = []
    · rw [hnil]
      rfl
    · have hwhole : ∀ piece ∈ set.items.map String.toList, ∀ c ∈ piece, (c == ' ') = false := by
        intro piece hpiece
        obtain ⟨token, htoken, rfl⟩ := List.mem_map.mp hpiece
        exact beq_eq_false_of_not_mem (h token htoken).2
      have hfull : ∀ piece ∈ set.items.map String.toList, (!piece.isEmpty) = true := by
        intro piece hpiece
        obtain ⟨token, htoken, rfl⟩ := List.mem_map.mp hpiece
        simpa using (h token htoken).1
      rw [split_join (by simp) (by simpa using hnil) hwhole, List.filter_eq_self.mpr hfull]
      simp [Function.comp_def]
  rw [parse, hread]
  exact (firstPlaces_ofList set.items).unique (firstPlaces_items set)

/-! ### Comparing sets -/

theorem matchesExactly_iff_of_nodup (h : tokens.Nodup) :
    set.matchesExactly tokens = true ↔ set.HoldsExactly tokens := by
  rw [matchesExactly_iff_holdsExactly_or_padded]
  constructor
  · rintro (⟨hexact, -⟩ | hpadded)
    · exact hexact
    · exact absurd h hpadded.not_nodup
  · exact fun hexact => .inl ⟨hexact, h⟩

theorem sameTokens_iff : set.sameTokens set' = true ↔ ∀ token, token ∈ set ↔ token ∈ set' := by
  have hmatches : set.sameTokens set' = set'.matchesExactly set.items := by
    rw [sameTokens, matchesExactly, Bool.beq_comm]
    rfl
  rw [hmatches, matchesExactly_iff_of_nodup set.nodup]
  exact forall_congr' fun token => iff_comm

/-- Nothing but the order tells sets with the same members apart. -/
theorem interchangeable_of_mem_iff (h : ∀ token, token ∈ set ↔ token ∈ set') :
    set.Interchangeable set' := by
  have hcontains : set.contains = set'.contains := by
    funext token
    rw [Bool.eq_iff_iff, contains_iff_mem, contains_iff_mem, h]
  have hsize : set.size = set'.size :=
    ((List.perm_ext_iff_of_nodup set.nodup set'.nodup).mpr h).length_eq
  have hall : ∀ tokens, set.containsAll tokens = set'.containsAll tokens := by
    intro tokens
    rw [containsAll, containsAll, hcontains]
  refine ⟨fun token => congrFun hcontains token, hall, fun tokens => ?_, hsize, ?_, fun other => ?_,
    fun other => ?_⟩
  · rw [matchesExactly, matchesExactly, hsize, hall]
  · rw [Bool.eq_iff_iff, isEmpty, isEmpty, List.isEmpty_iff_length_eq_zero,
      List.isEmpty_iff_length_eq_zero]
    exact Eq.congr_left hsize
  · rw [Bool.eq_iff_iff, sameTokens_iff, sameTokens_iff]
    simp only [h]
  · rw [Bool.eq_iff_iff, sameTokens_iff, sameTokens_iff]
    simp only [h]

/-- Reading gives the tokens of a text, each once and in the order of their first places, and what
is written of them is read as the same and written the same.  Two texts compare as equal, in either
way of comparing, where they have the same tokens, and then nothing but the order tells them apart.
-/
theorem parse_canonical :
    (∀ text, ∃ pieces, Parted ' ' text.toList pieces ∧
      (parse text).FirstPlaces
        ((pieces.filter fun piece => !piece.isEmpty).map String.ofList)) ∧
    (∀ text, parse (parse text).render = parse text ∧
      (parse (parse text).render).render = (parse text).render) ∧
    ∀ text text',
      ((parse text).sameTokens (parse text') = true ↔
        ∀ token, IsToken token text ↔ IsToken token text') ∧
      ((parse text).matchesExactly (parse text').items = true ↔
        ∀ token, IsToken token text ↔ IsToken token text') ∧
      ((∀ token, IsToken token text ↔ IsToken token text') →
        (parse text).Interchangeable (parse text')) := by
  have hread : ∀ text, parse (parse text).render = parse text :=
    fun text => parse_render fun token htoken => isToken_of_mem_parse htoken
  refine ⟨fun text => ⟨_, parted_iff.mpr rfl, firstPlaces_ofList _⟩,
    fun text => ⟨hread text, congrArg render (hread text)⟩, fun text text' => ?_⟩
  have hmem : (∀ token, IsToken token text ↔ IsToken token text') ↔
      ∀ token, token ∈ parse text ↔ token ∈ parse text' := by
    simp only [IsToken, mem_parse_iff]
  rw [hmem]
  exact ⟨sameTokens_iff, matchesExactly_iff_of_nodup (parse text').nodup,
    interchangeable_of_mem_iff⟩

/-- A tab separates nothing, and neither repeats nor further blanks make a difference. -/
theorem parse_canonical_reordered :
    (parse "b\tc  a b\tc").items = ["b\tc", "a"] ∧ (parse " a a b\tc ").items = ["a", "b\tc"] ∧
    (∀ token, IsToken token "b\tc  a b\tc" ↔ IsToken token " a a b\tc ") ∧
    (parse "b\tc  a b\tc").Interchangeable (parse " a a b\tc ") := by
  obtain ⟨hsame, -, hinterchangeable⟩ := parse_canonical.2.2 "b\tc  a b\tc" " a a b\tc "
  have htokens := hsame.mp (by decide)
  exact ⟨by decide, by decide, htokens, hinterchangeable htokens⟩

end OAuthEndpoint.TokenSet
