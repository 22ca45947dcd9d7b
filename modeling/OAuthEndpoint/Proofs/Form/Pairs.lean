import OAuthEndpoint.Proofs.Form.Component
import OAuthEndpoint.Proofs.Text.Pieces

/-! Form encoded text as a whole.  Reading cuts it into components and decodes each by itself
(`pairs_eq`); it fails on a semicolon and on a malformed escape and on nothing else
(`parse_eq_ok_iff`), and it gives back every list of pairs that was written (`parse_serialize`). -/

namespace OAuthEndpoint.Form

open Text Percent

/-- The key and the value of a segment as they are written; without a `=` the value is empty. -/
def component (segment : List Char) : List Char × List Char :=
  ((cut (· == '=') segment).1, (cut (· == '=') segment).2.getD [])

/-- The components of form encoded text; empty segments have none. -/
def components (text : List Char) : List (List Char × List Char) :=
  ((split (· == '&') text).filter fun segment => !segment.isEmpty).map component

/-- The pair that components are decoded to. -/
def decodeComponents (components : List Char × List Char) : String × String :=
  (decode components.1, decode components.2)

@[simp] theorem decode_nil : decode [] = "" := rfl

theorem decodePair_eq (segment : List Char) :
    decodePair segment = decodeComponents (component segment) := by
  rw [decodePair, decodeComponents, component]
  split
  · next key h => rw [h]; rfl
  · next key value h => rw [h]; rfl

theorem pairs_eq (text : List Char) : pairs text = (components text).map decodeComponents := by
  rw [pairs, components, List.map_map]
  exact List.map_congr_left fun segment _ => decodePair_eq segment

/-- What form encoded text must be for reading to succeed.  Nothing is asked of the bytes that its
escapes spell. -/
structure Readable (text : List Char) : Prop where
  semicolon : ';' ∉ text
  escapes : WellFormed text

theorem readable_iff {text : List Char} : Readable text ↔ ';' ∉ text ∧ DigitsFollow text := by
  rw [← wellFormed_iff_digitsFollow]
  exact ⟨fun h => ⟨h.semicolon, h.escapes⟩, fun h => ⟨h.1, h.2⟩⟩

theorem parse_eq_ok_iff {text : String} {result : List (String × String)} :
    parse text = .ok result ↔ Readable text.toList ∧ result = pairs text.toList := by
  rw [parse]
  by_cases hsemicolon : ';' ∈ text.toList
  · have hnot : ¬Readable text.toList := fun h => h.semicolon hsemicolon
    rw [if_pos (List.contains_iff_mem.mpr hsemicolon)]
    simp [hnot]
  · rw [if_neg (by simpa using hsemicolon)]
    cases hformed : wellFormed text.toList with
    | false =>
      have hnot : ¬Readable text.toList := by
        intro h
        have := wellFormed_iff.mpr h.escapes
        rw [hformed] at this
        cases this
      simp [hnot]
    | true =>
      have hreadable : Readable text.toList := ⟨hsemicolon, wellFormed_iff.mp hformed⟩
      simp [hreadable, eq_comm]

/-- Both sides of a `&` are read by themselves. -/
theorem pairs_append_amp (before after : List Char) :
    pairs (before ++ '&' :: after) = pairs before ++ pairs after := by
  rw [pairs, split_append_sep before (by simp), List.filter_append, List.map_append]
  rfl

/-- Both sides of a `&` are checked by themselves. -/
theorem readable_append_amp_iff {before after : List Char} :
    Readable (before ++ '&' :: after) ↔ Readable before ∧ Readable after := by
  have hescapes : WellFormed (before ++ '&' :: after) ↔ WellFormed before ∧ WellFormed after :=
    wellFormed_append_cons_iff (by decide) (by decide)
  have hsemicolon : ';' ∉ before ++ '&' :: after ↔ ';' ∉ before ∧ ';' ∉ after := by
    simp
  constructor
  · intro h
    obtain ⟨hbefore, hafter⟩ := hsemicolon.mp h.semicolon
    obtain ⟨hbefore', hafter'⟩ := hescapes.mp h.escapes
    exact ⟨⟨hbefore, hbefore'⟩, hafter, hafter'⟩
  · rintro ⟨hbefore, hafter⟩
    exact ⟨hsemicolon.mpr ⟨hbefore.semicolon, hafter.semicolon⟩,
      hescapes.mpr ⟨hbefore.escapes, hafter.escapes⟩⟩

theorem parse_append_amp_eq_ok_iff {before after : String} {result : List (String × String)} :
    parse (before ++ "&" ++ after) = .ok result ↔
      ∃ first last, parse before = .ok first ∧ parse after = .ok last ∧ result = first ++ last := by
  have htext : (before ++ "&" ++ after).toList = before.toList ++ '&' :: after.toList := by
    simp
  simp only [parse_eq_ok_iff, htext, readable_append_amp_iff, pairs_append_amp]
  constructor
  · rintro ⟨⟨hbefore, hafter⟩, rfl⟩
    exact ⟨_, _, ⟨hbefore, rfl⟩, ⟨hafter, rfl⟩, rfl⟩
  · rintro ⟨first, last, ⟨hbefore, rfl⟩, ⟨hafter, rfl⟩, rfl⟩
    exact ⟨⟨hbefore, hafter⟩, rfl⟩

/-! ### Text that was written -/

theorem encodePair_no_sep (pair : String × String) :
    ∀ c ∈ encodePair pair, c ≠ '&' ∧ c ≠ ';' := by
  intro c hc
  have hencode : ∀ text, c ∈ encode text → c ≠ '&' ∧ c ≠ ';' := by
    intro text h
    constructor <;> rintro rfl <;> exact not_mem_encode (by decide) (by decide) (by decide) text h
  rw [encodePair, List.mem_append, List.mem_cons] at hc
  rcases hc with hc | rfl | hc
  · exact hencode _ hc
  · decide
  · exact hencode _ hc

theorem decodePair_encodePair (pair : String × String) : decodePair (encodePair pair) = pair := by
  have hkey : ∀ c ∈ encode pair.1, (c == '=') = false :=
    beq_eq_false_of_not_mem (not_mem_encode (by decide) (by decide) (by decide) _)
  rw [decodePair_eq, encodePair, component, cut_append_cons hkey (by simp)]
  simp [decodeComponents]

theorem wellFormed_encodePair (pair : String × String) : WellFormed (encodePair pair) :=
  (wellFormed_encode _).append (.char (by decide) (wellFormed_encode _))

theorem wellFormed_join_iff {pieces : List (List Char)} :
    WellFormed (join ['&'] pieces) ↔ ∀ piece ∈ pieces, WellFormed piece := by
  induction pieces with
  | nil => simp [join, WellFormed.nil]
  | cons piece pieces ih =>
    by_cases hnil : pieces = []
    · subst hnil
      simp [join]
    · rw [join_cons_of_ne_nil _ _ hnil, List.append_assoc, List.singleton_append,
        wellFormed_append_cons_iff (by decide) (by decide), ih, List.forall_mem_cons]

theorem pairs_join_encodePair (written : List (String × String)) :
    pairs (join ['&'] (written.map encodePair)) = written := by
  by_cases hnil : written = []
  · subst hnil
    rfl
  · have hsep : ∀ piece ∈ written.map encodePair, ∀ c ∈ piece, (c == '&') = false := by
      intro piece hpiece c hc
      obtain ⟨pair, -, rfl⟩ := List.mem_map.mp hpiece
      simpa using (encodePair_no_sep pair c hc).1
    have hfull : ∀ piece ∈ written.map encodePair, (!piece.isEmpty) = true := by
      intro piece hpiece
      obtain ⟨pair, -, rfl⟩ := List.mem_map.mp hpiece
      simp [encodePair]
    rw [pairs, split_join (by simp) (by simpa using hnil) hsep, List.filter_eq_self.mpr hfull,
      List.map_map]
    conv => rhs; rw [← List.map_id written]
    exact List.map_congr_left fun pair _ => decodePair_encodePair pair

theorem pairs_serialize (written : List (String × String)) :
    pairs (serialize written).toList = written := by
  rw [serialize, String.toList_ofList, pairs_join_encodePair]

theorem readable_serialize (written : List (String × String)) :
    Readable (serialize written).toList := by
  rw [serialize, String.toList_ofList]
  constructor
  · intro h
    rcases mem_join h with h | ⟨piece, hpiece, h⟩
    · exact absurd h (by decide)
    · obtain ⟨pair, -, rfl⟩ := List.mem_map.mp hpiece
      exact (encodePair_no_sep pair _ h).2 rfl
  · refine wellFormed_join_iff.mpr fun piece hpiece => ?_
    obtain ⟨pair, -, rfl⟩ := List.mem_map.mp hpiece
    exact wellFormed_encodePair pair

/-- Reading gives back the pairs that were written. -/
theorem parse_serialize (written : List (String × String)) :
    parse (serialize written) = .ok written := by
  rw [parse_eq_ok_iff]
  exact ⟨readable_serialize written, (pairs_serialize written).symm⟩

/-- Whatever stands before two written pairs, the text tells the last of them. -/
theorem last_eq_of_append_serialize {before before' : String}
    {first first' last last' : String × String}
    (h : before ++ serialize [first, last] = before' ++ serialize [first', last']) :
    last = last' := by
  -- `before` may run into the first key, so that only the last pair is sure to be read back.
  have hread : ∀ (before : String) (first last : String × String),
      pairs (before ++ serialize [first, last]).toList =
        pairs (before.toList ++ encodePair first) ++ [last] := by
    intro before first last
    have htext : (serialize [first, last]).toList = encodePair first ++ '&' :: encodePair last := by
      simp [serialize, join]
    rw [String.toList_append, htext, ← List.append_assoc, pairs_append_amp]
    exact congrArg _ (pairs_join_encodePair [last])
  have hsame := congrArg (fun text => pairs text.toList) h
  simp only [hread] at hsame
  exact List.singleton_inj.mp (List.append_inj_right' hsame rfl)

end OAuthEndpoint.Form
