import OAuthEndpoint.Proofs.Form.Pairs
import Mathlib.Data.List.Forall2

/-! What form encoded text spells, as a grammar beside the functions that read it.  A component
spells bytes one character or escape at a time (`Spells`), and unescaping gives the text of these
bytes or fails (`unescape_eq_ok_iff_spells`, `unescape_eq_error_iff`).  A whole text spells a pair
for each of its segments (`SpellsPairs`), and these are the pairs that are read where all components
are text (`spellsPairs_iff`). -/

namespace OAuthEndpoint.Form

open Text Percent

/-! ### Components -/

/-- A component and the bytes it spells: `+` a blank, an escape its byte, and every other character
but `%` itself.  What an escape spells is not read again. -/
inductive Spells : List Char → List UInt8 → Prop
  | nil : Spells [] []
  | plus {rest : List Char} {spelled : List UInt8} (h : Spells rest spelled) :
      Spells ('+' :: rest) (0x20 :: spelled)
  | char {c : Char} {rest : List Char} {spelled : List UInt8} (hpercent : c ≠ '%')
      (hplus : c ≠ '+') (h : Spells rest spelled) :
      Spells (c :: rest) (String.utf8EncodeChar c ++ spelled)
  | escape {high low : Char} {h l : Nat} {rest : List Char} {spelled : List UInt8}
      (hhigh : hexValue? high = some h) (hlow : hexValue? low = some l)
      (hrest : Spells rest spelled) :
      Spells ('%' :: high :: low :: rest) (UInt8.ofNat (h * 16 + l) :: spelled)

section Components

variable {written written' : List Char} {spelled spelled' : List UInt8}
  {text text' result result' : String}

theorem bytes_plus (rest : List Char) : bytes ('+' :: rest) = 0x20 :: bytes rest :=
  bytes_cons_of_ne (by decide) rest

theorem Spells.wellFormed (h : Spells written spelled) : WellFormed written := by
  induction h with
  | nil => exact .nil
  | plus _ ih => exact .char (by decide) ih
  | char hpercent _ _ ih => exact .char hpercent ih
  | escape hhigh hlow _ ih => exact .escape hhigh hlow ih

theorem Spells.bytes_eq (h : Spells written spelled) : bytes written = spelled := by
  induction h with
  | nil => rfl
  | plus _ ih => rw [bytes_plus, ih]
  | char hpercent hplus _ ih => rw [bytes_cons_of_ne hpercent, plusToSpace_of_ne hplus, ih]
  | escape hhigh hlow _ ih => rw [bytes_escape hhigh hlow, ih]

theorem spells_bytes (h : WellFormed written) : Spells written (bytes written) := by
  induction h with
  | nil => exact .nil
  | @char c rest hpercent _ ih =>
    by_cases hplus : c = '+'
    · subst hplus
      rw [bytes_plus]
      exact .plus ih
    · rw [bytes_cons_of_ne hpercent, plusToSpace_of_ne hplus]
      exact .char hpercent hplus ih
  | escape hhigh hlow _ ih =>
    rw [bytes_escape hhigh hlow]
    exact .escape hhigh hlow ih

/-- Checking the escapes, turning every `+` into a blank and decoding the bytes, each for the whole
text, comes to the same as reading the grammar once. -/
theorem spells_iff : Spells written spelled ↔ WellFormed written ∧ bytes written = spelled := by
  constructor
  · exact fun h => ⟨h.wellFormed, h.bytes_eq⟩
  · rintro ⟨hformed, rfl⟩
    exact spells_bytes hformed

theorem Spells.append (h : Spells written spelled) (h' : Spells written' spelled') :
    Spells (written ++ written') (spelled ++ spelled') := by
  induction h with
  | nil => exact h'
  | plus _ ih => exact .plus ih
  | char hpercent hplus _ ih =>
    rw [List.cons_append, List.append_assoc]
    exact .char hpercent hplus ih
  | escape hhigh hlow _ ih => exact .escape hhigh hlow ih

theorem unescape_eq_ok_iff_spells :
    unescape text = .ok result ↔ Spells text.toList (Utf8.encode result.toList) := by
  rw [unescape_eq_ok_iff, spells_iff]

/-- Unescaping fails on text that spells nothing, and on text that spells no UTF-8. -/
theorem unescape_eq_error_iff {fault : Fault} :
    unescape text = .error fault ↔
      (fault = .malformedEscape ∧ ¬∃ spelled, Spells text.toList spelled) ∨
      (fault = .escapedNotUtf8 ∧ ∃ spelled, Spells text.toList spelled ∧
        ¬spelled.toByteArray.IsValidUTF8) := by
  have hspells : (∃ spelled, Spells text.toList spelled) ↔ WellFormed text.toList :=
    ⟨fun ⟨_, h⟩ => h.wellFormed, fun h => ⟨_, spells_bytes h⟩⟩
  have hinvalid : (∃ spelled, Spells text.toList spelled ∧ ¬spelled.toByteArray.IsValidUTF8) ↔
      WellFormed text.toList ∧ ¬(bytes text.toList).toByteArray.IsValidUTF8 := by
    simp only [spells_iff, and_assoc, exists_and_left, exists_eq_left']
  rw [hspells, hinvalid, unescape, ← wellFormed_iff]
  cases wellFormed text.toList with
  | false => simp [eq_comm]
  | true =>
    cases hdecoded : Utf8.decode? (bytes text.toList) with
    | none => simp [Utf8.decode?_eq_none_iff.mp hdecoded, eq_comm]
    | some decoded =>
      have hvalid := Utf8.isValidUTF8_iff.mpr ⟨decoded, Utf8.decode?_eq_some_iff.mp hdecoded⟩
      simp [hvalid]

/-- Texts that can be unescaped can be unescaped together. -/
theorem unescape_append (h : unescape text = .ok result) (h' : unescape text' = .ok result') :
    unescape (text ++ text') = .ok (result ++ result') := by
  rw [unescape_eq_ok_iff_spells] at h h' ⊢
  rw [String.toList_append, String.toList_append, Utf8.encode_append]
  exact h.append h'

/-- Where a component is text, the lenient reading agrees with unescaping. -/
theorem unescape_eq_ok_decode (hformed : WellFormed written)
    (hvalid : (bytes written).toByteArray.IsValidUTF8) :
    unescape (String.ofList written) = .ok (decode written) := by
  rw [unescape_eq_ok_iff, String.toList_ofList, decode, String.toList_ofList]
  exact ⟨hformed, (Utf8.encode_decodeLossy_iff.mpr hvalid).symm⟩

end Components

/-! ### Pairs -/

/-- A segment and the pair it spells: what stands before its first `=` and what stands after it,
each unescaped.  Without a `=` the value is empty. -/
inductive SpellsPair : List Char → String × String → Prop
  | keyAndValue {key value : List Char} {pair : String × String} (hfirst : '=' ∉ key)
      (hkey : unescape (String.ofList key) = .ok pair.1)
      (hvalue : unescape (String.ofList value) = .ok pair.2) :
      SpellsPair (key ++ '=' :: value) pair
  | keyAlone {key : List Char} {name : String} (hnone : '=' ∉ key)
      (hkey : unescape (String.ofList key) = .ok name) : SpellsPair key (name, "")

/-- A text and the pairs it spells, one for each segment between `&`s that is not empty. -/
def SpellsPairs (text : List Char) (pairs : List (String × String)) : Prop :=
  ∃ segments, Parted '&' text segments ∧
    List.Forall₂ SpellsPair (segments.filter fun segment => !segment.isEmpty) pairs

section Pairs

variable {segment key value text : List Char} {pair : String × String}
  {pairs : List (String × String)}

theorem component_append (h : '=' ∉ key) : component (key ++ '=' :: value) = (key, value) := by
  rw [component, cut_append_cons (beq_eq_false_of_not_mem h) (by simp), Option.getD_some]

theorem component_of_not_mem (h : '=' ∉ segment) : component segment = (segment, []) := by
  rw [component, cut_eq_self (beq_eq_false_of_not_mem h), Option.getD_none]

theorem spellsPair_iff_component :
    SpellsPair segment pair ↔
      unescape (String.ofList (component segment).1) = .ok pair.1 ∧
        unescape (String.ofList (component segment).2) = .ok pair.2 := by
  have hempty : unescape (String.ofList []) = .ok "" := unescape_encode ""
  constructor
  · rintro (⟨hfirst, hkey, hvalue⟩ | ⟨hnone, hkey⟩)
    · rw [component_append hfirst]
      exact ⟨hkey, hvalue⟩
    · rw [component_of_not_mem hnone]
      exact ⟨hkey, hempty⟩
  · rintro ⟨hkey, hvalue⟩
    by_cases hnone : '=' ∈ segment
    · obtain ⟨key, value, rfl, hfirst⟩ := List.eq_append_cons_of_mem hnone
      rw [component_append hfirst] at hkey hvalue
      exact .keyAndValue hfirst hkey hvalue
    · rw [component_of_not_mem hnone] at hkey hvalue
      rw [hempty, Except.ok.injEq] at hvalue
      obtain ⟨name, rest⟩ := pair
      subst hvalue
      exact .keyAlone hnone hkey

theorem wellFormed_component (h : WellFormed segment) :
    WellFormed (component segment).1 ∧ WellFormed (component segment).2 := by
  by_cases hnone : '=' ∈ segment
  · obtain ⟨key, value, rfl, hfirst⟩ := List.eq_append_cons_of_mem hnone
    rw [component_append hfirst]
    exact (wellFormed_append_cons_iff (by decide) (by decide)).mp h
  · rw [component_of_not_mem hnone]
    exact ⟨h, .nil⟩

theorem wellFormed_of_parted {segments : List (List Char)} (h : WellFormed text)
    (hparted : Parted '&' text segments) : ∀ segment ∈ segments, WellFormed segment := by
  rw [← hparted.join_eq] at h
  exact wellFormed_join_iff.mp h

/-- A segment whose components are text spells the one pair that it is read as. -/
theorem spellsPair_iff (hformed : WellFormed segment)
    (hkey : (bytes (component segment).1).toByteArray.IsValidUTF8)
    (hvalue : (bytes (component segment).2).toByteArray.IsValidUTF8) :
    SpellsPair segment pair ↔ pair = decodeComponents (component segment) := by
  obtain ⟨hformed, hformed'⟩ := wellFormed_component hformed
  rw [spellsPair_iff_component, unescape_eq_ok_decode hformed hkey,
    unescape_eq_ok_decode hformed' hvalue, Except.ok.injEq, Except.ok.injEq, Prod.ext_iff]
  exact and_congr eq_comm eq_comm

theorem forall₂_iff_eq_map {α β : Type} {R : α → β → Prop} {f : α → β} {l : List α} {l' : List β}
    (h : ∀ a ∈ l, ∀ b, R a b ↔ b = f a) : List.Forall₂ R l l' ↔ l' = l.map f := by
  induction l generalizing l' with
  | nil => simp
  | cons a l ih =>
    cases l' with
    | nil => simp
    | cons b l' =>
      rw [List.forall₂_cons, h a List.mem_cons_self,
        ih fun a' ha' => h a' (List.mem_cons_of_mem a ha'), List.map_cons, List.cons.injEq]

/-- Text whose components are text spells the pairs that are read from it, and no others. -/
theorem spellsPairs_iff (hformed : WellFormed text)
    (hvalid : ∀ parts ∈ components text, (bytes parts.1).toByteArray.IsValidUTF8 ∧
      (bytes parts.2).toByteArray.IsValidUTF8) :
    SpellsPairs text pairs ↔ pairs = (components text).map decodeComponents := by
  have hsegments := wellFormed_of_parted hformed (parted_iff.mpr rfl)
  rw [SpellsPairs]
  simp only [parted_iff, exists_eq_left]
  rw [components, List.map_map]
  refine forall₂_iff_eq_map fun segment hsegment pair => ?_
  obtain ⟨hkey, hvalue⟩ := hvalid _ (List.mem_map_of_mem hsegment)
  exact spellsPair_iff (hsegments segment (List.mem_of_mem_filter hsegment)) hkey hvalue

end Pairs

end OAuthEndpoint.Form
