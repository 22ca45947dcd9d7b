import OAuthEndpoint.Proofs.Form.Pairs
import OAuthEndpoint.Proofs.Text.Ascii
import OAuthEndpoint.Proofs.Text.MadeOf
import OAuthEndpoint.Url.Host

/-! The characters that URLs are written in up to their fragment: printable ASCII, but for the blank
and for `#`, which starts a fragment.  What each part of a URL keeps, the escapes of all else and
serialized pairs are of this class, so a text of any of them cannot end a header line or start a
fragment. -/

namespace OAuthEndpoint.Url

open Text

def Visible (c : Char) : Prop := 0x21 ≤ c.toNat ∧ c.toNat ≤ 0x7E ∧ c ≠ '#'

instance : DecidablePred Visible := fun _ => inferInstanceAs (Decidable (_ ∧ _ ∧ _))

def AllVisible (text : String) : Prop := ∀ c ∈ text.toList, Visible c

instance : DecidablePred AllVisible := fun text => List.decidableBAll Visible text.toList

/-! ### Classes of characters -/

theorem toNat_le_of_le {c d : Char} (h : c ≤ d) : c.toNat ≤ d.toNat :=
  UInt32.le_iff_toNat_le.mp h

theorem visible_of_isAlphanum {c : Char} (h : c.isAlphanum = true) : Visible c := by
  have hhash : c ≠ '#' := by
    rintro rfl
    exact absurd h (by decide)
  rcases (Bool.or_eq_true c.isAlpha c.isDigit).mp h with halpha | hdigit
  · rcases (Bool.or_eq_true c.isUpper c.isLower).mp halpha with hupper | hlower
    · have hrange : 'A' ≤ c ∧ c ≤ 'Z' := of_decide_eq_true hupper
      have hlow : 65 ≤ c.toNat := toNat_le_of_le hrange.1
      have hhigh : c.toNat ≤ 90 := toNat_le_of_le hrange.2
      exact ⟨by omega, by omega, hhash⟩
    · have hrange := (Bool.and_eq_true (decide ('a' ≤ c)) (decide (c ≤ 'z'))).mp hlower
      have hlow : 97 ≤ c.toNat := toNat_le_of_le (of_decide_eq_true hrange.1)
      have hhigh : c.toNat ≤ 122 := toNat_le_of_le (of_decide_eq_true hrange.2)
      exact ⟨by omega, by omega, hhash⟩
  · have hrange := (Bool.and_eq_true (decide ('0' ≤ c)) (decide (c ≤ '9'))).mp hdigit
    have hlow : 48 ≤ c.toNat := toNat_le_of_le (of_decide_eq_true hrange.1)
    have hhigh : c.toNat ≤ 57 := toNat_le_of_le (of_decide_eq_true hrange.2)
    exact ⟨by omega, by omega, hhash⟩

theorem visible_of_printable {c : Char} (h : Percent.keepsPrintable c = true) (hblank : c ≠ ' ')
    (hhash : c ≠ '#') : Visible c := by
  rw [Percent.keepsPrintable, Bool.and_eq_true, decide_eq_true_eq, decide_eq_true_eq] at h
  have hlow := toNat_le_of_le h.1
  have hhigh := toNat_le_of_le h.2
  have hne : c.toNat ≠ ' '.toNat := fun heq => hblank (Char.toNat_inj.mp heq)
  have hspace : ' '.toNat = 0x20 := rfl
  exact ⟨by omega, hhigh, hhash⟩

/-- Every class of printable characters that leaves out the blank and `#`. -/
theorem visible_of_class {keeps : Char → Bool} {c : Char} (h : keeps c = true)
    (hprintable : Percent.keepsPrintable c = true) (hblank : keeps ' ' = false)
    (hhash : keeps '#' = false) : Visible c := by
  refine visible_of_printable hprintable ?_ ?_
  · rintro rfl
    rw [h] at hblank
    cases hblank
  · rintro rfl
    rw [h] at hhash
    cases hhash

theorem visible_of_keepsInPath {c : Char} (h : Percent.keepsInPath c = true) : Visible c := by
  have hprintable : Percent.keepsPrintable c = true := by
    simp only [Percent.keepsInPath, Percent.keepsInFragment, Bool.and_eq_true] at h
    exact h.1.1
  exact visible_of_class h hprintable (by decide) (by decide)

theorem visible_of_keepsInUserinfo {c : Char} (h : Percent.keepsInUserinfo c = true) :
    Visible c := by
  rw [Percent.keepsInUserinfo, Bool.and_eq_true] at h
  exact visible_of_keepsInPath h.1

theorem visible_of_keepsInQuery {c : Char} (h : Percent.keepsInQuery c = true) : Visible c := by
  have hprintable : Percent.keepsPrintable c = true := by
    simp only [Percent.keepsInQuery, Bool.and_eq_true] at h
    exact h.1
  exact visible_of_class h hprintable (by decide) (by decide)

theorem visible_of_keepsInDomain {c : Char} (h : Idna.keepsInDomain c = true) : Visible c := by
  have hhash : c ≠ '#' := by
    rintro rfl
    exact absurd h (by decide)
  simp only [Idna.keepsInDomain, Bool.and_eq_true, decide_eq_true_eq] at h
  exact ⟨toNat_le_of_le h.1.1, toNat_le_of_le h.1.2, hhash⟩

theorem visible_of_keeps {c : Char} (h : Form.keeps c = true) : Visible c := by
  simp only [Form.keeps, Bool.or_eq_true, beq_iff_eq] at h
  rcases h with (((h | rfl) | rfl) | rfl) | rfl
  · exact visible_of_isAlphanum h
  all_goals decide

theorem Visible.lt_ascii {c : Char} (h : Visible c) : c.toNat < 128 := by
  have := h.2.1
  omega

theorem visible_hexDigit : ∀ n < 16, Visible (hexDigit n) := by decide

/-! ### Texts -/

theorem allVisible_ofList {text : List Char} :
    AllVisible (String.ofList text) ↔ ∀ c ∈ text, Visible c :=
  madeOf_ofList

theorem allVisible_empty : AllVisible "" := madeOf_empty

theorem AllVisible.append {a b : String} (ha : AllVisible a) (hb : AllVisible b) :
    AllVisible (a ++ b) :=
  MadeOf.append ha hb

/-- Such a text has a byte for each character, and the byte is the character's number. -/
theorem AllVisible.bytes {text : String} (h : AllVisible text) :
    ∀ b ∈ text.toByteArray.data.toList, 0x21 ≤ b ∧ b ≤ 0x7E ∧ b ≠ 0x23 := by
  have hbytes : text.toByteArray.data.toList = Utf8.encode text.toList := by
    rw [← String.utf8Encode_toList]
    exact List.toList_data_toByteArray
  intro b hb
  rw [hbytes] at hb
  obtain ⟨c, hc, hb⟩ := List.mem_flatMap.mp hb
  obtain ⟨hlow, hhigh, hhash⟩ := h c hc
  rw [Utf8.encodeChar_ascii (by omega), List.mem_singleton] at hb
  have hnat : b.toNat = c.toNat := by rw [hb, Utf8.toNat_ofNat_byte (by omega)]
  refine ⟨UInt8.le_iff_toNat_le.mpr (hnat ▸ hlow), UInt8.le_iff_toNat_le.mpr (hnat ▸ hhigh), ?_⟩
  rintro rfl
  exact hhash (Char.toNat_inj.mp hnat.symm)

theorem AllVisible.getD_map {part : Option String} {mark : String} (hmark : AllVisible mark)
    (h : ∀ text ∈ part, AllVisible text) : AllVisible ((part.map (mark ++ ·)).getD "") :=
  MadeOf.getD_map hmark h

/-! ### Escapes -/

theorem visible_of_mem_encode {keeps : Char → Bool} {text : List Char}
    (h : ∀ c ∈ text, keeps c = true → Visible c) :
    ∀ c ∈ Percent.encode keeps text, Visible c :=
  Percent.of_mem_encode (by decide) visible_hexDigit h

theorem visible_of_mem_encodePair {pair : String × String} :
    ∀ c ∈ Form.encodePair pair, Visible c := by
  have hencode : ∀ text, ∀ c ∈ Form.encode text, Visible c := by
    intro text c hc
    rcases Form.mem_encode hc with h | rfl | rfl
    · exact visible_of_keeps h
    · decide
    · decide
  intro c hc
  rw [Form.encodePair, List.mem_append, List.mem_cons] at hc
  rcases hc with hc | rfl | hc
  · exact hencode _ c hc
  · decide
  · exact hencode _ c hc

theorem allVisible_serialize (pairs : List (String × String)) :
    AllVisible (Form.serialize pairs) := by
  rw [Form.serialize, allVisible_ofList]
  intro c hc
  rcases mem_join hc with hamp | ⟨piece, hpiece, hc⟩
  · rw [hamp]
    decide
  · obtain ⟨pair, -, rfl⟩ := List.mem_map.mp hpiece
    exact visible_of_mem_encodePair c hc

end OAuthEndpoint.Url
