import OAuthEndpoint.Form
import OAuthEndpoint.Proofs.Percent

/-! One component of form encoded text.  A component that was written stands for the bytes of its
text (`bytes_encode`), so reading gives the text back; unescaping fails exactly on malformed escapes
and on bytes that are no UTF-8 (`unescape_eq_ok_iff`), and changes exactly the texts that hold `%` or
`+` (`unescape_eq_self_iff`). -/

namespace OAuthEndpoint.Form

open Text Percent

/-! ### The bytes of a component -/

@[simp] theorem bytes_nil : bytes [] = [] := rfl

theorem plusToSpace_ne_percent {c : Char} (h : c ≠ '%') : plusToSpace c ≠ '%' := by
  unfold plusToSpace
  split
  · decide
  · exact h

theorem plusToSpace_of_ne {c : Char} (h : c ≠ '+') : plusToSpace c = c := if_neg h

/-- No byte of a character but `%` itself is `%`. -/
theorem ne_of_mem_encodeChar {c : Char} (h : c ≠ '%') :
    ∀ b ∈ String.utf8EncodeChar c, b ≠ 0x25 :=
  Utf8.ne_of_mem_encodeChar (by decide) h

theorem bytes_cons_of_ne {c : Char} (h : c ≠ '%') (rest : List Char) :
    bytes (c :: rest) = String.utf8EncodeChar (plusToSpace c) ++ bytes rest := by
  rw [bytes, List.map_cons, Utf8.encode_cons,
    decode_append_of_ne (ne_of_mem_encodeChar (plusToSpace_ne_percent h))]
  rfl

theorem bytes_escape {high low : Char} {h l : Nat} (hhigh : hexValue? high = some h)
    (hlow : hexValue? low = some l) (rest : List Char) :
    bytes ('%' :: high :: low :: rest) = UInt8.ofNat (h * 16 + l) :: bytes rest := by
  have h1 := plusToSpace_of_ne (ne_of_hexValue? hhigh (d := '+') (by decide))
  have h2 := plusToSpace_of_ne (ne_of_hexValue? hlow (d := '+') (by decide))
  rw [bytes, List.map_cons, List.map_cons, List.map_cons, h1, h2, Utf8.encode_cons,
    Utf8.encode_cons, Utf8.encode_cons, Utf8.encodeChar_ascii (toNat_lt_of_hexValue? hhigh),
    Utf8.encodeChar_ascii (toNat_lt_of_hexValue? hlow)]
  exact decode_escape (byte?_ofNat hhigh hlow) _

/-! ### Components as they are written -/

/-- A character as it is written. -/
def encodeChar (c : Char) : List Char :=
  if c = ' ' then ['+'] else if keeps c then [c] else Percent.escapeChar c

theorem encode_eq (text : String) : encode text = text.toList.flatMap encodeChar := rfl

theorem keeps_hexDigit : ∀ n < 16, keeps (hexDigit n) = true := by decide

theorem escape_eq (b : UInt8) :
    ∃ h < 16, ∃ l < 16, UInt8.ofNat (h * 16 + l) = b ∧
      Percent.escape b = ['%', hexDigit h, hexDigit l] := by
  have hb : b.toNat < 256 := b.toNat_lt
  refine ⟨b.toNat / 16, by omega, b.toNat % 16, by omega, ?_, rfl⟩
  rw [Nat.div_add_mod', UInt8.ofNat_toNat]

theorem bytes_escapes (escaped : List UInt8) (rest : List Char) :
    bytes (escaped.flatMap Percent.escape ++ rest) = escaped ++ bytes rest := by
  induction escaped with
  | nil => rfl
  | cons b escaped ih =>
    obtain ⟨h, hh, l, hl, hb, hescape⟩ := escape_eq b
    rw [List.flatMap_cons, hescape, List.append_assoc]
    show bytes ('%' :: hexDigit h :: hexDigit l :: (escaped.flatMap Percent.escape ++ rest)) = _
    rw [bytes_escape (hexValue?_hexDigit h hh) (hexValue?_hexDigit l hl), hb, ih]
    rfl

/-- A character that is kept stands for itself. -/
theorem ne_of_keeps {c d : Char} (h : keeps c = true) (hd : keeps d = false) : c ≠ d := by
  rintro rfl
  rw [h] at hd
  cases hd

theorem bytes_encodeChar (c : Char) (rest : List Char) :
    bytes (encodeChar c ++ rest) = String.utf8EncodeChar c ++ bytes rest := by
  unfold encodeChar
  split
  · next hspace =>
    subst hspace
    exact bytes_cons_of_ne (by decide) rest
  split
  · next hkeeps =>
    rw [List.singleton_append, bytes_cons_of_ne (ne_of_keeps hkeeps (by decide)),
      plusToSpace_of_ne (ne_of_keeps hkeeps (by decide))]
  · exact bytes_escapes _ rest

/-- A written component stands for the bytes of its text. -/
theorem bytes_encode (text : String) : bytes (encode text) = Utf8.encode text.toList := by
  rw [encode_eq]
  induction text.toList with
  | nil => rfl
  | cons c text ih => rw [List.flatMap_cons, bytes_encodeChar, ih, Utf8.encode_cons]

@[simp] theorem decode_encode (text : String) : decode (encode text) = text := by
  rw [decode, bytes_encode, Utf8.decodeLossy_encode, String.ofList_toList]

theorem wellFormed_escapes (escaped : List UInt8) :
    WellFormed (escaped.flatMap Percent.escape) := by
  induction escaped with
  | nil => exact .nil
  | cons b escaped ih =>
    obtain ⟨h, hh, l, hl, -, hescape⟩ := escape_eq b
    rw [List.flatMap_cons, hescape]
    exact .escape (hexValue?_hexDigit h hh) (hexValue?_hexDigit l hl) ih

theorem wellFormed_encode (text : String) : WellFormed (encode text) := by
  rw [encode_eq]
  induction text.toList with
  | nil => exact .nil
  | cons c text ih =>
    rw [List.flatMap_cons]
    refine WellFormed.append ?_ ih
    unfold encodeChar
    split
    · exact .char (by decide) .nil
    split
    · next hkeeps => exact .char (ne_of_keeps hkeeps (by decide)) .nil
    · exact wellFormed_escapes _

/-- Written components hold letters, digits, the four marks, `+` and `%` alone. -/
theorem mem_encode {text : String} {c : Char} (h : c ∈ encode text) :
    keeps c = true ∨ c = '+' ∨ c = '%' := by
  obtain ⟨d, -, hc⟩ := List.mem_flatMap.mp h
  split at hc
  · exact .inr (.inl (List.mem_singleton.mp hc))
  split at hc
  · next hkeeps => rw [List.mem_singleton.mp hc]; exact .inl hkeeps
  · obtain ⟨b, -, hc⟩ := List.mem_flatMap.mp hc
    obtain ⟨high, hhigh, low, hlow, -, hescape⟩ := escape_eq b
    rw [hescape] at hc
    simp only [List.mem_cons, List.not_mem_nil, or_false] at hc
    rcases hc with rfl | rfl | rfl
    · exact .inr (.inr rfl)
    · exact .inl (keeps_hexDigit high hhigh)
    · exact .inl (keeps_hexDigit low hlow)

theorem not_mem_encode {c : Char} (hkeeps : keeps c = false) (hplus : c ≠ '+')
    (hpercent : c ≠ '%') (text : String) : c ∉ encode text := by
  intro hc
  rcases mem_encode hc with h | h | h
  · rw [hkeeps] at h
    cases h
  · exact hplus h
  · exact hpercent h

/-! ### Unescaping -/

/-- Unescaping gives the text whose bytes the component stands for. -/
theorem unescape_eq_ok_iff {text result : String} :
    unescape text = .ok result ↔
      WellFormed text.toList ∧ bytes text.toList = Utf8.encode result.toList := by
  rw [unescape, ← wellFormed_iff]
  cases hformed : wellFormed text.toList with
  | false => simp
  | true =>
    simp only [if_true, true_and]
    cases hdecoded : Utf8.decode? (bytes text.toList) with
    | none =>
      have hne : bytes text.toList ≠ Utf8.encode result.toList := by
        intro h
        rw [h, Utf8.decode?_encode] at hdecoded
        cases hdecoded
      simp [hne]
    | some decoded =>
      rw [Utf8.decode?_eq_some_iff] at hdecoded
      rw [← hdecoded, Except.ok.injEq]
      constructor
      · rintro rfl
        rw [String.toList_ofList]
      · intro h
        rw [Utf8.encode_injective h, String.ofList_toList]

/-- Unescaping undoes one encoding. -/
@[simp] theorem unescape_encode (text : String) :
    unescape (String.ofList (encode text)) = .ok text := by
  rw [unescape_eq_ok_iff, String.toList_ofList]
  exact ⟨wellFormed_encode text, bytes_encode text⟩

/-- Each escape takes two bytes away. -/
theorem length_bytes {text : List Char} (h : WellFormed text) :
    (bytes text).length + 2 * text.count '%' = (Utf8.encode text).length := by
  induction h with
  | nil => rfl
  | @char c rest hc _ ih =>
    have hlength : (String.utf8EncodeChar (plusToSpace c)).length =
        (String.utf8EncodeChar c).length := by
      unfold plusToSpace
      split
      · next hplus => rw [hplus]; rfl
      · rfl
    rw [bytes_cons_of_ne hc, Utf8.encode_cons, List.length_append, List.length_append,
      List.count_cons_of_ne hc, hlength]
    omega
  | @escape high low h l rest hhigh hlow _ ih =>
    have h1 := ne_of_hexValue? hhigh (d := '%') (by decide)
    have h2 := ne_of_hexValue? hlow (d := '%') (by decide)
    rw [bytes_escape hhigh hlow, Utf8.encode_cons, Utf8.encode_cons, Utf8.encode_cons,
      Utf8.encodeChar_ascii (toNat_lt_of_hexValue? hhigh),
      Utf8.encodeChar_ascii (toNat_lt_of_hexValue? hlow), List.count_cons_self,
      List.count_cons_of_ne h1, List.count_cons_of_ne h2]
    simp only [List.length_cons, List.length_append, List.length_nil]
    have hpercent : (String.utf8EncodeChar '%').length = 1 := rfl
    omega

theorem bytes_of_not_mem {text : List Char} (h : '%' ∉ text) :
    bytes text = Utf8.encode (text.map plusToSpace) := by
  induction text with
  | nil => rfl
  | cons c text ih =>
    rw [List.mem_cons, not_or] at h
    rw [bytes_cons_of_ne (Ne.symm h.1), ih h.2]
    rfl

theorem map_plusToSpace_eq_self_iff {text : List Char} :
    text.map plusToSpace = text ↔ '+' ∉ text := by
  induction text with
  | nil => simp
  | cons c text ih =>
    have hc : plusToSpace c = c ↔ '+' ≠ c := by
      constructor
      · rintro h rfl
        exact absurd h (by decide)
      · exact fun h => plusToSpace_of_ne (Ne.symm h)
    rw [List.map_cons, List.cons.injEq, List.mem_cons, not_or, ih, hc]

/-- Unescaping leaves alone exactly the texts without `%` and `+`. -/
theorem unescape_eq_self_iff {text : String} :
    unescape text = .ok text ↔ '%' ∉ text.toList ∧ '+' ∉ text.toList := by
  rw [unescape_eq_ok_iff, ← map_plusToSpace_eq_self_iff]
  constructor
  · rintro ⟨hformed, hbytes⟩
    have hlength := length_bytes hformed
    rw [hbytes] at hlength
    have hpercent : '%' ∉ text.toList := List.count_eq_zero.mp (by omega)
    rw [bytes_of_not_mem hpercent] at hbytes
    exact ⟨hpercent, Utf8.encode_injective hbytes⟩
  · rintro ⟨hpercent, hplus⟩
    rw [bytes_of_not_mem hpercent, hplus]
    exact ⟨.of_not_mem hpercent, rfl⟩

/-- Only the empty text unescapes to the empty text. -/
theorem eq_empty_of_unescape {text : String} (h : unescape text = .ok "") : text = "" := by
  obtain ⟨hformed, hbytes⟩ := unescape_eq_ok_iff.mp h
  rw [← String.toList_eq_nil_iff]
  generalize text.toList = chars at hformed hbytes
  cases hformed with
  | nil => rfl
  | char hc _ =>
    rw [bytes_cons_of_ne hc] at hbytes
    exact absurd (List.append_eq_nil_iff.mp hbytes).1 String.utf8EncodeChar_ne_nil
  | escape hhigh hlow _ =>
    rw [bytes_escape hhigh hlow] at hbytes
    exact absurd hbytes (List.cons_ne_nil _ _)

end OAuthEndpoint.Form
