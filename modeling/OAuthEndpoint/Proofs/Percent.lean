import OAuthEndpoint.Percent
import OAuthEndpoint.Proofs.Text.Utf8

/-! Percent escapes one by one: what decoding makes of an escape and of any other byte, and
well formed text as a grammar of escapes and other characters (`wellFormed_iff`), which says no more
than that two digits follow every `%` (`wellFormed_iff_digitsFollow`). -/

namespace OAuthEndpoint.Percent

open Text

/-! ### Hexadecimal digits -/

theorem hexValue?_hexDigit : ∀ n < 16, hexValue? (hexDigit n) = some n := by decide

theorem hexValue?_cases {c : Char} {n : Nat} (h : hexValue? c = some n) :
    (48 ≤ c.toNat ∧ c.toNat ≤ 57 ∧ n = c.toNat - 48) ∨
      (97 ≤ c.toNat ∧ c.toNat ≤ 102 ∧ n = c.toNat - 97 + 10) ∨
      (65 ≤ c.toNat ∧ c.toNat ≤ 70 ∧ n = c.toNat - 65 + 10) := by
  have hle : ∀ a b : Char, a ≤ b → a.toNat ≤ b.toNat := fun _ _ hab =>
    UInt32.le_iff_toNat_le.mp hab
  unfold hexValue? at h
  split at h
  · next hc => exact .inl ⟨hle _ _ hc.1, hle _ _ hc.2, (Option.some.inj h).symm⟩
  split at h
  · next hc => exact .inr (.inl ⟨hle _ _ hc.1, hle _ _ hc.2, (Option.some.inj h).symm⟩)
  split at h
  · next hc => exact .inr (.inr ⟨hle _ _ hc.1, hle _ _ hc.2, (Option.some.inj h).symm⟩)
  · exact absurd h (by simp)

theorem toNat_lt_of_hexValue? {c : Char} {n : Nat} (h : hexValue? c = some n) :
    c.toNat < 0x80 := by
  have := hexValue?_cases h
  omega

/-- A character that is no digit differs from every digit. -/
theorem ne_of_hexValue? {c d : Char} {n : Nat} (h : hexValue? c = some n)
    (hd : hexValue? d = none) : c ≠ d := by
  rintro rfl
  rw [h] at hd
  cases hd

theorem byte?_ofNat {high low : Char} {h l : Nat} (hhigh : hexValue? high = some h)
    (hlow : hexValue? low = some l) :
    byte? (UInt8.ofNat high.toNat) (UInt8.ofNat low.toNat) = some (UInt8.ofNat (h * 16 + l)) := by
  have h1 := toNat_lt_of_hexValue? hhigh
  have h2 := toNat_lt_of_hexValue? hlow
  rw [byte?, Utf8.toNat_ofNat_byte (by omega), Utf8.toNat_ofNat_byte (by omega), Char.ofNat_toNat,
    Char.ofNat_toNat, hhigh, hlow]
  rfl

/-! ### Decoding -/

theorem decodeOnto_cons_of_ne {b : UInt8} (h : b ≠ 0x25) (decoded rest : List UInt8) :
    decodeOnto decoded (b :: rest) = decodeOnto (b :: decoded) rest := by
  rw [decodeOnto.eq_def]
  simp only [h, if_false]

theorem decodeOnto_escape {high low b : UInt8} (h : byte? high low = some b)
    (decoded rest : List UInt8) :
    decodeOnto decoded (0x25 :: high :: low :: rest) = decodeOnto (b :: decoded) rest := by
  rw [decodeOnto, if_pos rfl]
  simp only [h]

theorem decodeOnto_percent {high low : UInt8} (h : byte? high low = none)
    (decoded rest : List UInt8) :
    decodeOnto decoded (0x25 :: high :: low :: rest) =
      decodeOnto (0x25 :: decoded) (high :: low :: rest) := by
  rw [decodeOnto, if_pos rfl]
  simp only [h]

/-- The bytes decoded so far only stand before what the rest decodes to. -/
theorem decodeOnto_eq : (bytes decoded : List UInt8) →
    decodeOnto decoded bytes = decoded.reverse ++ decode bytes
  | [], decoded => by simp [decode, decodeOnto]
  | b :: rest, decoded => by
    by_cases hb : b = 0x25
    · subst hb
      match rest with
      | [] => simp [decode, decodeOnto]
      | [low] => simp [decode, decodeOnto]
      | high :: low :: tail =>
        rw [decode]
        cases h : byte? high low with
        | some byte =>
          rw [decodeOnto_escape h, decodeOnto_escape h, decodeOnto_eq tail,
            decodeOnto_eq tail [byte]]
          simp
        | none =>
          -- What follows the percent sign is read again, since it may begin an escape itself.
          rw [decodeOnto_percent h, decodeOnto_percent h, decodeOnto_eq (high :: low :: tail),
            decodeOnto_eq (high :: low :: tail) [0x25]]
          simp
    · rw [decode, decodeOnto_cons_of_ne hb, decodeOnto_cons_of_ne hb, decodeOnto_eq rest,
        decodeOnto_eq rest [b]]
      simp

@[simp] theorem decode_nil : decode [] = [] := rfl

theorem decode_cons_of_ne {b : UInt8} (h : b ≠ 0x25) (rest : List UInt8) :
    decode (b :: rest) = b :: decode rest := by
  rw [decode, decodeOnto_cons_of_ne h, decodeOnto_eq]
  rfl

theorem decode_append_of_ne {bytes : List UInt8} (h : ∀ b ∈ bytes, b ≠ 0x25)
    (rest : List UInt8) : decode (bytes ++ rest) = bytes ++ decode rest := by
  induction bytes with
  | nil => rfl
  | cons b bytes ih =>
    rw [List.cons_append, decode_cons_of_ne (h b List.mem_cons_self),
      ih fun a ha => h a (List.mem_cons_of_mem b ha), List.cons_append]

theorem decode_escape {high low b : UInt8} (h : byte? high low = some b) (rest : List UInt8) :
    decode (0x25 :: high :: low :: rest) = b :: decode rest := by
  rw [decode, decodeOnto_escape h, decodeOnto_eq]
  rfl

/-! ### Well formed text -/

/-- Text made of escapes and of characters other than `%`. -/
inductive WellFormed : List Char → Prop
  | nil : WellFormed []
  | char {c : Char} {rest : List Char} (h : c ≠ '%') (hrest : WellFormed rest) :
      WellFormed (c :: rest)
  | escape {high low : Char} {h l : Nat} {rest : List Char} (hhigh : hexValue? high = some h)
      (hlow : hexValue? low = some l) (hrest : WellFormed rest) :
      WellFormed ('%' :: high :: low :: rest)

theorem wellFormed_cons_of_ne {c : Char} (h : c ≠ '%') (rest : List Char) :
    wellFormed (c :: rest) = wellFormed rest := by
  rw [wellFormed.eq_def]
  simp only [h, if_false]

theorem wellFormed_escape {high low : Char} {h l : Nat} (hhigh : hexValue? high = some h)
    (hlow : hexValue? low = some l) (rest : List Char) :
    wellFormed ('%' :: high :: low :: rest) = wellFormed rest := by
  have h1 : high ≠ '%' := ne_of_hexValue? hhigh (by decide)
  have h2 : low ≠ '%' := ne_of_hexValue? hlow (by decide)
  rw [wellFormed, if_pos rfl]
  simp only [hhigh, hlow, Option.isSome_some, Bool.and_self, if_true]
  rw [wellFormed_cons_of_ne h1, wellFormed_cons_of_ne h2]

theorem WellFormed.of_wellFormed : (text : List Char) → wellFormed text = true → WellFormed text
  | [], _ => .nil
  | c :: rest, h => by
    by_cases hc : c = '%'
    · subst hc
      match rest with
      | [] => simp [wellFormed] at h
      | [_] => simp [wellFormed] at h
      | high :: low :: tail =>
        cases hhigh : hexValue? high with
        | none => simp [wellFormed, hhigh] at h
        | some n =>
          cases hlow : hexValue? low with
          | none => simp [wellFormed, hlow] at h
          | some m =>
            rw [wellFormed_escape hhigh hlow] at h
            exact .escape hhigh hlow (of_wellFormed tail h)
    · rw [wellFormed_cons_of_ne hc] at h
      exact .char hc (of_wellFormed rest h)

theorem wellFormed_iff {text : List Char} : wellFormed text = true ↔ WellFormed text := by
  constructor
  · exact WellFormed.of_wellFormed text
  · intro h
    induction h with
    | nil => rfl
    | char hc _ ih => rw [wellFormed_cons_of_ne hc, ih]
    | escape hhigh hlow _ ih => rw [wellFormed_escape hhigh hlow, ih]

theorem WellFormed.append {a b : List Char} (ha : WellFormed a) (hb : WellFormed b) :
    WellFormed (a ++ b) := by
  induction ha with
  | nil => exact hb
  | char hc _ ih => exact .char hc ih
  | escape hhigh hlow _ ih => exact .escape hhigh hlow ih

/-- No escape reaches over a character that is neither `%` nor a digit, so that what stands on
either side of it is well formed by itself. -/
theorem wellFormed_append_cons_iff {c : Char} (hpercent : c ≠ '%') (hdigit : hexValue? c = none)
    {before after : List Char} :
    WellFormed (before ++ c :: after) ↔ WellFormed before ∧ WellFormed after := by
  constructor
  · intro h
    generalize htext : before ++ c :: after = text at h
    induction h generalizing before with
    | nil => simp at htext
    | char hc hrest ih =>
      cases before with
      | nil =>
        rw [List.nil_append, List.cons.injEq] at htext
        rw [htext.2]
        exact ⟨.nil, hrest⟩
      | cons d before =>
        rw [List.cons_append, List.cons.injEq] at htext
        obtain ⟨rfl, htext⟩ := htext
        obtain ⟨hbefore, hafter⟩ := ih htext
        exact ⟨.char hc hbefore, hafter⟩
    | escape hhigh hlow hrest ih =>
      match before with
      | [] => exact absurd (List.cons.inj htext).1 hpercent
      | [_] =>
        simp only [List.cons_append, List.nil_append, List.cons.injEq] at htext
        exact absurd htext.2.1.symm (ne_of_hexValue? hhigh hdigit)
      | [_, _] =>
        simp only [List.cons_append, List.nil_append, List.cons.injEq] at htext
        exact absurd htext.2.2.1.symm (ne_of_hexValue? hlow hdigit)
      | _ :: _ :: _ :: before =>
        simp only [List.cons_append, List.cons.injEq] at htext
        obtain ⟨rfl, rfl, rfl, htext⟩ := htext
        obtain ⟨hbefore, hafter⟩ := ih htext
        exact ⟨.escape hhigh hlow hbefore, hafter⟩
  · rintro ⟨hbefore, hafter⟩
    exact hbefore.append (.char hpercent hafter)

theorem WellFormed.of_not_mem {text : List Char} (h : '%' ∉ text) : WellFormed text := by
  induction text with
  | nil => exact .nil
  | cons c text ih =>
    rw [List.mem_cons, not_or] at h
    exact .char (Ne.symm h.1) (ih h.2)

/-- Two hexadecimal digits follow every `%`, each `%` looked at by itself. -/
def DigitsFollow (text : List Char) : Prop :=
  ∀ before after, text = before ++ '%' :: after →
    ∃ high low rest, after = high :: low :: rest ∧
      (hexValue? high).isSome = true ∧ (hexValue? low).isSome = true

theorem digitsFollow_cons_iff {c : Char} {rest : List Char} :
    DigitsFollow (c :: rest) ↔
      (c = '%' → ∃ high low tail, rest = high :: low :: tail ∧
        (hexValue? high).isSome = true ∧ (hexValue? low).isSome = true) ∧ DigitsFollow rest := by
  constructor
  · intro h
    refine ⟨fun hc => h [] rest (by rw [hc]; rfl), fun before after htext => ?_⟩
    exact h (c :: before) after (by rw [htext]; rfl)
  · rintro ⟨hfirst, hrest⟩ before after htext
    cases before with
    | nil =>
      obtain ⟨rfl, rfl⟩ := List.cons.inj htext
      exact hfirst rfl
    | cons d before => exact hrest before after (List.cons.inj htext).2

/-- Looking at each `%` by itself finds the same texts as reading escapes one after the other. -/
theorem wellFormed_iff_digitsFollow {text : List Char} : WellFormed text ↔ DigitsFollow text := by
  rw [← wellFormed_iff]
  induction text with
  | nil => simp [wellFormed, DigitsFollow]
  | cons c rest ih =>
    rw [digitsFollow_cons_iff, ← ih]
    by_cases hc : c = '%'
    · subst hc
      match rest with
      | [] => simp [wellFormed]
      | [_] => simp [wellFormed]
      | high :: low :: tail =>
        have hdigits : (∃ high' low' tail', high :: low :: tail = high' :: low' :: tail' ∧
            (hexValue? high').isSome = true ∧ (hexValue? low').isSome = true) ↔
            (hexValue? high).isSome = true ∧ (hexValue? low).isSome = true :=
          ⟨by rintro ⟨_, _, _, ⟨⟩, h⟩; exact h, fun h => ⟨high, low, tail, rfl, h⟩⟩
        -- The check goes on right after the `%`, so that it looks at the two digits again.
        rw [wellFormed, if_pos rfl, hdigits]
        simp
    · rw [wellFormed_cons_of_ne hc]
      simp [hc]

/-! ### Encoding -/

theorem of_mem_escape {P : Char → Prop} (hpercent : P '%') (hdigit : ∀ n < 16, P (hexDigit n))
    {b : UInt8} : ∀ c ∈ escape b, P c := by
  have hb : b.toNat < 256 := b.toNat_lt
  have hhigh := hdigit (b.toNat / 16) (by omega)
  have hlow := hdigit (b.toNat % 16) (by omega)
  simp [escape, hpercent, hhigh, hlow]

/-- What is encoded holds the characters that are kept and those of escapes. -/
theorem of_mem_encode {P : Char → Prop} {keeps : Char → Bool} {text : List Char}
    (hpercent : P '%') (hdigit : ∀ n < 16, P (hexDigit n))
    (h : ∀ c ∈ text, keeps c = true → P c) : ∀ c ∈ encode keeps text, P c := by
  intro c hc
  obtain ⟨d, hd, hc⟩ := List.mem_flatMap.mp hc
  split at hc
  · next hkeeps =>
    rw [List.mem_singleton.mp hc]
    exact h d hd hkeeps
  · obtain ⟨b, -, hb⟩ := List.mem_flatMap.mp hc
    exact of_mem_escape hpercent hdigit c hb

theorem encode_ne_nil {keeps : Char → Bool} {text : List Char} (h : text ≠ []) :
    encode keeps text ≠ [] := by
  obtain ⟨c, rest, rfl⟩ := List.exists_cons_of_ne_nil h
  have hfirst : (if keeps c then [c] else escapeChar c) ≠ [] := by
    split
    · exact List.cons_ne_nil _ _
    · obtain ⟨b, bytes, hbytes⟩ := List.exists_cons_of_ne_nil (String.utf8EncodeChar_ne_nil (c := c))
      simp [escapeChar, hbytes, escape]
  exact List.append_ne_nil_of_left_ne_nil hfirst _

/-- Text of kept characters alone is not changed. -/
theorem encode_eq_self {keeps : Char → Bool} {text : List Char}
    (h : ∀ c ∈ text, keeps c = true) : encode keeps text = text := by
  induction text with
  | nil => rfl
  | cons c text ih =>
    have hrest := ih fun d hd => h d (List.mem_cons_of_mem c hd)
    rw [encode, List.flatMap_cons, if_pos (h c List.mem_cons_self)]
    exact congrArg (c :: ·) hrest

end OAuthEndpoint.Percent
