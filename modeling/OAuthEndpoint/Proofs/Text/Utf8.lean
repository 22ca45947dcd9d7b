import OAuthEndpoint.Text.Utf8

/-! Reading UTF-8 undoes writing it.  A byte string reads as a text with no malformed piece exactly
when the text is written as that byte string (`decode?_eq_some_iff`), so a lossy reading keeps the
well formed byte strings and no others (`encode_decodeLossy_iff`). -/

namespace OAuthEndpoint.Text.Utf8

@[simp] theorem encode_nil : encode [] = [] := rfl

@[simp] theorem encode_cons (c : Char) (text : List Char) :
    encode (c :: text) = String.utf8EncodeChar c ++ encode text := rfl

@[simp] theorem encode_append (a b : List Char) : encode (a ++ b) = encode a ++ encode b :=
  List.flatMap_append

/-! ### The bytes of one character -/

/-- The byte that continues a sequence with the lowest six bits of a number. -/
def tail (n : Nat) : UInt8 := UInt8.ofNat (n % 64 + 0x80)

theorem toNat_ofNat_byte {n : Nat} (h : n < 256) : (UInt8.ofNat n).toNat = n :=
  UInt8.toNat_ofNat_of_lt' h

@[simp] theorem toNat_tail (n : Nat) : (tail n).toNat = n % 64 + 0x80 :=
  toNat_ofNat_byte (by omega)

theorem toNat_ofNat_char {n : Nat} (h : n.isValidChar) : (Char.ofNat n).toNat = n := by
  rw [Char.ofNat, dif_pos h]
  rfl

theorem toNat_lt (c : Char) : c.toNat < 0x110000 := by
  have h : c.toNat < 55296 ∨ 57343 < c.toNat ∧ c.toNat < 1114112 := c.valid
  omega

theorem encodeChar_ascii {c : Char} (h : c.toNat < 0x80) :
    String.utf8EncodeChar c = [UInt8.ofNat c.toNat] := by
  rw [String.utf8EncodeChar, Char.toNat_val]
  simp only [show c.toNat ≤ 0x7F by omega, if_true]

theorem encodeChar_two {c : Char} (h1 : 0x80 ≤ c.toNat) (h2 : c.toNat < 0x800) :
    String.utf8EncodeChar c =
      [UInt8.ofNat (c.toNat / 64 + 0xC0), tail c.toNat] := by
  rw [String.utf8EncodeChar, Char.toNat_val]
  simp only [show ¬c.toNat ≤ 0x7F by omega, show c.toNat ≤ 0x7FF by omega, if_true, if_false,
    show c.toNat / 64 % 0x20 = c.toNat / 64 by omega]
  rfl

theorem encodeChar_three {c : Char} (h1 : 0x800 ≤ c.toNat) (h2 : c.toNat < 0x10000) :
    String.utf8EncodeChar c =
      [UInt8.ofNat (c.toNat / 4096 + 0xE0), tail (c.toNat / 64), tail c.toNat] := by
  rw [String.utf8EncodeChar, Char.toNat_val]
  simp only [show ¬c.toNat ≤ 0x7F by omega, show ¬c.toNat ≤ 0x7FF by omega,
    show c.toNat ≤ 0xFFFF by omega, if_true, if_false,
    show c.toNat / 4096 % 0x10 = c.toNat / 4096 by omega]
  rfl

theorem encodeChar_four {c : Char} (h : 0x10000 ≤ c.toNat) :
    String.utf8EncodeChar c =
      [UInt8.ofNat (c.toNat / 262144 + 0xF0), tail (c.toNat / 4096), tail (c.toNat / 64),
        tail c.toNat] := by
  have hlt := toNat_lt c
  rw [String.utf8EncodeChar, Char.toNat_val]
  simp only [show ¬c.toNat ≤ 0x7F by omega, show ¬c.toNat ≤ 0x7FF by omega,
    show ¬c.toNat ≤ 0xFFFF by omega, if_false,
    show c.toNat / 262144 % 0x08 = c.toNat / 262144 by omega]
  rfl

/-- A byte in the range of tails is the tail of its bits, whatever bits stand before them. -/
theorem tail_mul_add {b : UInt8} (h1 : 0x80 ≤ b.toNat) (h2 : b.toNat ≤ 0xBF) (n : Nat) :
    tail (n * 64 + (b.toNat - 0x80)) = b := by
  apply UInt8.toNat_inj.mp
  rw [toNat_tail]
  omega

/-- No byte of a character beyond ASCII is ASCII. -/
theorem encodeChar_ge {c : Char} (h : 0x80 ≤ c.toNat) :
    ∀ b ∈ String.utf8EncodeChar c, 0x80 ≤ b.toNat := by
  have hlt := toNat_lt c
  by_cases h2 : c.toNat < 0x800
  · rw [encodeChar_two h h2]
    refine List.forall_mem_cons.mpr ⟨?_, by simp⟩
    rw [toNat_ofNat_byte (by omega)]
    omega
  by_cases h3 : c.toNat < 0x10000
  · rw [encodeChar_three (by omega) h3]
    refine List.forall_mem_cons.mpr ⟨?_, by simp⟩
    rw [toNat_ofNat_byte (by omega)]
    omega
  · rw [encodeChar_four (by omega)]
    refine List.forall_mem_cons.mpr ⟨?_, by simp⟩
    rw [toNat_ofNat_byte (by omega)]
    omega

/-- No byte of another character is that of an ASCII character. -/
theorem ne_of_mem_encodeChar {c d : Char} (hd : d.toNat < 0x80) (h : c ≠ d) :
    ∀ b ∈ String.utf8EncodeChar c, b ≠ UInt8.ofNat d.toNat := by
  intro b hb
  by_cases hascii : c.toNat < 0x80
  · rw [encodeChar_ascii hascii, List.mem_singleton] at hb
    rintro rfl
    have hc := congrArg UInt8.toNat hb
    rw [toNat_ofNat_byte (by omega), toNat_ofNat_byte (by omega)] at hc
    exact h (Char.toNat_inj.mp hc.symm)
  · rintro rfl
    have hge := encodeChar_ge (by omega) _ hb
    rw [toNat_ofNat_byte (by omega)] at hge
    omega

/-! ### One byte -/

theorem not_lt_of_toNat_le {b limit : UInt8} (h : limit.toNat ≤ b.toNat) : ¬b < limit := by
  rw [UInt8.lt_iff_toNat_lt]
  exact Nat.not_lt.mpr h

namespace Pending

theorem ofLead?_two {b : UInt8} (h1 : 0xC2 ≤ b.toNat) (h2 : b.toNat < 0xE0) :
    ofLead? b = some ⟨b.toNat - 0xC0, 1, 0x80, 0xBF⟩ := by
  have hlow : ¬b < 0xC2 := not_lt_of_toNat_le h1
  have hhigh : b < 0xE0 := UInt8.lt_iff_toNat_lt.mpr h2
  rw [ofLead?, if_neg hlow, if_pos hhigh]

theorem ofLead?_three {b : UInt8} (h1 : 0xE0 ≤ b.toNat) (h2 : b.toNat < 0xF0) :
    ofLead? b = some ⟨b.toNat - 0xE0, 2, if b.toNat = 0xE0 then 0xA0 else 0x80,
      if b.toNat = 0xED then 0x9F else 0xBF⟩ := by
  have hlow : ¬b < 0xC2 := not_lt_of_toNat_le (show 0xC2 ≤ b.toNat by omega)
  have htwo : ¬b < 0xE0 := not_lt_of_toNat_le h1
  have hhigh : b < 0xF0 := UInt8.lt_iff_toNat_lt.mpr h2
  rw [ofLead?, if_neg hlow, if_neg htwo]
  by_cases hE0 : b = 0xE0
  · subst hE0; rfl
  · by_cases hED : b = 0xED
    · subst hED; rfl
    · have hE0' : ¬b.toNat = 0xE0 := fun h => hE0 (UInt8.toNat_inj.mp h)
      have hED' : ¬b.toNat = 0xED := fun h => hED (UInt8.toNat_inj.mp h)
      rw [if_neg hE0, if_neg hED, if_pos hhigh, if_neg hE0', if_neg hED']

theorem ofLead?_four {b : UInt8} (h1 : 0xF0 ≤ b.toNat) (h2 : b.toNat < 0xF5) :
    ofLead? b = some ⟨b.toNat - 0xF0, 3, if b.toNat = 0xF0 then 0x90 else 0x80,
      if b.toNat = 0xF4 then 0x8F else 0xBF⟩ := by
  have hlow : ¬b < 0xC2 := not_lt_of_toNat_le (show 0xC2 ≤ b.toNat by omega)
  have htwo : ¬b < 0xE0 := not_lt_of_toNat_le (show 0xE0 ≤ b.toNat by omega)
  have hthree : ¬b < 0xF0 := not_lt_of_toNat_le h1
  have hE0 : b ≠ 0xE0 := by rintro rfl; exact hthree (by decide)
  have hED : b ≠ 0xED := by rintro rfl; exact hthree (by decide)
  rw [ofLead?, if_neg hlow, if_neg htwo, if_neg hE0, if_neg hED, if_neg hthree]
  by_cases hF0 : b = 0xF0
  · subst hF0; rfl
  · by_cases hF4 : b = 0xF4
    · subst hF4; rfl
    · have hF0' : ¬b.toNat = 0xF0 := fun h => hF0 (UInt8.toNat_inj.mp h)
      have hF4' : ¬b.toNat = 0xF4 := fun h => hF4 (UInt8.toNat_inj.mp h)
      have hhigh : b < 0xF4 := UInt8.lt_iff_toNat_lt.mpr (show b.toNat < 0xF4 by omega)
      rw [if_neg hF0, if_pos hhigh, if_neg hF0', if_neg hF4']

/-- No other byte leads a sequence. -/
theorem toNat_of_ofLead? {b : UInt8} {pending : Pending} (h : ofLead? b = some pending) :
    0xC2 ≤ b.toNat ∧ b.toNat < 0xF5 := by
  have hlow : ¬b < 0xC2 := by intro hb; simp [ofLead?, hb] at h
  refine ⟨Nat.not_lt.mp fun hb => hlow (UInt8.lt_iff_toNat_lt.mpr hb), ?_⟩
  refine Nat.lt_of_not_le fun hb => ?_
  have hge : ∀ limit : UInt8, limit.toNat < 0xF5 → ¬b < limit ∧ b ≠ limit := by
    intro limit hlimit
    refine ⟨fun hlt => ?_, fun heq => ?_⟩
    · have := UInt8.lt_iff_toNat_lt.mp hlt
      omega
    · rw [heq] at hb
      omega
  simp [ofLead?, hge 0xC2 (by decide), hge 0xE0 (by decide), hge 0xED (by decide),
    hge 0xF0 (by decide), hge 0xF4 (by decide)] at h

end Pending

namespace Reading

theorem step_ascii (read : List (Option Char)) {b : UInt8} (h : b.toNat < 0x80) :
    step ⟨read, none⟩ b = ⟨some (Char.ofNat b.toNat) :: read, none⟩ := by
  rw [step, start, if_pos (UInt8.lt_iff_toNat_lt.mpr h)]

theorem step_lead (read : List (Option Char)) {b : UInt8} {pending : Pending}
    (h : Pending.ofLead? b = some pending) : step ⟨read, none⟩ b = ⟨read, some pending⟩ := by
  have hb := (Pending.toNat_of_ofLead? h).1
  have hascii : ¬b < 0x80 := not_lt_of_toNat_le (show 0x80 ≤ b.toNat by omega)
  simp only [step, start, hascii, if_false, h]

theorem step_more (read : List (Option Char)) {pending : Pending} {b : UInt8}
    (h1 : pending.low.toNat ≤ b.toNat) (h2 : b.toNat ≤ pending.high.toNat)
    (hmissing : pending.missing ≠ 1) :
    step ⟨read, some pending⟩ b = ⟨read,
      some ⟨pending.bits * 64 + (b.toNat - 0x80), pending.missing - 1, 0x80, 0xBF⟩⟩ := by
  have hrange : pending.low ≤ b ∧ b ≤ pending.high :=
    ⟨UInt8.le_iff_toNat_le.mpr h1, UInt8.le_iff_toNat_le.mpr h2⟩
  simp only [step, hrange, and_self, if_true, hmissing, if_false]

theorem step_last (read : List (Option Char)) {pending : Pending} {b : UInt8}
    (h1 : pending.low.toNat ≤ b.toNat) (h2 : b.toNat ≤ pending.high.toNat)
    (hmissing : pending.missing = 1) :
    step ⟨read, some pending⟩ b =
      ⟨some (Char.ofNat (pending.bits * 64 + (b.toNat - 0x80))) :: read, none⟩ := by
  have hrange : pending.low ≤ b ∧ b ≤ pending.high :=
    ⟨UInt8.le_iff_toNat_le.mpr h1, UInt8.le_iff_toNat_le.mpr h2⟩
  simp only [step, hrange, and_self, if_true, hmissing]

theorem step_more_tail (read : List (Option Char)) {pending : Pending} {n : Nat}
    (h1 : pending.low.toNat ≤ n % 64 + 0x80) (h2 : n % 64 + 0x80 ≤ pending.high.toNat)
    (hmissing : pending.missing ≠ 1) :
    step ⟨read, some pending⟩ (tail n) =
      ⟨read, some ⟨pending.bits * 64 + n % 64, pending.missing - 1, 0x80, 0xBF⟩⟩ := by
  have h := step_more read (b := tail n) (by simpa using h1) (by simpa using h2) hmissing
  rwa [toNat_tail, Nat.add_sub_cancel] at h

theorem step_last_tail (read : List (Option Char)) {pending : Pending} {n : Nat}
    (h1 : pending.low.toNat ≤ n % 64 + 0x80) (h2 : n % 64 + 0x80 ≤ pending.high.toNat)
    (hmissing : pending.missing = 1) :
    step ⟨read, some pending⟩ (tail n) =
      ⟨some (Char.ofNat (pending.bits * 64 + n % 64)) :: read, none⟩ := by
  have h := step_last read (b := tail n) (by simpa using h1) (by simpa using h2) hmissing
  rwa [toNat_tail, Nat.add_sub_cancel] at h

/-- The bytes of a character are read as that character. -/
theorem foldl_step_encodeChar (read : List (Option Char)) (c : Char) :
    (String.utf8EncodeChar c).foldl step ⟨read, none⟩ = ⟨some c :: read, none⟩ := by
  have hvalid : c.toNat < 0xD800 ∨ 0xDFFF < c.toNat ∧ c.toNat < 0x110000 := c.valid
  by_cases h1 : c.toNat < 0x80
  · have ha := toNat_ofNat_byte (show c.toNat < 256 by omega)
    rw [encodeChar_ascii h1, List.foldl_cons, step_ascii read (by omega), ha, Char.ofNat_toNat]
    rfl
  by_cases h2 : c.toNat < 0x800
  · have ha := toNat_ofNat_byte (show c.toNat / 64 + 0xC0 < 256 by omega)
    rw [encodeChar_two (by omega) h2, List.foldl_cons, List.foldl_cons,
      step_lead read (Pending.ofLead?_two (by omega) (by omega)),
      step_last_tail read (show 0x80 ≤ _ by omega) (show _ ≤ 0xBF by omega) rfl, ha,
      show (c.toNat / 64 + 0xC0 - 0xC0) * 64 + c.toNat % 64 = c.toNat by omega, Char.ofNat_toNat]
    rfl
  by_cases h3 : c.toNat < 0x10000
  · have ha := toNat_ofNat_byte (show c.toNat / 4096 + 0xE0 < 256 by omega)
    rw [encodeChar_three (by omega) h3, List.foldl_cons, List.foldl_cons, List.foldl_cons,
      step_lead read (Pending.ofLead?_three (by omega) (by omega)), ha,
      step_more_tail read (by dsimp only; split <;> simp <;> omega)
        (by dsimp only; split <;> simp <;> omega) (by simp),
      step_last_tail read (show 0x80 ≤ _ by omega) (show _ ≤ 0xBF by omega) rfl]
    dsimp only
    rw [show ((c.toNat / 4096 + 0xE0 - 0xE0) * 64 + c.toNat / 64 % 64) * 64 + c.toNat % 64 =
      c.toNat by omega, Char.ofNat_toNat]
    rfl
  · have ha := toNat_ofNat_byte (show c.toNat / 262144 + 0xF0 < 256 by omega)
    rw [encodeChar_four (by omega), List.foldl_cons, List.foldl_cons, List.foldl_cons,
      List.foldl_cons, step_lead read (Pending.ofLead?_four (by omega) (by omega)), ha,
      step_more_tail read (by dsimp only; split <;> simp <;> omega)
        (by dsimp only; split <;> simp <;> omega) (by simp),
      step_more_tail read (show 0x80 ≤ _ by omega) (show _ ≤ 0xBF by omega) (by simp),
      step_last_tail read (show 0x80 ≤ _ by omega) (show _ ≤ 0xBF by omega) rfl]
    dsimp only
    rw [show (((c.toNat / 262144 + 0xF0 - 0xF0) * 64 + c.toNat / 4096 % 64) * 64 +
      c.toNat / 64 % 64) * 64 + c.toNat % 64 = c.toNat by omega, Char.ofNat_toNat]
    rfl

end Reading

/-! ### Text that was written -/

theorem foldl_step_encode (read : List (Option Char)) (text : List Char) :
    (encode text).foldl Reading.step ⟨read, none⟩ = ⟨(text.map some).reverse ++ read, none⟩ := by
  induction text generalizing read with
  | nil => rfl
  | cons c text ih =>
    rw [encode_cons, List.foldl_append, Reading.foldl_step_encodeChar, ih]
    simp

/-- A text that was written has no malformed piece. -/
theorem pieces_encode (text : List Char) : pieces (encode text) = text.map some := by
  rw [pieces, Reading.empty, foldl_step_encode]
  simp [Reading.finish]

@[simp] theorem decodeLossy_encode (text : List Char) : decodeLossy (encode text) = text := by
  rw [decodeLossy, pieces_encode, List.map_map]
  exact List.map_id text

/-! ### Bytes that were read -/

/-- The bytes of a sequence that has begun: its lead and the tails so far, as the bits that it holds
tell them. -/
inductive Pending.Begun : Pending → List UInt8 → Prop
  | oneOfTwo {n : Nat} (h1 : 2 ≤ n) (h2 : n < 0x20) :
      Begun ⟨n, 1, 0x80, 0xBF⟩ [UInt8.ofNat (n + 0xC0)]
  | oneOfThree {n : Nat} {low high : UInt8} (h : n < 0x10) (hlow : 0x80 ≤ low.toNat)
      (hhigh : high.toNat ≤ 0xBF) (hzero : n = 0 → 0xA0 ≤ low.toNat)
      (hsurrogate : n = 0xD → high.toNat ≤ 0x9F) :
      Begun ⟨n, 2, low, high⟩ [UInt8.ofNat (n + 0xE0)]
  | twoOfThree {n : Nat} (h1 : 0x20 ≤ n) (h2 : n < 0x400) (hsurrogate : n < 0x360 ∨ 0x380 ≤ n) :
      Begun ⟨n, 1, 0x80, 0xBF⟩ [UInt8.ofNat (n / 64 + 0xE0), tail n]
  | oneOfFour {n : Nat} {low high : UInt8} (h : n < 5) (hlow : 0x80 ≤ low.toNat)
      (hhigh : high.toNat ≤ 0xBF) (hzero : n = 0 → 0x90 ≤ low.toNat)
      (hlast : n = 4 → high.toNat ≤ 0x8F) :
      Begun ⟨n, 3, low, high⟩ [UInt8.ofNat (n + 0xF0)]
  | twoOfFour {n : Nat} (h1 : 0x10 ≤ n) (h2 : n < 0x110) :
      Begun ⟨n, 2, 0x80, 0xBF⟩ [UInt8.ofNat (n / 64 + 0xF0), tail n]
  | threeOfFour {n : Nat} (h1 : 0x400 ≤ n) (h2 : n < 0x4400) :
      Begun ⟨n, 1, 0x80, 0xBF⟩ [UInt8.ofNat (n / 4096 + 0xF0), tail (n / 64), tail n]

namespace Pending.Begun

theorem ofLead? {b : UInt8} {pending : Pending} (h : Pending.ofLead? b = some pending) :
    Begun pending [b] := by
  obtain ⟨h1, h2⟩ := toNat_of_ofLead? h
  have hb : ∀ base : Nat, base ≤ b.toNat → UInt8.ofNat (b.toNat - base + base) = b := by
    intro base hbase
    rw [Nat.sub_add_cancel hbase, UInt8.ofNat_toNat]
  by_cases htwo : b.toNat < 0xE0
  · rw [ofLead?_two h1 htwo, Option.some.injEq] at h
    subst h
    have := oneOfTwo (n := b.toNat - 0xC0) (by omega) (by omega)
    rwa [hb 0xC0 (by omega)] at this
  by_cases hthree : b.toNat < 0xF0
  · rw [ofLead?_three (by omega) hthree, Option.some.injEq] at h
    subst h
    have := @oneOfThree (b.toNat - 0xE0) (if b.toNat = 0xE0 then 0xA0 else 0x80)
      (if b.toNat = 0xED then 0x9F else 0xBF) (by omega) (by split <;> simp)
      (by split <;> simp) (fun _ => by rw [if_pos (by omega)]; simp)
      (fun _ => by rw [if_pos (by omega)]; simp)
    rwa [hb 0xE0 (by omega)] at this
  · rw [ofLead?_four (by omega) h2, Option.some.injEq] at h
    subst h
    have := @oneOfFour (b.toNat - 0xF0) (if b.toNat = 0xF0 then 0x90 else 0x80)
      (if b.toNat = 0xF4 then 0x8F else 0xBF) (by omega) (by split <;> simp)
      (by split <;> simp) (fun _ => by rw [if_pos (by omega)]; simp)
      (fun _ => by rw [if_pos (by omega)]; simp)
    rwa [hb 0xF0 (by omega)] at this

variable {pending : Pending} {bytes : List UInt8} {b : UInt8}

theorem more (h : Begun pending bytes) (hlow : pending.low.toNat ≤ b.toNat)
    (hhigh : b.toNat ≤ pending.high.toNat) (hmissing : pending.missing ≠ 1) :
    Begun ⟨pending.bits * 64 + (b.toNat - 0x80), pending.missing - 1, 0x80, 0xBF⟩
      (bytes ++ [b]) := by
  cases h with
  | oneOfTwo | twoOfThree | threeOfFour => exact absurd rfl hmissing
  | @oneOfThree n low high hn hlow' hhigh' hzero hsurrogate =>
    dsimp only at hlow hhigh ⊢
    have := twoOfThree (n := n * 64 + (b.toNat - 0x80)) (by omega) (by omega) (by omega)
    rwa [tail_mul_add (by omega) (by omega),
      show (n * 64 + (b.toNat - 0x80)) / 64 = n by omega] at this
  | @oneOfFour n low high hn hlow' hhigh' hzero hlast =>
    dsimp only at hlow hhigh ⊢
    have := twoOfFour (n := n * 64 + (b.toNat - 0x80)) (by omega) (by omega)
    rwa [tail_mul_add (by omega) (by omega),
      show (n * 64 + (b.toNat - 0x80)) / 64 = n by omega] at this
  | @twoOfFour n h1 h2 =>
    have hlow' : 0x80 ≤ b.toNat := hlow
    have hhigh' : b.toNat ≤ 0xBF := hhigh
    have := threeOfFour (n := n * 64 + (b.toNat - 0x80)) (by omega) (by omega)
    rwa [tail_mul_add hlow' hhigh',
      show (n * 64 + (b.toNat - 0x80)) / 64 = n by omega,
      show (n * 64 + (b.toNat - 0x80)) / 4096 = n / 64 by omega] at this

/-- The byte that ends a sequence makes it the bytes of its character. -/
theorem last (h : Begun pending bytes) (hlow : pending.low.toNat ≤ b.toNat)
    (hhigh : b.toNat ≤ pending.high.toNat) (hmissing : pending.missing = 1) :
    String.utf8EncodeChar (Char.ofNat (pending.bits * 64 + (b.toNat - 0x80))) = bytes ++ [b] := by
  cases h with
  | oneOfThree | oneOfFour | twoOfFour => exact absurd hmissing (by simp)
  | @oneOfTwo n h1 h2 =>
    have hlow' : 0x80 ≤ b.toNat := hlow
    have hhigh' : b.toNat ≤ 0xBF := hhigh
    have hc := toNat_ofNat_char (n := n * 64 + (b.toNat - 0x80)) (Or.inl (by omega))
    dsimp only
    rw [encodeChar_two (by omega) (by omega), hc, tail_mul_add hlow' hhigh',
      show (n * 64 + (b.toNat - 0x80)) / 64 = n by omega]
    rfl
  | @twoOfThree n h1 h2 hsurrogate =>
    have hlow' : 0x80 ≤ b.toNat := hlow
    have hhigh' : b.toNat ≤ 0xBF := hhigh
    have hc := toNat_ofNat_char (n := n * 64 + (b.toNat - 0x80))
      (by show _ ∨ _; omega)
    dsimp only
    rw [encodeChar_three (by omega) (by omega), hc, tail_mul_add hlow' hhigh',
      show (n * 64 + (b.toNat - 0x80)) / 64 = n by omega,
      show (n * 64 + (b.toNat - 0x80)) / 4096 = n / 64 by omega]
    rfl
  | @threeOfFour n h1 h2 =>
    have hlow' : 0x80 ≤ b.toNat := hlow
    have hhigh' : b.toNat ≤ 0xBF := hhigh
    have hc := toNat_ofNat_char (n := n * 64 + (b.toNat - 0x80)) (Or.inr (by omega))
    dsimp only
    rw [encodeChar_four (by omega), hc, tail_mul_add hlow' hhigh',
      show (n * 64 + (b.toNat - 0x80)) / 64 = n by omega,
      show (n * 64 + (b.toNat - 0x80)) / 4096 = n / 64 by omega,
      show (n * 64 + (b.toNat - 0x80)) / 262144 = n / 4096 by omega]
    rfl

end Pending.Begun

namespace Reading

/-- Where nothing malformed was read from `bytes`, they are the text read so far and the sequence that
has begun. -/
def Follows (reading : Reading) (bytes : List UInt8) : Prop :=
  ∀ text, reading.read.reverse = text.map some → ∃ begun, bytes = encode text ++ begun ∧
    match reading.pending with
    | none => begun = []
    | some pending => pending.Begun begun

theorem follows_malformed (read : List (Option Char)) (pending : Option Pending)
    (bytes : List UInt8) : Follows ⟨none :: read, pending⟩ bytes := by
  intro text htext
  have hmem : none ∈ text.map some := by
    rw [← htext]
    simp
  simp at hmem

theorem follows_char {read : List (Option Char)} {bytes : List UInt8} {c : Char}
    (h : ∀ text, read.reverse = text.map some → bytes = encode text ++ String.utf8EncodeChar c) :
    Follows ⟨some c :: read, none⟩ bytes := by
  intro text htext
  rw [List.reverse_cons, eq_comm, List.map_eq_append_iff] at htext
  obtain ⟨text, last, rfl, hread, hlast⟩ := htext
  obtain ⟨d, rfl, hd⟩ := List.map_eq_singleton_iff.mp hlast
  obtain rfl := Option.some.inj hd
  exact ⟨[], by simp [h text hread.symm], rfl⟩

theorem follows_start {read : List (Option Char)} {bytes : List UInt8}
    (h : Follows ⟨read, none⟩ bytes) (b : UInt8) : Follows (start read b) (bytes ++ [b]) := by
  have hbytes : ∀ text, read.reverse = text.map some → bytes = encode text := by
    intro text htext
    obtain ⟨begun, hbytes, rfl⟩ := h text htext
    rw [hbytes, List.append_nil]
  rw [start]
  split
  · next hb =>
    have hb' : b.toNat < 0x80 := UInt8.lt_iff_toNat_lt.mp hb
    have hc := toNat_ofNat_char (n := b.toNat) (Or.inl (by omega))
    refine follows_char fun text htext => ?_
    rw [encodeChar_ascii (by omega), hc, UInt8.ofNat_toNat, hbytes text htext]
  · split
    · exact follows_malformed _ _ _
    · next pending hpending =>
      intro text htext
      exact ⟨[b], by rw [hbytes text htext], .ofLead? hpending⟩

/-- Each byte keeps what a reading says of the bytes before it. -/
theorem Follows.step {reading : Reading} {bytes : List UInt8} (h : reading.Follows bytes)
    (b : UInt8) : (reading.step b).Follows (bytes ++ [b]) := by
  obtain ⟨read, pending⟩ := reading
  cases pending with
  | none => exact follows_start h b
  | some pending =>
    by_cases hrange : pending.low ≤ b ∧ b ≤ pending.high
    · have hlow := UInt8.le_iff_toNat_le.mp hrange.1
      have hhigh := UInt8.le_iff_toNat_le.mp hrange.2
      by_cases hmissing : pending.missing = 1
      · rw [step_last read hlow hhigh hmissing]
        refine follows_char fun text htext => ?_
        obtain ⟨begun, hbytes, hbegun⟩ := h text htext
        rw [hbytes, hbegun.last hlow hhigh hmissing, List.append_assoc]
      · rw [step_more read hlow hhigh hmissing]
        intro text htext
        obtain ⟨begun, hbytes, hbegun⟩ := h text htext
        exact ⟨begun ++ [b], by rw [hbytes, List.append_assoc], hbegun.more hlow hhigh hmissing⟩
    · rw [Reading.step]
      simp only [hrange, if_false]
      exact follows_start (follows_malformed _ _ _) b

theorem follows_foldl {reading : Reading} {before : List UInt8} (h : reading.Follows before)
    (bytes : List UInt8) : (bytes.foldl Reading.step reading).Follows (before ++ bytes) := by
  induction bytes generalizing reading before with
  | nil => simpa using h
  | cons b bytes ih =>
    rw [List.foldl_cons, List.append_cons]
    exact ih (h.step b)

end Reading

theorem encode_of_pieces {bytes : List UInt8} {text : List Char}
    (h : pieces bytes = text.map some) : encode text = bytes := by
  have hstart : Reading.empty.Follows [] := by
    intro text htext
    obtain rfl := List.map_eq_nil_iff.mp htext.symm
    exact ⟨[], rfl, rfl⟩
  have hfollows := Reading.follows_foldl hstart bytes
  rw [List.nil_append] at hfollows
  rw [pieces, Reading.finish] at h
  split at h
  · next hpending =>
    obtain ⟨begun, hbytes, hbegun⟩ := hfollows text h
    rw [hpending] at hbegun
    rw [hbytes, hbegun, List.append_nil]
  · have hmem : none ∈ text.map some := by
      rw [← h]
      simp
    simp at hmem

/-! ### Well formed byte strings -/

theorem mapM_id_eq_some_iff {pieces : List (Option Char)} {text : List Char} :
    pieces.mapM id = some text ↔ pieces = text.map some := by
  induction pieces generalizing text with
  | nil => cases text <;> simp
  | cons piece pieces ih =>
    rw [List.mapM_cons]
    cases piece with
    | none => cases text <;> simp
    | some c =>
      cases text with
      | nil => cases pieces.mapM id <;> simp
      | cons d text =>
        have hrest := @ih text
        cases h : pieces.mapM id <;> simp_all

/-- A byte string reads as a text exactly when the text is written as it. -/
theorem decode?_eq_some_iff {bytes : List UInt8} {text : List Char} :
    decode? bytes = some text ↔ encode text = bytes := by
  rw [decode?, mapM_id_eq_some_iff]
  constructor
  · exact encode_of_pieces
  · rintro rfl
    exact pieces_encode text

@[simp] theorem decode?_encode (text : List Char) : decode? (encode text) = some text :=
  decode?_eq_some_iff.mpr rfl

theorem encode_injective {a b : List Char} (h : encode a = encode b) : a = b := by
  have ha := decode?_encode a
  rw [h, decode?_encode] at ha
  exact (Option.some.inj ha).symm

/-- A byte string is well formed exactly when it is some text as it is written. -/
theorem isValidUTF8_iff {bytes : List UInt8} :
    bytes.toByteArray.IsValidUTF8 ↔ ∃ text, encode text = bytes := by
  constructor
  · rintro ⟨text, htext⟩
    exact ⟨text, (List.toByteArray_inj.mp htext).symm⟩
  · rintro ⟨text, rfl⟩
    exact ⟨text, rfl⟩

theorem decode?_eq_none_iff {bytes : List UInt8} :
    decode? bytes = none ↔ ¬bytes.toByteArray.IsValidUTF8 := by
  rw [isValidUTF8_iff, Option.eq_none_iff_forall_ne_some]
  simp only [ne_eq, decode?_eq_some_iff, not_exists]

/-- A lossy reading keeps the bytes of well formed strings and changes all others. -/
theorem encode_decodeLossy_iff {bytes : List UInt8} :
    encode (decodeLossy bytes) = bytes ↔ bytes.toByteArray.IsValidUTF8 := by
  rw [isValidUTF8_iff]
  constructor
  · exact fun h => ⟨_, h⟩
  · rintro ⟨text, rfl⟩
    rw [decodeLossy_encode]

end OAuthEndpoint.Text.Utf8
