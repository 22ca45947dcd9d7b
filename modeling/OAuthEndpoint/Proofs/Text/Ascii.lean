import OAuthEndpoint.Text.Ascii
import Mathlib.Data.List.TakeWhile

/-! ASCII characters, trimmed text and numerals.  Trimming loses none of the characters that are not
to be dropped (`mem_trim_iff`) and what it takes away stood at the ends (`exists_of_trim`).  The
digits of a number spell it (`numeral_toDigits`). -/

namespace OAuthEndpoint.Text

/-- What can be checked of every ASCII character. -/
theorem forall_ascii {P : Char → Prop} (h : ∀ n < 128, P (Char.ofNat n)) {c : Char}
    (hc : c.toNat < 128) : P c := by
  rw [← Char.ofNat_toNat c]
  exact h c.toNat hc

variable {drop : Char → Bool} {text : List Char}

theorem mem_dropWhile_iff {c : Char} (hc : drop c = false) :
    c ∈ text.dropWhile drop ↔ c ∈ text := by
  induction text with
  | nil => rfl
  | cons d text ih =>
    by_cases hd : drop d = true
    · have hne : c ≠ d := by
        rintro rfl
        rw [hc] at hd
        cases hd
      rw [List.dropWhile_cons_of_pos hd, ih, List.mem_cons, or_iff_right hne]
    · rw [List.dropWhile_cons_of_neg hd]

theorem mem_trim_iff {c : Char} (hc : drop c = false) : c ∈ trim drop text ↔ c ∈ text := by
  rw [trim, List.mem_reverse, mem_dropWhile_iff hc, List.mem_reverse, mem_dropWhile_iff hc]

theorem trim_subset (drop : Char → Bool) (text : List Char) : trim drop text ⊆ text := by
  intro c hc
  rw [trim, List.mem_reverse] at hc
  have hback := (List.dropWhile_sublist _).subset hc
  exact (List.dropWhile_sublist _).subset (List.mem_reverse.mp hback)

theorem dropWhile_eq_self (h : ∀ c ∈ text.head?, drop c = false) :
    text.dropWhile drop = text := by
  cases text with
  | nil => rfl
  | cons c text =>
    have hc : ¬drop c = true := by simp [h c rfl]
    exact List.dropWhile_cons_of_neg hc

/-- Text with nothing to drop stays as it is. -/
theorem trim_eq_self (h : ∀ c ∈ text, drop c = false) : trim drop text = text := by
  have hfront : text.dropWhile drop = text :=
    dropWhile_eq_self fun c hc => h c (List.mem_of_mem_head? hc)
  have hback : text.reverse.dropWhile drop = text.reverse :=
    dropWhile_eq_self fun c hc => h c (List.mem_reverse.mp (List.mem_of_mem_head? hc))
  rw [trim, hfront, hback, List.reverse_reverse]

/-- What trimming takes away stood at the ends and was to be dropped. -/
theorem exists_of_trim (drop : Char → Bool) (text : List Char) :
    ∃ before after, text = before ++ trim drop text ++ after ∧
      ∀ c ∈ before ++ after, drop c = true := by
  have hback : trim drop text ++ ((text.dropWhile drop).reverse.takeWhile drop).reverse =
      text.dropWhile drop := by
    rw [trim, ← List.reverse_append, List.takeWhile_append_dropWhile, List.reverse_reverse]
  refine ⟨text.takeWhile drop, ((text.dropWhile drop).reverse.takeWhile drop).reverse, ?_, ?_⟩
  · rw [List.append_assoc, hback, List.takeWhile_append_dropWhile]
  · intro c hc
    rcases List.mem_append.mp hc with hfront | hend
    · exact List.mem_takeWhile_imp hfront
    · exact List.mem_takeWhile_imp (List.mem_reverse.mp hend)

/-- Trimming takes all that is to be dropped away from text that holds nothing of it. -/
theorem trim_append {before kept after : List Char}
    (hends : ∀ c ∈ before ++ after, drop c = true) (hkept : ∀ c ∈ kept, drop c = false) :
    trim drop (before ++ kept ++ after) = kept := by
  rw [List.forall_mem_append] at hends
  obtain ⟨hbefore, hafter⟩ := hends
  rw [trim, List.append_assoc, List.dropWhile_append_of_pos hbefore]
  cases kept with
  | nil => rw [List.nil_append, List.dropWhile_eq_nil_iff.mpr hafter]; rfl
  | cons c kept =>
    have hfront : (c :: kept ++ after).dropWhile drop = c :: kept ++ after :=
      dropWhile_eq_self (by simpa using hkept c List.mem_cons_self)
    have hback : (c :: kept).reverse.dropWhile drop = (c :: kept).reverse :=
      dropWhile_eq_self fun d hd => hkept d (List.mem_reverse.mp (List.mem_of_mem_head? hd))
    rw [hfront, List.reverse_append,
      List.dropWhile_append_of_pos fun d hd => hafter d (List.mem_reverse.mp hd), hback,
      List.reverse_reverse]

/-! ### Numerals -/

theorem hexValue?_of_isDigit {c : Char} (h : c.isDigit = true) :
    hexValue? c = some (c.toNat - '0'.toNat) := by
  rw [Char.isDigit, Bool.and_eq_true] at h
  exact if_pos ⟨of_decide_eq_true h.1, of_decide_eq_true h.2⟩

theorem numeral_eq_ofDigitChars {digits : List Char} (h : ∀ c ∈ digits, c.isDigit = true) :
    numeral 10 digits = Nat.ofDigitChars 10 digits 0 := by
  suffices hfold : ∀ n, digits.foldl (fun n c => n * 10 + (hexValue? c).getD 0) n =
      Nat.ofDigitChars 10 digits n from hfold 0
  induction digits with
  | nil => exact fun _ => rfl
  | cons c digits ih =>
    intro n
    rw [List.foldl_cons, Nat.ofDigitChars_cons, hexValue?_of_isDigit (h c List.mem_cons_self),
      Option.getD_some, Nat.mul_comm n 10]
    exact ih (fun d hd => h d (List.mem_cons_of_mem c hd)) _

theorem isDigit_of_mem_toDigits {n : Nat} : ∀ c ∈ Nat.toDigits 10 n, c.isDigit = true :=
  fun _ => Nat.isDigit_of_mem_toDigits (by decide) (by decide)

theorem numeral_toDigits (n : Nat) : numeral 10 (Nat.toDigits 10 n) = n := by
  rw [numeral_eq_ofDigitChars isDigit_of_mem_toDigits, Nat.ofDigitChars_ten_toDigits]

end OAuthEndpoint.Text
