import OAuthEndpoint.Net.Ipv6

/-! Texts whose characters are all of one class.  Joining such texts leaves the class, and so does
writing numbers and addresses where it has the digits and the marks between them. -/

namespace OAuthEndpoint.Text

/-- A text of characters of one class alone. -/
def MadeOf (P : Char → Prop) (text : String) : Prop := ∀ c ∈ text.toList, P c

instance (P : Char → Prop) [DecidablePred P] : DecidablePred (MadeOf P) :=
  fun text => List.decidableBAll P text.toList

variable {P : Char → Prop} {a b : String}

theorem madeOf_ofList {text : List Char} : MadeOf P (String.ofList text) ↔ ∀ c ∈ text, P c := by
  rw [MadeOf, String.toList_ofList]

theorem madeOf_empty : MadeOf P "" := fun _ h => absurd h List.not_mem_nil

theorem madeOf_append_iff : MadeOf P (a ++ b) ↔ MadeOf P a ∧ MadeOf P b := by
  rw [MadeOf, String.toList_append, List.forall_mem_append]
  rfl

namespace MadeOf

theorem mono {Q : Char → Prop} (h : MadeOf P a) (himp : ∀ c, P c → Q c) : MadeOf Q a :=
  fun c hc => himp c (h c hc)

theorem of_subset (h : MadeOf P a) (hsub : MadeOf (· ∈ a.toList) b) : MadeOf P b :=
  fun c hc => h c (hsub c hc)

theorem append (ha : MadeOf P a) (hb : MadeOf P b) : MadeOf P (a ++ b) :=
  madeOf_append_iff.mpr ⟨ha, hb⟩

theorem join {texts : List String} (h : ∀ text ∈ texts, MadeOf P text) :
    MadeOf P (String.join texts) := by
  intro c hc
  rw [String.toList_join, List.mem_flatMap] at hc
  obtain ⟨text, htext, hc⟩ := hc
  exact h text htext c hc

theorem intercalate {sep : String} {texts : List String} (hsep : MadeOf P sep)
    (h : ∀ text ∈ texts, MadeOf P text) : MadeOf P (sep.intercalate texts) := by
  induction texts with
  | nil =>
    rw [String.intercalate_nil]
    exact madeOf_empty
  | cons text texts ih =>
    have hfirst := h text List.mem_cons_self
    by_cases hnil : texts = []
    · rw [hnil, String.intercalate_singleton]
      exact hfirst
    · rw [String.intercalate_cons_of_ne_nil hnil]
      exact (hfirst.append hsep).append (ih fun t ht => h t (List.mem_cons_of_mem text ht))

/-- A part that may be absent, with a mark before it where it is there. -/
theorem getD_map {part : Option String} {mark : String} (hmark : MadeOf P mark)
    (h : ∀ text ∈ part, MadeOf P text) : MadeOf P ((part.map (mark ++ ·)).getD "") := by
  cases part with
  | none => exact madeOf_empty
  | some text => exact hmark.append (h text rfl)

end MadeOf

/-! ### Numbers and addresses -/

/-- A number is written in its last digit and in those of the rest of it. -/
theorem of_mem_toDigits {base : Nat} (hone : 1 < base) (hdigit : ∀ n < base, P n.digitChar)
    (n : Nat) : ∀ c ∈ Nat.toDigits base n, P c := by
  induction n using Nat.strongRecOn with
  | ind n ih =>
    by_cases hlt : n < base
    · rw [Nat.toDigits_of_lt_base hlt]
      intro c hc
      rw [List.mem_singleton.mp hc]
      exact hdigit n hlt
    · rw [Nat.toDigits_of_base_le hone (by omega)]
      intro c hc
      rw [List.mem_append, List.mem_singleton] at hc
      rcases hc with hc | rfl
      · exact ih (n / base) (Nat.div_lt_self (by omega) hone) c hc
      · exact hdigit _ (Nat.mod_lt n (by omega))

theorem madeOf_toString (hdigit : ∀ n < 10, P n.digitChar) (n : Nat) : MadeOf P (toString n) := by
  rw [Nat.toString_eq_ofList_toDigits, madeOf_ofList]
  exact of_mem_toDigits (by decide) hdigit n

theorem madeOf_hexNumeral (hdigit : ∀ n < 16, P n.digitChar) (n : Nat) :
    MadeOf P (hexNumeral n) :=
  madeOf_ofList.mpr (of_mem_toDigits (by decide) hdigit n)

theorem madeOf_ipv4 (hdigit : ∀ n < 10, P n.digitChar) (hdot : P '.') (address : Net.Ipv4) :
    MadeOf P address.render := by
  refine MadeOf.intercalate (madeOf_ofList.mpr (List.forall_mem_singleton.mpr hdot)) ?_
  intro text htext
  obtain ⟨n, -, rfl⟩ := List.mem_map.mp htext
  exact madeOf_toString hdigit n

theorem madeOf_ipv6 (hdigit : ∀ n < 16, P n.digitChar) (hcolon : P ':') (address : Net.Ipv6) :
    MadeOf P address.render := by
  have hmark : MadeOf P ":" := madeOf_ofList.mpr (List.forall_mem_singleton.mpr hcolon)
  have hgroups : ∀ groups, MadeOf P (Net.Ipv6.renderGroups groups) := by
    intro groups
    refine MadeOf.intercalate hmark fun text htext => ?_
    obtain ⟨n, -, rfl⟩ := List.mem_map.mp htext
    exact madeOf_hexNumeral hdigit n
  unfold Net.Ipv6.render
  simp only
  split
  · exact ((hgroups _).append (hmark.append hmark)).append (hgroups _)
  · exact hgroups _

end OAuthEndpoint.Text
