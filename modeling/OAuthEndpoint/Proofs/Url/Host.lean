import OAuthEndpoint.Proofs.Url.Visible

/-! Hosts as they are written.  Whatever text a host was read from, it is written as a visible name
without the marks that end one, or as an address in brackets (`Host.isHostText_of_parse`). -/

namespace OAuthEndpoint.Url

open Text

/-- The text of a host: a visible name without the marks that end or would confuse one, or an address
in brackets. -/
inductive IsHostText : List Char → Prop
  | name {text : List Char} (hne : text ≠ [])
      (hfree : ∀ c ∈ text, Visible c ∧ forbiddenInHost c = false) : IsHostText text
  | address (address : Net.Ipv6) : IsHostText ('[' :: address.render.toList ++ [']'])

/-- What the text of an IPv6 address is made of. -/
def isAddressChar (c : Char) : Bool := "0123456789abcdef:".toList.contains c

theorem isAddressChar_of_mem {address : Net.Ipv6} :
    ∀ c ∈ address.render.toList, isAddressChar c = true :=
  madeOf_ipv6 (P := fun c => isAddressChar c = true) (by decide) (by decide) address

theorem of_isAddressChar {P : Char → Prop} (h : MadeOf P "0123456789abcdef:") {c : Char}
    (hc : isAddressChar c = true) : P c :=
  h c (List.contains_iff_mem.mp hc)

namespace IsHostText

variable {text : List Char}

theorem ne_nil (h : IsHostText text) : text ≠ [] := by
  cases h with
  | name hne _ => exact hne
  | address address => simp

/-- What holds of the characters of names, of addresses and of brackets holds of those of hosts. -/
theorem forall_mem {P : Char → Prop} (hname : ∀ c, Visible c → forbiddenInHost c = false → P c)
    (hopen : P '[') (hclose : P ']') (haddress : MadeOf P "0123456789abcdef:")
    (h : IsHostText text) : ∀ c ∈ text, P c := by
  cases h with
  | name _ hfree => exact fun c hc => hname c (hfree c hc).1 (hfree c hc).2
  | address address =>
    intro c hc
    rw [List.mem_append, List.mem_cons, List.mem_singleton] at hc
    rcases hc with (rfl | hc) | rfl
    · exact hopen
    · exact of_isAddressChar haddress (isAddressChar_of_mem c hc)
    · exact hclose

theorem visible (h : IsHostText text) : ∀ c ∈ text, Visible c :=
  h.forall_mem (fun _ hvisible _ => hvisible) (by decide) (by decide) (by decide)

end IsHostText

theorem exists_of_bracketed {text : List Char} {host : Host} (h : bracketed text = .ok host) :
    ∃ address, host = .ipv6 address := by
  unfold bracketed at h
  split at h
  · split at h
    · next address _ =>
      cases h
      exact ⟨address, rfl⟩
    · cases h
  · cases h

theorem isHostText_ipv6 (address : Net.Ipv6) : IsHostText (Host.ipv6 address).render.toList := by
  rw [Host.render, String.toList_append, String.toList_append]
  exact .address address

theorem hostChar_of_keepsInDomain {c : Char} (h : Idna.keepsInDomain c = true) :
    Visible c ∧ forbiddenInHost c = false := by
  have hvisible := visible_of_keepsInDomain h
  exact ⟨hvisible, forall_ascii (P := fun c => Idna.keepsInDomain c = true →
    forbiddenInHost c = false) (by decide +kernel) hvisible.lt_ascii h⟩

theorem Host.isHostText_of_parse {text : List Char} {host : Host}
    (h : Host.parse text = .ok host) : IsHostText host.render.toList := by
  unfold Host.parse at h
  split at h
  · obtain ⟨address, rfl⟩ := exists_of_bracketed h
    exact isHostText_ipv6 address
  split at h
  · cases h
  next name hname =>
    split at h
    · cases h
    next hfull =>
      split at h
      · split at h
        · next address _ =>
          cases h
          refine .name (by simp [Host.render, Net.Ipv4.render, Net.Ipv4.octets]) ?_
          exact madeOf_ipv4 (P := fun c => Visible c ∧ forbiddenInHost c = false) (by decide)
            (by decide) address
        · cases h
      · cases h
        have hkept := (Option.filter_eq_some_iff.mp hname).2
        rw [Host.render, String.toList_ofList]
        refine .name (by simpa using hfull) fun c hc => ?_
        exact hostChar_of_keepsInDomain (List.all_eq_true.mp hkept c hc)

theorem Host.isHostText_of_parsePlain {text : List Char} {host : Host}
    (h : Host.parsePlain text = .ok (some host)) : IsHostText host.render.toList := by
  unfold Host.parsePlain at h
  split at h
  · cases hbracketed : bracketed text with
    | error fault => simp [hbracketed, Except.map] at h
    | ok found =>
      simp only [hbracketed, Except.map, Except.ok.injEq, Option.some.injEq] at h
      obtain ⟨address, rfl⟩ := exists_of_bracketed hbracketed
      rw [← h]
      exact isHostText_ipv6 address
  split at h
  · cases h
  next hallowed =>
    split at h
    · cases h
    next hfull =>
      cases h
      have hfree : ∀ c ∈ text, forbiddenInHost c = false := by simpa using hallowed
      rw [Host.render, String.toList_ofList]
      refine .name ?_ ?_
      · exact Percent.encode_ne_nil (by simpa using hfull)
      · refine Percent.of_mem_encode (by decide) (by decide) fun c hc hprintable => ?_
        refine ⟨visible_of_printable hprintable ?_ ?_, hfree c hc⟩
        · rintro rfl
          exact absurd (hfree _ hc) (by decide)
        · rintro rfl
          exact absurd (hfree _ hc) (by decide)

end OAuthEndpoint.Url
