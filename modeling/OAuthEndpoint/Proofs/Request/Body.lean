import OAuthEndpoint.Proofs.Request.Transport
import OAuthEndpoint.Proofs.Text.Ascii
import OAuthEndpoint.Proofs.Text.MadeOf

/-! When the body of a request is read, and what has no influence on a request.  The body is
`Unread` where the method or the first content type says nothing of a form (`unread_iff`).  Requests
that are `ReadAlike`, which may differ in unread bodies, in all other header fields and in the
parameters of the content type, come to the same (`unread_without_influence`). -/

namespace OAuthEndpoint.InboundRequest

open Text

/-- What the value of a header field may hold to be text: printable ASCII and tabs. -/
def IsFieldChar (c : Char) : Prop := ' ' ≤ c ∧ c ≤ '~' ∨ c = '\t'

/-- Text that names form encoding in any letter case, with blanks around the name, and after a `;`
whatever it likes. -/
def NamesForm (contentType : String) : Prop :=
  ∃ before name after, lower name = formType ∧ (∀ c ∈ before ++ after, isBlank c = true) ∧
    (contentType.toList = before ++ name.toList ++ after ∨
      ∃ params, contentType.toList = before ++ name.toList ++ after ++ ';' :: params)

/-- Why the body of a request is not read: its method carries no parameters there, or its first
content type is missing, is no text or does not name form encoding. -/
inductive Unread (request : InboundRequest) : Prop
  | method (hpost : request.method ≠ "POST") (hput : request.method ≠ "PUT")
      (hpatch : request.method ≠ "PATCH")
  | missing (h : request.headers.get? "content-type" = none)
  | noText {contentType : String} (h : request.headers.get? "content-type" = some contentType)
      (htext : ¬MadeOf IsFieldChar contentType)
  | otherType {contentType : String} (h : request.headers.get? "content-type" = some contentType)
      (hother : ¬NamesForm contentType)

/-- One first content type, or two that differ in what text comes after a `;`. -/
inductive SameType : Option String → Option String → Prop
  | same (contentType : Option String) : SameType contentType contentType
  | params {name params params' : String} (h : MadeOf IsFieldChar params)
      (h' : MadeOf IsFieldChar params') :
      SameType (some (name ++ ";" ++ params)) (some (name ++ ";" ++ params'))

/-- Two requests that are the same as far as they are read. -/
structure ReadAlike (a b : InboundRequest) : Prop where
  method : a.method = b.method
  query : a.query = b.query
  contentType : SameType (a.headers.get? "content-type") (b.headers.get? "content-type")
  body : a.Unread ∨ a.body = b.body

/-! ### Content types -/

theorem isFieldText_iff {value : String} : isFieldText value = true ↔ MadeOf IsFieldChar value := by
  simp [isFieldText, MadeOf, IsFieldChar]

/-- No character of a form type's name is a blank or a `;`, in whatever case the name is written. -/
theorem of_mem_name {name : String} (hname : lower name = formType) {c : Char}
    (hc : c ∈ name.toList) : isBlank c = false ∧ (c == ';') = false := by
  have hlower : c.toLower ∈ formType.toList := by
    rw [← hname, lower, String.toList_ofList]
    exact List.mem_map_of_mem hc
  have hne : ∀ d : Char, d.toLower = d → d ∉ formType.toList → c ≠ d := by
    rintro d hd hnot rfl
    rw [hd] at hlower
    exact hnot hlower
  have hspace := hne ' ' (by decide) (by decide +kernel)
  have htab := hne '\t' (by decide) (by decide +kernel)
  have hsemicolon := hne ';' (by decide) (by decide +kernel)
  simp [isBlank, hspace, htab, hsemicolon]

theorem lower_formType : lower formType = formType := by decide +kernel

theorem namesForm_iff {contentType : String} :
    NamesForm contentType ↔
      lower (String.ofList (trim isBlank (cut (· == ';') contentType.toList).1)) = formType := by
  constructor
  · rintro ⟨before, name, after, hname, hblank, htext⟩
    have hends : ∀ c ∈ before ++ after, (c == ';') = false := by
      intro c hc
      rw [beq_eq_false_iff_ne]
      rintro rfl
      exact absurd (hblank _ hc) (by decide)
    have hnone : ∀ c ∈ before ++ name.toList ++ after, (c == ';') = false := by
      rw [List.forall_mem_append] at hends
      rw [List.forall_mem_append, List.forall_mem_append]
      exact ⟨⟨hends.1, fun c hc => (of_mem_name hname hc).2⟩, hends.2⟩
    have hcut : (cut (· == ';') contentType.toList).1 = before ++ name.toList ++ after := by
      rcases htext with htext | ⟨params, htext⟩
      · rw [htext, cut_eq_self hnone]
      · rw [htext, cut_append_cons hnone (by simp)]
    rw [hcut, trim_append hblank fun c hc => (of_mem_name hname hc).1, String.ofList_toList, hname]
  · intro hname
    obtain ⟨before, after, hfirst, hblank⟩ :=
      exists_of_trim isBlank (cut (· == ';') contentType.toList).1
    refine ⟨before, _, after, hname, hblank, ?_⟩
    rw [String.toList_ofList, ← hfirst]
    rcases eq_or_eq_append_of_cut (· == ';') contentType.toList with
      htext | ⟨sep, params, hsep, htext⟩
    · exact .inl htext
    · rw [beq_iff_eq] at hsep
      subst hsep
      exact .inr ⟨params, htext⟩

theorem isFormType_iff {contentType : String} :
    isFormType contentType = true ↔ MadeOf IsFieldChar contentType ∧ NamesForm contentType := by
  rw [isFormType, Bool.and_eq_true, isFieldText_iff, namesForm_iff, sameLetters, lower_formType,
    beq_iff_eq]

theorem isFormType_append {params params' : String} (h : MadeOf IsFieldChar params)
    (h' : MadeOf IsFieldChar params') (name : String) :
    isFormType (name ++ ";" ++ params) = isFormType (name ++ ";" ++ params') := by
  have hform : ∀ params : String, MadeOf IsFieldChar params →
      (isFormType (name ++ ";" ++ params) = true ↔ MadeOf IsFieldChar (name ++ ";") ∧
        lower (String.ofList (trim isBlank (cut (· == ';') name.toList).1)) = formType) := by
    intro params hparams
    have htext : (name ++ ";" ++ params).toList = name.toList ++ ';' :: params.toList := by simp
    rw [isFormType_iff, namesForm_iff, htext, fst_cut_append_cons name.toList (by simp),
      madeOf_append_iff, and_iff_left hparams]
  rw [Bool.eq_iff_iff, hform params h, hform params' h']

theorem SameType.map_isFormType {a b : Option String} (h : SameType a b) :
    a.map isFormType = b.map isFormType := by
  cases h with
  | same => rfl
  | params h h' => rw [Option.map_some, Option.map_some, isFormType_append h h']

/-! ### Bodies -/

variable {request a b : InboundRequest}

theorem unread_iff : request.Unread ↔ request.hasFormBody = false := by
  rw [hasFormBody, Bool.and_eq_false_iff]
  constructor
  · rintro (⟨hpost, hput, hpatch⟩ | h | ⟨h, htext⟩ | ⟨h, hother⟩)
    · exact .inl (by simp [hpost, hput, hpatch])
    · rw [h]
      exact .inr rfl
    · rw [h]
      exact .inr (Bool.eq_false_iff.mpr fun hform => htext (isFormType_iff.mp hform).1)
    · rw [h]
      exact .inr (Bool.eq_false_iff.mpr fun hform => hother (isFormType_iff.mp hform).2)
  · rintro (hmethod | htype)
    · simp only [Bool.or_eq_false_iff, beq_eq_false_iff_ne] at hmethod
      exact .method hmethod.1.1 hmethod.1.2 hmethod.2
    · cases h : request.headers.get? "content-type" with
      | none => exact .missing h
      | some contentType =>
        rw [h, Option.map_some, Option.getD_some, Bool.eq_false_iff, ne_eq, isFormType_iff,
          not_and_or] at htype
        exact htype.elim (.noText h) (.otherType h)

theorem ReadAlike.hasFormBody_eq (h : ReadAlike a b) : a.hasFormBody = b.hasFormBody := by
  rw [hasFormBody, hasFormBody, h.method, h.contentType.map_isFormType]

theorem ReadAlike.parameters_eq (h : ReadAlike a b) : a.parameters = b.parameters := by
  have hbody : a.bodyPairs = b.bodyPairs := by
    rcases h.body with hunread | hsame
    · rw [unread_iff] at hunread
      rw [bodyPairs, bodyPairs, ← h.hasFormBody_eq, hunread, if_neg Bool.false_ne_true,
        if_neg Bool.false_ne_true]
    · rw [bodyPairs, bodyPairs, h.hasFormBody_eq, hsame]
  rw [parameters, parameters, hbody, queryPairs, queryPairs, h.query]

/-- Neither the bytes of a body that is not read nor any other header field has an influence, nor
have the parameters of the content type: the same parameters are read, and the service builds the
same of them and tells the same of it. -/
theorem unread_without_influence (h : ReadAlike a b) :
    a.parameters = b.parameters ∧
    ∀ service : AuthorizationService, service.build a = service.build b :=
  ⟨h.parameters_eq, fun _ => AuthorizationService.build_congr h.parameters_eq⟩

/-- A body that is not read may become bytes that are no text, while the parameters of the first
content type, a later content type and another field change too. -/
theorem unread_without_influence_json :
    let a : InboundRequest := {
      method := "POST", query := some "client_id=c1&state=abcdefgh"
      headers := .ofList [("Content-Type", "application/json; charset=utf-8"),
        ("Content-Type", formType)]
      body := Utf8.encode "client_id=c2".toList }
    let b : InboundRequest := {
      method := "POST", query := some "client_id=c1&state=abcdefgh"
      headers := .ofList [("Cookie", "a=b"), ("content-type", "application/json;\tx;y"),
        ("content-type", "text/plain")]
      body := [0xFF] }
    ReadAlike a b ∧ a.parameters = b.parameters ∧
    ∀ service : AuthorizationService, service.build a = service.build b := by
  intro a b
  have htype : a.headers.get? "content-type" =
      some ("application/json" ++ ";" ++ " charset=utf-8") := by decide +kernel
  have htype' : b.headers.get? "content-type" =
      some ("application/json" ++ ";" ++ "\tx;y") := by decide +kernel
  have halike : ReadAlike a b := by
    refine ⟨rfl, rfl, ?_, .inl (unread_iff.mpr (by decide +kernel))⟩
    rw [htype, htype']
    refine .params ?_ ?_ <;> rw [← isFieldText_iff] <;> decide +kernel
  exact ⟨halike, unread_without_influence halike⟩

end OAuthEndpoint.InboundRequest
