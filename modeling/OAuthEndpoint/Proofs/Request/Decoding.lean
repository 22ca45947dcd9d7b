import OAuthEndpoint.Proofs.Form.Spelling
import OAuthEndpoint.Proofs.Request.Transport
import Mathlib.Control.Monad.Basic

/-! How the text of a query is decoded.  Reading a query agrees with unescaping its components one
by one (`query_read_by_unescaping`), and unescaping takes away one level of encoding and no more
(`unescape_one_level`), which is the level that a target in a query has beyond that of the form. -/

namespace OAuthEndpoint

open Percent Text

namespace InboundRequest

theorem components_ofQuery (query : String) :
    (ofQuery query).components = Form.components query.toList := rfl

theorem parameters_ofQuery_eq_ok_iff_spells {query : String} (h : (ofQuery query).SpellsText)
    {params : Parameters} :
    (ofQuery query).parameters = .ok params ↔
      Form.Readable query.toList ∧ Form.SpellsPairs query.toList params.pairs := by
  rw [parameters_ofQuery_eq_ok_iff, Form.parse_eq_ok_iff, Form.pairs_eq]
  refine and_congr_right fun hreadable => ?_
  rw [SpellsText, components_ofQuery] at h
  exact (Form.spellsPairs_iff hreadable.escapes h).symm

/-- A query whose components are text is read where it holds no `;` and two digits follow every `%`,
to the pairs that its segments spell when each side is unescaped, and is malformed otherwise.  A
query that was written is read as the pairs that it was written for. -/
theorem query_read_by_unescaping :
    (∀ query, (ofQuery query).SpellsText →
      ((∃ params, (ofQuery query).parameters = .ok params) ↔
        ';' ∉ query.toList ∧ DigitsFollow query.toList) ∧
      (∀ params, (ofQuery query).parameters = .ok params ↔
        (';' ∉ query.toList ∧ DigitsFollow query.toList) ∧
          Form.SpellsPairs query.toList params.pairs) ∧
      (¬(';' ∉ query.toList ∧ DigitsFollow query.toList) → (ofQuery query).Malformed)) ∧
    ∀ pairs, (ofQuery (Form.serialize pairs)).parameters = .ok ⟨pairs⟩ := by
  constructor
  · intro query hspells
    have hread : (∃ params, (ofQuery query).parameters = .ok params) ↔
        ';' ∉ query.toList ∧ DigitsFollow query.toList := by
      rw [← Form.readable_iff]
      constructor
      · rintro ⟨params, hparams⟩
        exact ((parameters_ofQuery_eq_ok_iff_spells hspells).mp hparams).1
      · intro hreadable
        exact ⟨⟨_⟩, parameters_ofQuery_eq_ok_iff.mpr
          (Form.parse_eq_ok_iff.mpr ⟨hreadable, rfl⟩)⟩
    refine ⟨hread, ?_, ?_⟩
    · intro params
      rw [← Form.readable_iff]
      exact parameters_ofQuery_eq_ok_iff_spells hspells
    · intro hnot
      rw [malformed_iff, hread]
      exact hnot
  · intro pairs
    exact parameters_ofQuery_eq_ok_iff.mpr (Form.parse_serialize pairs)

/-- Empty segments, a key without a value, an escaped separator, a second `=`, an escape beside a
literal character of several bytes. -/
theorem query_read_by_unescaping_separators :
    let query := "&flag&a%26b=%3D+c=é%C3%A9&&="
    (ofQuery query).SpellsText ∧
    (';' ∉ query.toList ∧ DigitsFollow query.toList) ∧
    Form.SpellsPairs query.toList [("flag", ""), ("a&b", "= c=éé"), ("", "")] := by
  intro query
  have hparams : (ofQuery query).parameters =
      .ok ⟨[("flag", ""), ("a&b", "= c=éé"), ("", "")]⟩ := by decide +kernel
  have hspells : (ofQuery query).SpellsText := by
    unfold SpellsText
    decide +kernel
  have hread := query_read_by_unescaping.1 query hspells
  exact ⟨hspells, (hread.2.1 _).mp hparams⟩

end InboundRequest

namespace Form

theorem serialize_redirectUri (target : String) :
    serialize [("redirect_uri", target)] = "redirect_uri=" ++ String.ofList (encode target) := by
  have hname : encode "redirect_uri" = "redirect_uri".toList := by decide +kernel
  have hmark : "redirect_uri=" = String.ofList ("redirect_uri".toList ++ ['=']) := by
    decide +kernel
  rw [serialize, hmark, ← String.ofList_append, List.append_assoc, ← hname]
  rfl

/-- Unescaping gives the text whose UTF-8 bytes the characters and escapes spell, one after the
other.  It fails where an escape is cut or where the bytes are no UTF-8, which makes the request
invalid.  An escaped `+` stays, an escaped `%` begins no escape, and one encoding is undone, as is
the second one of a target that is written into a query. -/
theorem unescape_one_level :
    (∀ text result, unescape text = .ok result ↔
      Spells text.toList (Utf8.encode result.toList)) ∧
    (∀ text fault, unescape text = .error fault ↔
      (fault = .malformedEscape ∧ ¬∃ spelled, Spells text.toList spelled) ∨
      (fault = .escapedNotUtf8 ∧ ∃ spelled, Spells text.toList spelled ∧
        ¬spelled.toByteArray.IsValidUTF8)) ∧
    (∀ text, (¬∃ result : String, Spells text.toList (Utf8.encode result.toList)) →
      ∃ fault, unescape text = .error fault ∧
        (AuthorizationService.formError fault).kind = .invalidRequest) ∧
    (∀ before after first last, unescape before = .ok first → unescape after = .ok last →
      unescape (before ++ "%2B" ++ after) = .ok (first ++ "+" ++ last) ∧
      unescape (before ++ "%25" ++ after) = .ok (first ++ "%" ++ last)) ∧
    (∀ text, unescape (String.ofList (encode text)) = .ok text) ∧
    ∀ text, ∃ params,
      (InboundRequest.ofQuery ("redirect_uri=" ++
        String.ofList (encode (String.ofList (encode text))))).parameters = .ok params ∧
      RedirectTarget.requested params = .ok text := by
  refine ⟨fun _ _ => unescape_eq_ok_iff_spells, fun _ _ => unescape_eq_error_iff, ?_, ?_,
    unescape_encode, ?_⟩
  · intro text hnone
    cases hresult : unescape text with
    | error fault => exact ⟨fault, rfl, rfl⟩
    | ok result => exact absurd ⟨result, unescape_eq_ok_iff_spells.mp hresult⟩ hnone
  · intro before after first last hfirst hlast
    have hplus : unescape "%2B" = .ok "+" := by decide +kernel
    have hpercent : unescape "%25" = .ok "%" := by decide +kernel
    exact ⟨unescape_append (unescape_append hfirst hplus) hlast,
      unescape_append (unescape_append hfirst hpercent) hlast⟩
  · intro text
    rw [← serialize_redirectUri]
    exact ⟨_, InboundRequest.parameters_ofQuery_eq_ok_iff.mpr (parse_serialize _),
      unescape_encode text⟩

/-- An escaped `%` before two digits spells no escape with them, and an escape that another one cuts
spells nothing. -/
theorem unescape_one_level_percent :
    unescape ("%C3%A9+" ++ "%25" ++ "41") = .ok ("é " ++ "%" ++ "41") ∧
    (¬∃ result : String, Spells "%2%41".toList (Utf8.encode result.toList)) ∧
    ∃ fault, unescape "%2%41" = .error fault ∧
      (AuthorizationService.formError fault).kind = .invalidRequest := by
  obtain ⟨hok, -, herror, hescaped, -⟩ := unescape_one_level
  have hbefore : unescape "%C3%A9+" = .ok "é " := by decide +kernel
  have hafter : unescape "41" = .ok "41" := by decide +kernel
  have hcut : unescape "%2%41" = .error .malformedEscape := by decide +kernel
  have hnone : ¬∃ result : String, Spells "%2%41".toList (Utf8.encode result.toList) := by
    rintro ⟨result, hspells⟩
    rw [← hok, hcut] at hspells
    cases hspells
  exact ⟨(hescaped _ _ _ _ hbefore hafter).2, hnone, herror _ hnone⟩

end Form

end OAuthEndpoint
