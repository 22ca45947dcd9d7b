import Mathlib.Control.Monad.Basic
import Mathlib.Data.List.Forall2
import OAuthEndpoint.InboundRequest
import OAuthEndpoint.Proofs.Form.Pairs

/-! The parameters of a request and the bytes it was sent with.  Reading succeeds whatever bytes the
escapes spell (`parameters_eq_ok_iff`), and the parameters are exactly those bytes when they are
UTF-8 and only then (`parameters_exact_iff`). -/

namespace OAuthEndpoint

open Text Form

/-- A text whose UTF-8 bytes are those that a component stands for. -/
def Form.Exact (component : List Char) (text : String) : Prop :=
  text.toByteArray = (bytes component).toByteArray

theorem Form.exact_decode_iff {component : List Char} :
    Exact component (decode component) ↔ (bytes component).toByteArray.IsValidUTF8 := by
  rw [← Utf8.encode_decodeLossy_iff, ← List.toByteArray_inj]
  rfl

namespace InboundRequest

/-- The text of the body, where it holds parameters and is text. -/
def bodyForm (request : InboundRequest) : Option (List Char) :=
  if request.hasFormBody then Utf8.decode? request.body else none

def queryForm (request : InboundRequest) : Option (List Char) := request.query.map String.toList

/-- The key and value components of the body and then of the query. -/
def components (request : InboundRequest) : List (List Char × List Char) :=
  (request.bodyForm.map Form.components).getD [] ++
    (request.queryForm.map Form.components).getD []

/-- What a request must be for its parameters to be read: nothing is asked of the bytes that its
escapes spell. -/
structure Readable (request : InboundRequest) : Prop where
  body : request.hasFormBody = true → request.body.toByteArray.IsValidUTF8
  bodyForm : ∀ form ∈ request.bodyForm, Form.Readable form
  queryForm : ∀ form ∈ request.queryForm, Form.Readable form

/-- Every key and every value stands for bytes that are UTF-8. -/
def SpellsText (request : InboundRequest) : Prop :=
  ∀ component ∈ request.components, (bytes component.1).toByteArray.IsValidUTF8 ∧
    (bytes component.2).toByteArray.IsValidUTF8

theorem queryPairs_eq_ok_iff {request : InboundRequest} {pairs : List (String × String)} :
    request.queryPairs = .ok pairs ↔ (∀ form ∈ request.queryForm, Form.Readable form) ∧
      pairs = ((request.queryForm.map Form.components).getD []).map decodeComponents := by
  rw [queryPairs, queryForm]
  cases request.query with
  | none => simp [eq_comm]
  | some query => simp [parse_eq_ok_iff, pairs_eq]

theorem bodyPairs_eq_ok_iff {request : InboundRequest} {pairs : List (String × String)} :
    request.bodyPairs = .ok pairs ↔
      (request.hasFormBody = true → request.body.toByteArray.IsValidUTF8) ∧
      (∀ form ∈ request.bodyForm, Form.Readable form) ∧
      pairs = ((request.bodyForm.map Form.components).getD []).map decodeComponents := by
  rw [bodyPairs, bodyForm]
  cases hbody : request.hasFormBody with
  | false => simp [eq_comm]
  | true =>
    simp only [if_true, forall_const]
    cases hdecoded : Utf8.decode? request.body with
    | none => simp [Utf8.decode?_eq_none_iff.mp hdecoded]
    | some text =>
      have hvalid : request.body.toByteArray.IsValidUTF8 :=
        Utf8.isValidUTF8_iff.mpr ⟨text, Utf8.decode?_eq_some_iff.mp hdecoded⟩
      simp [parse_eq_ok_iff, pairs_eq, hvalid]

/-- Both parts must be read, and those of the body come first. -/
theorem parameters_eq_ok_iff_parts {request : InboundRequest} {params : Parameters} :
    request.parameters = .ok params ↔ ∃ inBody inQuery, request.bodyPairs = .ok inBody ∧
      request.queryPairs = .ok inQuery ∧ params = ⟨inBody ++ inQuery⟩ := by
  rw [parameters]
  cases request.bodyPairs <;> cases request.queryPairs <;>
    simp [bind, Except.bind, pure, Except.pure, eq_comm]

theorem parameters_eq_queryPairs {request : InboundRequest} (hbody : request.hasFormBody = false) :
    request.parameters = request.queryPairs.map Parameters.mk := by
  have hnone : request.bodyPairs = .ok [] := by
    rw [bodyPairs, hbody, if_neg Bool.false_ne_true]
  rw [parameters, hnone]
  cases request.queryPairs <;> rfl

/-- Reading succeeds whatever bytes the escapes spell, and decodes each component by itself. -/
theorem parameters_eq_ok_iff {request : InboundRequest} {params : Parameters} :
    request.parameters = .ok params ↔
      request.Readable ∧ params.pairs = request.components.map decodeComponents := by
  rw [parameters_eq_ok_iff_parts, components, List.map_append]
  constructor
  · rintro ⟨inBody, inQuery, hbody, hquery, rfl⟩
    obtain ⟨hvalid, hbodyForm, rfl⟩ := bodyPairs_eq_ok_iff.mp hbody
    obtain ⟨hqueryForm, rfl⟩ := queryPairs_eq_ok_iff.mp hquery
    exact ⟨⟨hvalid, hbodyForm, hqueryForm⟩, rfl⟩
  · rintro ⟨⟨hvalid, hbodyForm, hqueryForm⟩, hpairs⟩
    exact ⟨_, _, bodyPairs_eq_ok_iff.mpr ⟨hvalid, hbodyForm, rfl⟩,
      queryPairs_eq_ok_iff.mpr ⟨hqueryForm, rfl⟩, congrArg Parameters.mk hpairs⟩

theorem exists_parameters_iff {request : InboundRequest} :
    (∃ params, request.parameters = .ok params) ↔ request.Readable := by
  constructor
  · rintro ⟨params, h⟩
    exact (parameters_eq_ok_iff.mp h).1
  · exact fun h => ⟨⟨_⟩, parameters_eq_ok_iff.mpr ⟨h, rfl⟩⟩

theorem exists_parameters_error_iff {request : InboundRequest} :
    (∃ fault, request.parameters = .error fault) ↔ ¬request.Readable := by
  rw [← exists_parameters_iff]
  cases request.parameters <;> simp

/-- Decoded components are exact where they spell text. -/
theorem forall₂_exact_iff {written : List (List Char × List Char)} :
    List.Forall₂ (fun component pair => Exact component.1 pair.1 ∧ Exact component.2 pair.2)
      written (written.map decodeComponents) ↔
    ∀ component ∈ written, (bytes component.1).toByteArray.IsValidUTF8 ∧
      (bytes component.2).toByteArray.IsValidUTF8 := by
  induction written with
  | nil => simp
  | cons component written ih =>
    rw [List.map_cons, List.forall₂_cons, ih, List.forall_mem_cons, decodeComponents,
      exact_decode_iff, exact_decode_iff]

/-- Reading is lenient about the bytes of keys and values: no key or value makes it fail, and the
parameters are the bytes of the request exactly where all of these are UTF-8.  So a request that
spells other bytes is refused only where something else is wrong with it. -/
theorem parameters_exact_iff (request : InboundRequest) :
    ((∃ params, request.parameters = .ok params) ↔ request.Readable) ∧
    (∀ params, request.parameters = .ok params →
      (List.Forall₂ (fun component pair => Exact component.1 pair.1 ∧ Exact component.2 pair.2)
        request.components params.pairs ↔ request.SpellsText)) ∧
    ((¬request.SpellsText → ∃ fault, request.parameters = .error fault) ↔
      (request.Readable → request.SpellsText)) := by
  refine ⟨exists_parameters_iff, ?_, ?_⟩
  · intro params h
    rw [(parameters_eq_ok_iff.mp h).2]
    exact forall₂_exact_iff
  · rw [exists_parameters_error_iff, not_imp_not]

/-- The escape of a byte that begins no character is read as U+FFFD. -/
theorem parameters_exact_iff_lossy :
    (ofQuery "state=%FF").parameters = .ok ⟨[("state", "\uFFFD")]⟩ ∧
    ¬(ofQuery "state=%FF").SpellsText ∧
    ¬List.Forall₂ (fun component pair => Exact component.1 pair.1 ∧ Exact component.2 pair.2)
      (ofQuery "state=%FF").components [("state", "\uFFFD")] := by
  have hparams : (ofQuery "state=%FF").parameters = .ok ⟨[("state", "\uFFFD")]⟩ := by
    decide +kernel
  have hcomponents : (ofQuery "state=%FF").components = [("state".toList, "%FF".toList)] := by
    decide +kernel
  have hspells : ¬(ofQuery "state=%FF").SpellsText := by
    intro h
    have hvalid := (h ("state".toList, "%FF".toList) (by simp [hcomponents])).2
    exact Utf8.decode?_eq_none_iff.mp (by decide +kernel) hvalid
  exact ⟨hparams, hspells, fun h => hspells (((parameters_exact_iff _).2.1 _ hparams).mp h)⟩

end InboundRequest

end OAuthEndpoint
