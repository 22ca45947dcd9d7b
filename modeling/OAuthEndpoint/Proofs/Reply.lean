import OAuthEndpoint.Proofs.Request.Parameters
import OAuthEndpoint.Proofs.Url.Query
import OAuthEndpoint.Reply

/-! What a reply adds to the URL that it is sent to.  Pairs of any text follow those that the URL has
and are read back as they were given, and the rest of the URL stays as it is
(`merging_additive`). -/

namespace OAuthEndpoint

/-- A location that is a URL with pairs merged into its query. -/
structure Url.Merges (url : Url) (pairs : List (String × String)) (location : Url) : Prop where
  queryPairs : location.queryPairs = url.queryPairs ++ pairs
  rest : location = { url with query := location.query }
  render : url.fragment = none → pairs ≠ [] →
    location.render = url.render ++ separator url.query ++ Form.serialize pairs
  nothing : pairs = [] → location = url
  /-- The location's query, as that of a request whose body is no form. -/
  parameters : url.query = none → ∀ inbound : InboundRequest, inbound.hasFormBody = false →
    inbound.query = location.query → inbound.parameters = .ok ⟨pairs⟩

theorem InboundRequest.queryPairs_of_appendPairs {inbound : InboundRequest} {url : Url}
    {pairs : List (String × String)} (hurl : url.query = none)
    (hquery : inbound.query = (url.appendPairs pairs).query) : inbound.queryPairs = .ok pairs := by
  rw [queryPairs, hquery]
  by_cases hpairs : pairs = []
  · rw [hpairs, Url.appendPairs_nil, hurl]
  · have hwritten : (url.appendPairs pairs).query = some (Form.serialize pairs) := by
      simp [Url.appendPairs, Url.extendQuery, hurl, hpairs]
    rw [hwritten]
    exact Form.parse_serialize pairs

theorem Url.merges_appendPairs (url : Url) (pairs : List (String × String)) :
    url.Merges pairs (url.appendPairs pairs) where
  queryPairs := url.queryPairs_appendPairs pairs
  rest := rfl
  render hfragment hpairs := render_appendPairs_of_ne_nil hfragment hpairs
  nothing hpairs := by rw [hpairs, appendPairs_nil]
  parameters hurl inbound hbody hquery := by
    rw [InboundRequest.parameters_eq_queryPairs hbody,
      InboundRequest.queryPairs_of_appendPairs hurl hquery]
    rfl

/-- Grants and errors alike only merge their pairs into the target. -/
theorem Reply.merging_additive :
    (∀ (url : Url) pairs, url.Merges pairs (url.appendPairs pairs)) ∧
    (∀ request response, ∃ location,
      success request response = .redirect location response.headers ∧
      request.redirectUri.Merges response.query location) ∧
    ∀ url error, ∃ location, failure (some url) error = .redirect location .empty ∧
      url.Merges [("error", error.kind.code), ("error_description", error.kind.description)]
        location := by
  refine ⟨Url.merges_appendPairs, ?_, ?_⟩
  · intro request response
    exact ⟨_, rfl, request.redirectUri.merges_appendPairs response.query⟩
  · intro url error
    exact ⟨_, rfl, url.merges_appendPairs error.wire.pairs⟩

/-- Keys may repeat and be empty, and no character of a value is taken for a mark of the query. -/
example :
    let url : Url := {
      scheme := "https", authority := some ⟨"", "", some (.domain "app.example"), none⟩
      path := .rooted ["cb"], query := some "", fragment := none }
    let pairs := [("", ""), ("k", "a&b=c;%2B+#"), ("k", "")]
    (url.appendPairs pairs).render =
      "https://app.example/cb?=&k=a%26b%3Dc%3B%252B%2B%23&k=" ∧
    (url.appendPairs pairs).queryPairs = pairs := by
  decide +kernel

end OAuthEndpoint
