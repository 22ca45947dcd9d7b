import OAuthEndpoint.Proofs.Form.Pairs
import OAuthEndpoint.Url.Basic

/-! What adding pairs does to a URL: its query grows at the end and nothing else changes, so that a
URL without a fragment is written as before with more text after it, and is read as before with more
pairs after the old ones (`queryPairs_appendPairs`). -/

namespace OAuthEndpoint.Url

variable {url location : Url} {pairs : List (String × String)}

/-- What is written between a query and the pairs after it. -/
def separator : Option String → String
  | none => "?"
  | some text => if text.isEmpty then "" else "&"

/-- The text that pairs add to a URL whose query is given. -/
def addition (query : Option String) (pairs : List (String × String)) : String :=
  if pairs.isEmpty then "" else separator query ++ Form.serialize pairs

theorem query_extendQuery (query : Option String) (pairs : List (String × String)) :
    ((extendQuery query pairs).map ("?" ++ ·)).getD "" =
      (query.map ("?" ++ ·)).getD "" ++ addition query pairs := by
  by_cases hpairs : pairs.isEmpty = true
  · simp only [extendQuery, addition, hpairs, if_true, String.append_empty]
  · simp only [extendQuery, addition, hpairs, if_false, Bool.false_eq_true]
    cases query with
    | none => simp [separator]
    | some text =>
      by_cases htext : text.isEmpty = true
      · rw [String.isEmpty_iff] at htext
        subst htext
        simp [separator]
      · simp [separator, htext, String.append_assoc]

/-- The pairs of a query, whatever it looks like, are followed by those that were added. -/
theorem queryPairs_appendPairs (url : Url) (pairs : List (String × String)) :
    (url.appendPairs pairs).queryPairs = url.queryPairs ++ pairs := by
  by_cases hpairs : pairs = []
  · rw [hpairs, appendPairs_nil, List.append_nil]
  · have hfull : pairs.isEmpty = false := by simpa using hpairs
    simp only [queryPairs, appendPairs, extendQuery, hfull, if_false, Bool.false_eq_true]
    cases url.query with
    | none => exact Form.pairs_serialize pairs
    | some text =>
      by_cases htext : text.isEmpty = true
      · simp only [htext, if_true, Option.getD_some]
        rw [String.isEmpty_iff.mp htext]
        exact Form.pairs_serialize pairs
      · simp only [htext, if_false, Bool.false_eq_true, Option.getD_some]
        rw [String.append_assoc, String.toList_append, String.toList_append]
        exact (Form.pairs_append_amp _ _).trans (congrArg _ (Form.pairs_serialize pairs))

theorem renderBase_appendPairs (url : Url) (pairs : List (String × String)) :
    (url.appendPairs pairs).renderBase = url.renderBase := rfl

theorem render_appendPairs (hfragment : url.fragment = none) :
    (url.appendPairs pairs).render = url.render ++ addition url.query pairs := by
  have hquery := query_extendQuery url.query pairs
  have hnone : (url.appendPairs pairs).fragment = none := hfragment
  rw [render, render, renderBase_appendPairs, hnone, hfragment]
  simp only [Option.map_none, Option.getD_none, String.append_empty]
  rw [String.append_assoc, ← hquery]
  rfl

theorem render_appendPairs_of_ne_nil (hfragment : url.fragment = none) (hpairs : pairs ≠ []) :
    (url.appendPairs pairs).render = url.render ++ separator url.query ++ Form.serialize pairs := by
  have haddition : addition url.query pairs = separator url.query ++ Form.serialize pairs := by
    rw [addition, if_neg (by simpa using hpairs)]
  rw [render_appendPairs hfragment, haddition, String.append_assoc]

/-- A location that differs from a URL by what its query has at the end. -/
structure Extends (url location : Url) : Prop where
  scheme : location.scheme = url.scheme
  authority : location.authority = url.authority
  path : location.path = url.path
  fragment : location.fragment = none
  query : ∃ pairs, location.query = extendQuery url.query pairs ∧
    location.render = url.render ++ addition url.query pairs

theorem extends_appendPairs (hfragment : url.fragment = none)
    (pairs : List (String × String)) : url.Extends (url.appendPairs pairs) where
  scheme := rfl
  authority := rfl
  path := rfl
  fragment := hfragment
  query := ⟨pairs, rfl, render_appendPairs hfragment⟩

end OAuthEndpoint.Url
