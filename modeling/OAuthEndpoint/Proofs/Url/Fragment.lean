import OAuthEndpoint.Proofs.Text.Ascii
import OAuthEndpoint.Proofs.Text.Pieces
import OAuthEndpoint.Proofs.Url.Parser

/-! Which texts have a fragment.  Wherever a `#` stands in the text of a URL, in its authority, its
path, its query or among the blanks after it, it starts a fragment, so that a URL without one was
read from a text without `#` (`fragment_eq_none_iff`). -/

namespace OAuthEndpoint.Url

open Text

variable {text : String} {url : Url}

/-- A `#` is none of the characters that are dropped around a URL. -/
theorem hash_mem_trim_iff {text : List Char} :
    '#' ∈ trim (fun c => decide (c ≤ ' ')) text ↔ '#' ∈ text :=
  mem_trim_iff (by decide)

theorem fragment_eq_none_iff (h : parse text = .ok url) :
    url.fragment = none ↔ '#' ∉ text.toList := by
  obtain ⟨_, fragment, _, _, _, hcut, -, -, -, -, hfragment⟩ := exists_of_parse h
  have hnone : fragment = none ↔ ∀ c ∈ trim (fun c => decide (c ≤ ' ')) text.toList,
      (c == '#') = false := by
    rw [← snd_cut_eq_none_iff, hcut]
  rw [hfragment, Option.map_eq_none_iff, hnone, ← hash_mem_trim_iff]
  constructor
  · exact fun hall hmem => absurd (hall '#' hmem) (by decide)
  · exact beq_eq_false_of_not_mem

/-- What is written of a URL without a fragment has none either. -/
theorem hash_not_mem_render (h : parse text = .ok url) (hhierarchical : url.isHierarchical = true)
    (hfragment : url.fragment = none) : '#' ∉ url.render.toList := by
  intro hmem
  exact ((written_of_parse h).allVisible_render hhierarchical hfragment '#' hmem).2.2 rfl

end OAuthEndpoint.Url
