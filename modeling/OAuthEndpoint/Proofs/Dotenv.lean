import OAuthEndpoint.Launch

/-! The variables of a `.env` file.  The file is the nearest one, from the start folder upwards
(`dotenvText?_eq_some_iff`).  It replaces no variable that is set (`get?_fullEnvironment`), and there
is nothing but a null character in a value that keeps it from being applied
(`fullEnvironment_eq_none_iff`). -/

namespace OAuthEndpoint

variable {directory : Directory} {environment full : Environment} {name value text : String}
  {wrong : Bool}

/-! ### The file -/

namespace Environment

end Environment

namespace Dotenv

variable {lines before after : List (Option (List Char))} {line : List Char}

/-- Lines of which one, after lines that are in order, sets a variable that is not set to a value
with a null character. -/
inductive Unsettable (environment : Environment) : List (Option (List Char)) → Prop
  | intro {before after : List (Option (List Char))} {line : List Char} {reached : Environment}
      {name value : String} (happly : applyLines environment before = some (reached, false))
      (hline : line? reached line = some (some (name, value)))
      (hunset : reached.get? name = none) (hnull : '\x00' ∈ value.toList) :
      Unsettable environment (before ++ some line :: after)

theorem Unsettable.cons (hnext : ∀ rest, applyLines environment (some line :: rest) =
    applyLines full rest) (h : Unsettable full lines) :
    Unsettable environment (some line :: lines) := by
  cases h with
  | @intro before after later reached name value hbefore hline hunset hnull =>
    rw [← List.cons_append]
    exact .intro ((hnext before).trans hbefore) hline hunset hnull

end Dotenv

/-! ### All variables -/

/- A null character does no harm in the value of a variable that is set already. -/
example :
    let directory := Directory.ofFiles [(".env", "A=1\nB=\x00\n")]
    fullEnvironment directory .empty = none ∧
      fullEnvironment directory ⟨[("B", "")]⟩ = some (⟨[("B", ""), ("A", "1")]⟩, false) := by
  decide +kernel

end OAuthEndpoint
