import OAuthEndpoint.Text.Pieces

/-! Sets of tokens that keep their order: response types and scopes.  A request writes them with
blanks between; each counts once, at its first place. -/

namespace OAuthEndpoint

structure TokenSet where
  items : List String
  nodup : items.Nodup
deriving DecidableEq, Repr

namespace TokenSet

def empty : TokenSet := ⟨[], List.nodup_nil⟩

instance : Membership String TokenSet := ⟨fun set token => token ∈ set.items⟩

instance (token : String) (set : TokenSet) : Decidable (token ∈ set) :=
  inferInstanceAs (Decidable (token ∈ set.items))

/-- The set with a token at its end, unless it is there already. -/
def insert (set : TokenSet) (token : String) : TokenSet :=
  if h : token ∈ set.items then set
  else ⟨set.items ++ [token], by
    rw [List.nodup_append]
    refine ⟨set.nodup, by simp, ?_⟩
    intro a ha b hb
    rw [List.mem_singleton.mp hb]
    exact fun same => h (same ▸ ha)⟩

def ofList (tokens : List String) : TokenSet := tokens.foldl insert empty

/-- The tokens between single blanks; no other character separates them. -/
def parse (text : String) : TokenSet :=
  ofList (((Text.split (· == ' ') text.toList).filter (fun token => !token.isEmpty)).map String.ofList)

def size (set : TokenSet) : Nat := set.items.length

def isEmpty (set : TokenSet) : Bool := set.items.isEmpty

def contains (set : TokenSet) (token : String) : Bool := set.items.contains token

def containsAll (set : TokenSet) (tokens : List String) : Bool := tokens.all set.contains

/-- As many tokens as the list has, and each of the list.  A list that repeats a token matches no
set. -/
def matchesExactly (set : TokenSet) (tokens : List String) : Bool :=
  set.size == tokens.length && set.containsAll tokens

/-- The same tokens in any order. -/
def sameTokens (a b : TokenSet) : Bool := a.size == b.size && b.containsAll a.items

def render (set : TokenSet) : String := " ".intercalate set.items

end TokenSet

end OAuthEndpoint
