/-!
# Caches of parsed texts

Keeps what the texts used last were parsed to, oldest first, up to a number of them. A text is found
by its digest, and one that cannot be parsed leaves the cache as it is.
-/

namespace EntityQuery.Html

/-- What texts were parsed to under the digests of the texts, oldest first, at most `size` of
them. -/
structure Cache (α : Type) where
  size : Nat
  entries : List (String × α) := []
  deriving Repr, Inhabited

namespace Cache

variable {α ε : Type}

/-- An empty cache; a negative size counts as zero. -/
def empty (size : Int) : Cache α := { size := size.toNat }

/-- The digests that are kept, oldest first. -/
def texts (c : Cache α) : List String := c.entries.map Prod.fst

/-- What the text with a digest was parsed to, if it is kept. -/
def get? (c : Cache α) (key : String) : Option α := c.entries.lookup key

/-- The cache with an entry as the newest, and without the oldest ones that are too many. -/
def use (c : Cache α) (key : String) (parsed : α) : Cache α :=
  let entries := c.entries.filter (·.1 != key) ++ [(key, parsed)]
  { c with entries := entries.drop (entries.length - c.size) }

/-- What a text is parsed to, from the cache if it is kept there, and the cache after that. -/
def fetchBy (digest : String → String) (parse : String → Except ε α) (c : Cache α)
    (text : String) : Except ε α × Cache α :=
  match c.get? (digest text) with
  | some parsed => (.ok parsed, c.use (digest text) parsed)
  | none =>
    match parse text with
    | .ok parsed => (.ok parsed, c.use (digest text) parsed)
    | .error e => (.error e, c)

/-- The same with every text as its own digest. -/
def fetch (parse : String → Except ε α) (c : Cache α) (text : String) : Except ε α × Cache α :=
  c.fetchBy id parse text

end Cache

end EntityQuery.Html
