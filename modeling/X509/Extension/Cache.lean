/-
**A cache for the encoding of a value.**

A cache is empty or holds octets. Asking it for octets encodes only when it is empty; refreshing it
drops what it holds and encodes anew. A value without an encoding leaves the cache empty, and so
does a refresh that fails.

* `ValueCache.ask_of_filled` — asking a filled cache changes nothing.
-/

import X509.ContentError

namespace X509

/-- The octets of an encoding, once there are any. -/
structure ValueCache where
  octets? : Option Octets
deriving DecidableEq, Repr, Inhabited

namespace ValueCache

/-- The cache that holds nothing. -/
def empty : ValueCache :=
  ⟨none⟩

/-- Whether the cache holds nothing. -/
def isEmpty (cache : ValueCache) : Bool :=
  cache.octets?.isNone

/-- What one use of a cache comes to: its answer, the cache after it, and how often it encoded. -/
structure Use (α : Type) where
  result : Except ContentError α
  cache : ValueCache
  encodings : Nat

/-- A way to encode a value, which may have no encoding. -/
abbrev Encoder := Unit → Except ContentError (Option Octets)

/-- The octets in the cache, or those of the encoder if it holds none. No encoding is no octets. -/
def ask (cache : ValueCache) (encode : Encoder) : Use Octets :=
  match cache.octets? with
  | some octets => { result := .ok octets, cache, encodings := 0 }
  | none =>
    match encode () with
    | .ok (some octets) => { result := .ok octets, cache := ⟨some octets⟩, encodings := 1 }
    | .ok none => { result := .ok [], cache, encodings := 1 }
    | .error fault => { result := .error fault, cache, encodings := 1 }

/-- Puts the octets of the encoder in place of what the cache holds. -/
def refresh (encode : Encoder) : Use Unit :=
  match encode () with
  | .ok octets? => { result := .ok (), cache := ⟨octets?⟩, encodings := 1 }
  | .error fault => { result := .error fault, cache := empty, encodings := 1 }

theorem ask_of_filled {cache : ValueCache} {octets : Octets} (filled : cache.octets? = some octets)
    (encode : Encoder) : cache.ask encode = { result := .ok octets, cache, encodings := 0 } := by
  simp [ask, filled]

theorem refresh_of_error {encode : Encoder} {fault : ContentError}
    (fails : encode () = .error fault) :
    refresh encode = { result := .error fault, cache := empty, encodings := 1 } := by
  simp [refresh, fails]

end ValueCache

end X509
