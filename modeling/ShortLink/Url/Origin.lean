import ShortLink.Url.Parser

/-!
# Origins

URLs of a network scheme have the same origin when schemes, hosts and ports agree. A `blob` URL has
the origin of the URL that is its path. Any other URL has an origin of its own, which equals no
other one, not even its own a second time.

## Main definitions

- `Url.Origin` — a scheme, a host and a `portNumber`
- `Url.origin?` — the origin of a URL that can be compared
- `Url.SameOrigin` — whether two URLs have the same origin
-/

namespace ShortLink.Url

/-- An origin that can be compared. -/
structure Origin where
  scheme : String
  host : Host
  portNumber : UInt16
  deriving DecidableEq

/-- The origin of a URL, looking at most `depth` times into the path of a `blob` URL. -/
def originWithin? : Nat → Url → Option Origin
  | depth, url =>
    match defaultPort? url.scheme, url.host with
    | some number, some host => some ⟨url.scheme, host, url.portNumber.getD number⟩
    | _, _ =>
      match depth with
      | 0 => none
      | depth + 1 =>
        if url.scheme = "blob" then (ofText? url.pathText).bind (originWithin? depth) else none

/-- The origin of a URL that can be compared. The path of a `blob` URL is shorter than the URL, so
its length bounds how deep such URLs are nested. -/
def origin? (url : Url) : Option Origin := originWithin? url.pathText.length url

/-- Whether two URLs have the same origin. -/
def SameOrigin (a b : Url) : Prop := a.origin?.isSome ∧ a.origin? = b.origin?

instance (a b : Url) : Decidable (SameOrigin a b) := inferInstanceAs (Decidable (_ ∧ _))

end ShortLink.Url
