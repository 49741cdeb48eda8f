import ShortLink.Url.Origin

/-!
# URLs relative to a base

A URL that lies under a base is stored as what follows the base: the rest of its path, its query and
its fragment. It lies under the base when both have the same origin and its path goes on where the
path of the base ends. A URL that is not in its normal form is never shortened, because the normal
form is what the base would be put in front of.

## Main definitions

- `Link.isAbsolute` — whether a stored text is a URL by itself
- `Link.relativeTo?` — what follows the base in a URL
- `Link.rejoin` — the URL that a relative text stands for under a base
-/

namespace ShortLink.Link

/-- Whether a stored text is a URL by itself, judged by its scheme alone. -/
def isAbsolute (text : String) : Bool :=
  "http://".toList.isPrefixOf text.toList || "https://".toList.isPrefixOf text.toList

/-- A text without the slashes at its end. -/
def trimSlashesRight (text : List Char) : List Char :=
  (text.reverse.dropWhile (· == '/')).reverse

/-- A text without the slashes at its front. -/
def trimSlashesLeft (text : List Char) : List Char := text.dropWhile (· == '/')

/-- What follows the base in a path: a slash and something more. -/
def pathBelow? (path base : String) : Option (List Char) := do
  let rest ← (trimSlashesRight base.toList).isPrefixOf? path.toList
  if rest.head? = some '/' ∧ rest ≠ ['/'] then return rest else none

/-- What follows the base in a URL: the rest of its path, its query and its fragment. There is
nothing when the URL does not lie under the base or is not in its normal form. -/
def relativeTo? (url base : String) : Option String := do
  let base ← Url.ofText? base
  let parsed ← Url.ofText? url
  if parsed.text ≠ url ∨ ¬ parsed.SameOrigin base then none
  let rest ← pathBelow? parsed.pathText base.pathText
  return String.ofList rest ++ parsed.queryText ++ parsed.fragmentText

/-- The URL that a relative text stands for under a base, with one slash where they meet. -/
def rejoin (base relative : String) : String :=
  String.ofList (trimSlashesRight base.toList) ++ "/"
    ++ String.ofList (trimSlashesLeft relative.toList)

end ShortLink.Link
