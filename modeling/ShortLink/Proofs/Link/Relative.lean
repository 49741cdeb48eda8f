import Mathlib.Data.List.DropRight
import ShortLink.Link.Relative

/-!
# Which URLs come back from a base

What is taken off a URL under a base is compared on the parts of both, but the URL is put together
again from their texts. The parts come from a URL in its normal form, so what is taken off is the
front of its text. Putting the base in front again gives the URL exactly when the base is written
like that front, up to slashes at its end, and one slash only stands behind it. A base with
credentials of its own, a default port, upper case, dot segments, a query or a fragment is written
otherwise, and a second slash behind the base gets lost.

## Main definitions

- `Link.sharedFront` — the front of a URL that it shares with its base

## Main results

- `Link.toList_of_relativeTo?` — a shortened URL is the shared front with the relative text behind
- `Link.rejoin_eq_iff` — when a shortened URL comes back
- `Link.rejoin_ne_of_double_slash` — a URL that does not
-/

namespace ShortLink.Link

variable {url base relative : String} {parsed parsedBase : Url}

/-- The front of a URL that it shares with its base: the scheme and the authority as the URL writes
them, and the path of the base without the slashes at its end. -/
def sharedFront (url base : Url) : List Char :=
  (url.scheme ++ ":" ++ url.authorityText).toList ++ trimSlashesRight base.pathText.toList

theorem pathBelow?_eq_some {path base : String} {rest : List Char}
    (h : pathBelow? path base = some rest) :
    path.toList = trimSlashesRight base.toList ++ rest ∧ ∃ more, rest = '/' :: more := by
  obtain ⟨below, hbelow, h⟩ := Option.bind_eq_some_iff.mp h
  have happend := List.isPrefixOf?_eq_some_iff_append_eq.mp hbelow
  split at h
  next hslash =>
    obtain rfl := Option.some.inj h
    exact ⟨happend.symm, List.head?_eq_some_iff.mp hslash.1⟩
  next => cases h

/-- What a relative text tells of its URL and base. -/
theorem exists_of_relativeTo? (h : relativeTo? url base = some relative) :
    ∃ parsedBase parsed rest, Url.ofText? base = some parsedBase ∧ Url.ofText? url = some parsed ∧
      parsed.text = url ∧ pathBelow? parsed.pathText parsedBase.pathText = some rest ∧
      relative = String.ofList rest ++ parsed.queryText ++ parsed.fragmentText := by
  obtain ⟨parsedBase, hbase, h⟩ := Option.bind_eq_some_iff.mp h
  obtain ⟨parsed, hurl, h⟩ := Option.bind_eq_some_iff.mp h
  split at h
  next => cases h
  next hnormal =>
    obtain ⟨rest, hrest, h⟩ := Option.bind_eq_some_iff.mp h
    refine ⟨parsedBase, parsed, rest, hbase, hurl, ?_, hrest, (Option.some.inj h).symm⟩
    by_contra hother
    exact hnormal (Or.inl hother)

/-- A relative text begins with a slash. -/
theorem head_of_relativeTo? (h : relativeTo? url base = some relative) :
    ∃ more, relative.toList = '/' :: more := by
  obtain ⟨parsedBase, parsed, rest, -, -, -, hrest, rfl⟩ := exists_of_relativeTo? h
  obtain ⟨-, more, rfl⟩ := pathBelow?_eq_some hrest
  exact ⟨more ++ parsed.queryText.toList ++ parsed.fragmentText.toList, by simp⟩

/-- A relative text is no URL by itself. -/
theorem isAbsolute_of_relativeTo? (h : relativeTo? url base = some relative) :
    isAbsolute relative = false := by
  obtain ⟨more, hmore⟩ := head_of_relativeTo? h
  rw [isAbsolute, hmore]
  rfl

/-- A shortened URL is the front that it shares with the base, and the relative text behind it. -/
theorem toList_of_relativeTo? (hbase : Url.ofText? base = some parsedBase)
    (hurl : Url.ofText? url = some parsed) (h : relativeTo? url base = some relative) :
    url.toList = sharedFront parsed parsedBase ++ relative.toList := by
  obtain ⟨parsedBase', parsed', rest, hbase', hurl', htext, hrest, rfl⟩ := exists_of_relativeTo? h
  obtain rfl := Option.some.inj (hbase.symm.trans hbase')
  obtain rfl := Option.some.inj (hurl.symm.trans hurl')
  obtain ⟨hpath, -⟩ := pathBelow?_eq_some hrest
  calc url.toList = parsed.text.toList := by rw [htext]
    _ = (parsed.scheme ++ ":" ++ parsed.authorityText).toList ++ parsed.pathText.toList
          ++ parsed.queryText.toList ++ parsed.fragmentText.toList := by
        simp only [Url.text, String.toList_append]
    _ = sharedFront parsed parsedBase ++ (String.ofList rest ++ parsed.queryText
          ++ parsed.fragmentText).toList := by
        rw [hpath, sharedFront]
        simp only [String.toList_append, String.toList_ofList, List.append_assoc]

/-- A text without the slashes at its end does not end in slashes. -/
theorem trimSlashesRight_ne_append_slash (text front : List Char) :
    trimSlashesRight text ≠ front ++ ['/'] := by
  intro h
  have hne : List.rdropWhile (· == '/') text ≠ [] := by
    show trimSlashesRight text ≠ []
    rw [h]
    exact List.concat_ne_nil _ _
  have hlast := List.rdropWhile_last_not _ text hne
  have heq : List.rdropWhile (· == '/') text = front ++ ['/'] := h
  simp [heq] at hlast

theorem toList_rejoin (base relative : String) :
    (rejoin base relative).toList
      = trimSlashesRight base.toList ++ '/' :: trimSlashesLeft relative.toList := by
  simp [rejoin]

/-- Of several slashes behind the base all but one are lost, and nothing makes up for them. -/
theorem trimmed_append_ne (text front rest : List Char) :
    trimSlashesRight text ++ '/' :: trimSlashesLeft rest ≠ front ++ '/' :: '/' :: rest := by
  -- Every slash of `rest` goes to the front, which the base would have to end like.
  induction rest generalizing front with
  | nil =>
    intro h
    have hend : trimSlashesRight text ++ ['/'] = (front ++ ['/']) ++ ['/'] := by
      simpa [trimSlashesLeft] using h
    exact trimSlashesRight_ne_append_slash text front (List.append_cancel_right hend)
  | cons c rest ih =>
    intro h
    by_cases hc : c = '/'
    · subst hc
      exact ih (front ++ ['/']) (by simpa [trimSlashesLeft] using h)
    · have hkeep : trimSlashesLeft (c :: rest) = c :: rest :=
        List.dropWhile_cons_of_neg (by simpa using hc)
      have hend : trimSlashesRight text ++ '/' :: c :: rest
          = (front ++ ['/']) ++ '/' :: c :: rest := by
        rw [hkeep] at h
        simpa using h
      exact trimSlashesRight_ne_append_slash text front (List.append_cancel_right hend)

/-- Behind a front, a relative text is rejoined exactly when it has one slash only at its front and
the base is written like the front. -/
theorem trimmed_append_eq_iff {text front more : List Char} :
    trimSlashesRight text ++ '/' :: trimSlashesLeft ('/' :: more) = front ++ '/' :: more ↔
      more.head? ≠ some '/' ∧ trimSlashesRight text = front := by
  have hslash : trimSlashesLeft ('/' :: more) = trimSlashesLeft more := rfl
  rw [hslash]
  match more with
  | [] => simp [trimSlashesLeft]
  | c :: rest =>
    by_cases hc : c = '/'
    · subst hc
      have hlost := trimmed_append_ne text front rest
      simpa [trimSlashesLeft] using hlost
    · have hkeep : trimSlashesLeft (c :: rest) = c :: rest :=
        List.dropWhile_cons_of_neg (by simpa using hc)
      rw [hkeep, List.append_left_inj]
      simp [hc]

/-- A URL that was shortened comes back exactly when no second slash stands behind the base, and the
base, but for slashes at its end, is written like the front that the URL shares with it. -/
theorem rejoin_eq_iff (hbase : Url.ofText? base = some parsedBase)
    (hurl : Url.ofText? url = some parsed) (h : relativeTo? url base = some relative) :
    rejoin base relative = url ↔
      relative.toList[1]? ≠ some '/' ∧
        trimSlashesRight base.toList = sharedFront parsed parsedBase := by
  obtain ⟨more, hmore⟩ := head_of_relativeTo? h
  have hsecond : relative.toList[1]? = more.head? := by
    rw [hmore, List.getElem?_cons_succ, List.head?_eq_getElem?]
  rw [← String.toList_inj, toList_rejoin, toList_of_relativeTo? hbase hurl h, hsecond, hmore]
  exact trimmed_append_eq_iff

/-- A page of a site comes back: the site, but for its last slash, is written like the front of the
URL of the page. -/
theorem rejoin_eq_iff_page :
    relativeTo? "https://acme.test/app/docs?x=1#top" "https://acme.test/app/"
        = some "/docs?x=1#top" ∧
      rejoin "https://acme.test/app/" "/docs?x=1#top" = "https://acme.test/app/docs?x=1#top" := by
  have hbase : Url.ofText? "https://acme.test/app/" = some {
      scheme := "https", host := some (.name "acme.test"), path := .segments ["app", ""] } := by
    decide +kernel
  have hurl : Url.ofText? "https://acme.test/app/docs?x=1#top" = some {
      scheme := "https", host := some (.name "acme.test"), path := .segments ["app", "docs"],
      query := some "x=1", fragment := some "top" } := by
    decide +kernel
  have h : relativeTo? "https://acme.test/app/docs?x=1#top" "https://acme.test/app/"
      = some "/docs?x=1#top" := by decide +kernel
  exact ⟨h, (rejoin_eq_iff hbase hurl h).mpr ⟨by decide, by decide +kernel⟩⟩

/-- With a second slash behind its base a URL is shortened all the same, and leads elsewhere. -/
theorem rejoin_ne_of_double_slash :
    ¬∀ url base relative : String, relativeTo? url base = some relative →
      rejoin base relative = url := by
  intro h
  have hurl : relativeTo? "https://acme.test//x" "https://acme.test" = some "//x" := by
    decide +kernel
  have hjoin : rejoin "https://acme.test" "//x" ≠ "https://acme.test//x" := by decide +kernel
  exact hjoin (h _ _ _ hurl)

end ShortLink.Link
