import EntityQuery.Error

/-!
# Splitting URLs

Scheme, authority and path of a URL. A host in square brackets has to be an address of IPv6, and
an authority must not hold characters that look like separators.
-/

namespace EntityQuery.Url

open Text

/-- A URL up to its query string. -/
structure Parts where
  scheme : String
  authority : String
  path : String
  deriving DecidableEq, Repr, Inhabited

/-- Whether a scheme may hold a character. -/
def isSchemeChar (c : Char) : Bool := c.isAlphanum || c == '+' || c == '-' || c == '.'

/-- The scheme at the start of a URL, in lower case, and what follows it. -/
def takeScheme (cs : List Char) : List Char × List Char :=
  match cs with
  | c :: _ =>
    let scheme := cs.takeWhile (· != ':')
    if c.isAlpha && scheme.all isSchemeChar && scheme.length < cs.length then
      (scheme.map Char.toLower, cs.drop (scheme.length + 1))
    else ([], cs)
  | [] => ([], [])

/-- Characters that are equivalent to texts with separators. -/
def lookalikes : List Nat := [
  0x2047, 0x2048, 0x2049, 0x2100, 0x2101, 0x2105, 0x2106, 0x2A74, 0xFE13, 0xFE16, 0xFE55, 0xFE56,
  0xFE5F, 0xFE6B, 0xFF03, 0xFF0F, 0xFF1A, 0xFF1F, 0xFF20]

/-- Whether a part of an address of IPv4 is a number of one byte without leading zeros. -/
def isByteText (cs : List Char) : Bool :=
  cs.all Char.isDigit && (cs == ['0'] || (cs.head? != some '0' && cs != []))
    && cs.length ≤ 3 && Number.ofDigits (cs.map fun c => c.toNat - 48) ≤ 255

/-- Whether a text is an address of IPv4. -/
def isIpv4 (cs : List Char) : Bool :=
  let parts := splitChar '.' cs
  parts.length == 4 && parts.all isByteText

/-- Whether a text is a group of an address of IPv6. -/
def isHexGroup (cs : List Char) : Bool :=
  cs != [] && cs.length ≤ 4 && cs.all fun c => (hexDigit? c).isSome

/-- Whether the groups of an address of IPv6 are well formed: eight, or fewer around one gap. -/
def areGroups (groups : List (List Char)) : Bool :=
  let inner := (groups.drop 1).dropLast
  match inner.findIdx? (· == []) with
  | none => groups.length == 8 && groups.all isHexGroup
  | some i =>
    let before := groups.take (i + 1)
    let after := groups.drop (i + 2)
    let before := if before == [[]] then [] else before
    let after := if after == [[]] then [] else after
    before.all isHexGroup && after.all isHexGroup && before.length + after.length < 8

/-- Whether a text is an address of IPv6; an address of IPv4 may stand for the last two groups,
and a zone may follow a percent sign. -/
def isIpv6 (cs : List Char) : Bool :=
  let address := cs.takeWhile (· != '%')
  let zone := cs.drop address.length
  let zoneValid := match zone with
    | [] => true
    | _ :: r => r != [] && '%' ∉ r
  let groups := splitChar ':' address
  let groups := match groups.reverse with
    | last :: r =>
      if '.' ∈ last then
        if isIpv4 last then (['0'] :: ['0'] :: r).reverse else [['.']]
      else groups
    | [] => groups
  zoneValid && 3 ≤ (splitChar ':' address).length && groups.length ≤ 9 && areGroups groups

/-- Whether a text is an address of a later version: `v`, hexadecimal digits, a point and a
name. -/
def isIpFuture (cs : List Char) : Bool :=
  match cs with
  | 'v' :: r =>
    let version := r.takeWhile fun c => (hexDigit? c).isSome
    match version, r.drop version.length with
    | _ :: _, '.' :: name => name != [] && name.all (· != '\n')
    | _, _ => false
  | _ => false

/-- Whether an authority is acceptable. -/
def isAuthority (cs : List Char) : Bool :=
  let bracketsMatch := ('[' ∈ cs) == (']' ∈ cs)
  let host := ((cs.dropWhile (· != '[')).drop 1).takeWhile (· != ']')
  let hostValid := '[' ∉ cs || (if host.head? = some 'v' then isIpFuture host else isIpv6 host)
  bracketsMatch && hostValid && cs.all fun c => c.toNat ∉ lookalikes

/-- Splits a URL. Control characters and blanks before it, and tabs and line breaks inside, do not
count. -/
def split (url : String) : Except Error Parts :=
  let cs := (url.toList.dropWhile fun c => c.toNat ≤ 0x20).filter fun c =>
    c != '\t' && c != '\n' && c != '\r'
  let (scheme, rest) := takeScheme cs
  let (authority, rest) := match rest with
    | '/' :: '/' :: r =>
      let a := r.takeWhile fun c => c != '/' && c != '?' && c != '#'
      (a, r.drop a.length)
    | r => ([], r)
  if isAuthority authority then
    .ok ⟨String.ofList scheme, String.ofList authority,
      String.ofList (rest.takeWhile fun c => c != '#' && c != '?')⟩
  else .error (.malformed .url)

/-- Scheme and authority of a URL; empty for a URL without scheme. -/
def serverRoot (url : String) : Except Error String := do
  let p ← split url
  pure (if p.scheme = "" then "" else p.scheme ++ "://" ++ p.authority)

end EntityQuery.Url
