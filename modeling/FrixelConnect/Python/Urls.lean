import FrixelConnect.Python.Text

/-!
# URLs as Python reads and quotes them

The part of `urllib.parse` that finds the host name of a URL, and `quote` with no safe characters.

## Implementation notes

`urlsplit` has two more checks of the network location, of an address in brackets and of its
Unicode normal form. They are one predicate here, which the functions take.
-/

namespace Python

/-- `s.partition(sep)`, where it is found. -/
def partition (sep : Char) (s : List Char) : Option (List Char × List Char) :=
  if sep ∈ s then some (s.takeWhile (· ≠ sep), (s.dropWhile (· ≠ sep)).tail) else none

/-- `s.rpartition(sep)[2]`. -/
def rpartition (sep : Char) (s : List Char) : List Char := (s.reverse.takeWhile (· ≠ sep)).reverse

/-- The characters of a scheme. -/
def isSchemeChar (c : Char) : Bool := c.isAlphanum || ['+', '-', '.'].contains c

/-- The URL without its scheme. -/
def dropScheme (url : List Char) : List Char :=
  match partition ':' url with
  | some (scheme, rest) =>
      if (scheme.head?.any Char.isAlpha) && scheme.all isSchemeChar then rest else url
  | none => url

/-- `urlsplit(url).netloc`; `none` where it raises. -/
def netloc (valid_netloc : List Char → Bool) (url : String) : Option (List Char) :=
  let trimmed := url.toList.dropWhile fun c => c.toNat ≤ 32
  match dropScheme (trimmed.filter fun c => c ≠ '\t' ∧ c ≠ '\r' ∧ c ≠ '\n') with
  | '/' :: '/' :: rest =>
      let loc := rest.takeWhile fun c => c ≠ '/' ∧ c ≠ '?' ∧ c ≠ '#'
      if ('[' ∈ loc ↔ ']' ∈ loc) ∧ valid_netloc loc = true then some loc else none
  | _ => some []

/-- The host part of a network location, without user and port. -/
def hostinfo (loc : List Char) : List Char :=
  let info := rpartition '@' loc
  match partition '[' info with
  | some (_, bracketed) => bracketed.takeWhile (· ≠ ']')
  | none => info.takeWhile (· ≠ ':')

/-- `urlparse(url).hostname`; the outer `none` where it raises. A zone is not lower-cased. -/
def hostname (valid_netloc : List Char → Bool) (url : String) : Option (Option String) :=
  (netloc valid_netloc url).map fun loc =>
    let host := hostinfo loc
    if host = [] then none
    else some (String.ofList ((host.takeWhile (· ≠ '%')).map Char.toLower ++
      host.dropWhile (· ≠ '%')))

example : hostname (fun _ => true) "https://user@Portal.Example:8443/x" =
    some (some "portal.example") := by decide +kernel

/-- The digits of `%XX`. -/
def percentDigit (n : ℕ) : Char := if n < 10 then Char.ofNat (48 + n) else Char.ofNat (55 + n)

/-- `quote(string, safe="")`. -/
def quote (string : String) : String :=
  String.ofList (string.toList.flatMap fun c =>
    if c.isAlphanum || ['_', '.', '-', '~'].contains c then [c]
    else (String.utf8EncodeChar c).flatMap fun b =>
      ['%', percentDigit (b.toNat / 16), percentDigit (b.toNat % 16)])

end Python
