/-!
# Request targets

A target is a path with a query, perhaps behind a scheme and an authority; a fragment is dropped.
An absolute target without a path has the path `/`. A target may also be an authority alone, which
has no path at all, or a lone asterisk. Nothing is decoded.
-/

namespace HostStatus

structure Uri where
  scheme : Option String
  authority : Option String
  path : String
  query : Option String
  deriving DecidableEq

namespace Uri

/-- What stands before the first `mark`, and what follows it if there is one. -/
def cut (mark : Char) (cs : List Char) : List Char × Option (List Char) :=
  match cs.dropWhile (· ≠ mark) with
  | [] => (cs, none)
  | _ :: rest => (cs.takeWhile (· ≠ mark), some rest)

def isSchemeChar (c : Char) : Bool :=
  c.isAlphanum || c = '+' || c = '-' || c = '.' || c = '~'

/-- The schemes of the web are known in letters of either case, all others stay as they are. -/
def schemeName (cs : List Char) : String :=
  let lower := String.ofList (cs.map Char.toLower)
  if lower = "http" ∨ lower = "https" then lower else String.ofList cs

/-- The scheme and what follows its `://`. -/
def cutScheme? (cs : List Char) : Option (List Char × List Char) :=
  match cs.dropWhile isSchemeChar with
  | ':' :: '/' :: '/' :: rest => some (cs.takeWhile isSchemeChar, rest)
  | _ => none

def parse (s : String) : Uri :=
  let (whole, _) := cut '#' s.toList
  let (target, query) := cut '?' whole
  let query := query.map String.ofList
  match target with
  | '/' :: _ | ['*'] => ⟨none, none, String.ofList target, query⟩
  | _ =>
    match cutScheme? target with
    | some (scheme, rest) =>
      let authority := String.ofList (rest.takeWhile (· ≠ '/'))
      let path := match rest.dropWhile (· ≠ '/') with
        | [] => "/"
        | path => String.ofList path
      ⟨some (schemeName scheme), some authority, path, query⟩
    | none => ⟨none, some (String.ofList target), "", query⟩

/-- Whether the path leads anywhere from the root. -/
def isRooted (u : Uri) : Bool :=
  u.path.toList.head? = some '/'

def toText (u : Uri) : String :=
  (match u.scheme with
    | some scheme => scheme ++ "://"
    | none => "") ++ u.authority.getD "" ++ u.path ++
  match u.query with
    | some query => "?" ++ query
    | none => ""

end Uri

end HostStatus
