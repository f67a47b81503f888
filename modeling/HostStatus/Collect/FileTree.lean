import HostStatus.Collect.Error

/-!
# Where paths lead

A path is walked from the root, or from the working directory, one component after the other, and
a link on the way is replaced by the path it holds. What is behind a file is never looked at, a
name must exist to be walked through, and names have at most 255 bytes except where the kernel
makes them up. A place is named without links, `.`, `..` and superfluous slashes; what is looked
for there must have a short enough name on the whole, and that comes before everything else.

Components that are empty or `.` lead nowhere and `..` leads back, and nothing is looked for on
their account. But where a name is followed by `..`, or by such components alone up to the end of
the path, there must be a directory, which is looked for with a slash after it: the slash counts.
-/

namespace HostStatus

inductive FileTree where
  | file
  | link (target : Text.Bytes)
  /-- Whether the kernel makes up the names, and what is there. -/
  | directory (synthetic : Bool) (entries : List (Text.Bytes × FileTree))

namespace FileTree

def child? (t : FileTree) (name : Text.Bytes) : Option FileTree :=
  match t with
  | file | link _ => none
  | directory _ entries => entries.lookup name

/-- What is found under a list of names. -/
def find? (t : FileTree) (names : List Text.Bytes) : Option FileTree :=
  names.foldlM child? t

def slash : UInt8 := 0x2f

def dot : UInt8 := 0x2e

/-- The components of a path, empty ones among them. -/
def components (path : Text.Bytes) : List Text.Bytes :=
  path.foldr
    (fun b parts =>
      if b = slash then [] :: parts
      else match parts with
        | [] => [[b]]
        | part :: parts => (b :: part) :: parts)
    [[]]

/-- The path of a place, whose names are listed from the innermost. -/
def pathOf (place : List Text.Bytes) : Text.Bytes :=
  if place = [] then [slash] else place.reverse.flatMap (slash :: ·)

def maxName : Nat := 255

def maxPath : Nat := 4096

def maxLinks : Nat := 40

def isDirectory : FileTree → Bool
  | directory _ _ => true
  | _ => false

/-- Where the walk of a path begins, given where it begins if it does not say so. -/
def startOf (place path : List Text.Bytes) : List Text.Bytes :=
  if path.head? = some [] then [] else place

/-- Looks for a name in a place, whose names are listed from the innermost. -/
def lookFor (root : FileTree) (place : List Text.Bytes) (name : Text.Bytes) :
    Except IoError FileTree :=
  if maxPath ≤ (pathOf (name :: place)).length then .error .nameTooLong
  else
    match root.find? place.reverse with
    | some (directory synthetic entries) =>
      if !synthetic && maxName < name.length then .error .nameTooLong
      else match entries.lookup name with
        | some t => .ok t
        | none => .error .noSuchFile
    | some _ => .error .notADirectory
    | none => .error .noSuchFile

/-- Whether what precedes components must be a directory, before any name is looked for in it. -/
def needDirectory (rest : List Text.Bytes) : Bool :=
  match rest.dropWhile (fun name => name = [] || name = [dot]) with
  | [] => !rest.isEmpty
  | name :: _ => name = [dot, dot]

/-- What was found at a place, if it is a directory. -/
def asDirectory (place : List Text.Bytes) (found : Except IoError FileTree) :
    Except IoError FileTree := do
  if maxPath ≤ (pathOf place).length + 1 then .error .nameTooLong
  else
    let t ← found
    if t.isDirectory then .ok t else .error .notADirectory

/-- Walks components from a place up to the first link, where `follow` goes on. -/
def walkWith (root : FileTree)
    (follow : List Text.Bytes → List Text.Bytes → Except IoError (List Text.Bytes))
    (place : List Text.Bytes) : List Text.Bytes → Except IoError (List Text.Bytes)
  | [] => .ok place
  | name :: rest =>
    if name = [] ∨ name = [dot] then walkWith root follow place rest
    else if name = [dot, dot] then walkWith root follow place.tail rest
    else
      match lookFor root place name with
      | .ok (link target) =>
        let path := components target
        follow (startOf place path) (path ++ rest)
      | found => do
        let _ ← if needDirectory rest then asDirectory (name :: place) found else found
        walkWith root follow (name :: place) rest

/-- Walks components from a place by way of at most so many links. -/
def walk (root : FileTree) :
    (links : Nat) → List Text.Bytes → List Text.Bytes → Except IoError (List Text.Bytes)
  | 0 => walkWith root fun _ _ => .error .tooManyLinks
  | links + 1 => walkWith root (walk root links)

/-- `working` lists the names of the working directory from the innermost. -/
def resolve (root : FileTree) (working : List Text.Bytes) (path : Text.Bytes) :
    Except IoError Text.Bytes :=
  if path.contains 0 then .error .nulInName
  else if path = [] then .error .noSuchFile
  else
    let names := components path
    (walk root maxLinks (startOf working names) names).map pathOf

end FileTree

end HostStatus
