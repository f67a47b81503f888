import HostStatus.Text.Blank

/-!
# Lines of an environment file

A line of the file goes on past its end as long as a quotation is open or a backslash has to
escape something. A number sign begins a comment at the start of a line, or behind white space
that is not quoted; the line ends there. A file that ends within a line is unfinished.
-/

namespace HostStatus.EnvFile

/-- Where a scan of a line stands. -/
inductive Quoting where
  | none
  | blank
  | escape
  | strong
  | strongEscape
  | weak
  | weakEscape
  deriving DecidableEq

namespace Quoting

/-- What an unquoted character that is not white space leads to. -/
def unquoted (c : Char) : Quoting :=
  match c with
  | '\\' => escape
  | '"' => weak
  | '\'' => strong
  | _ => none

/-- The next state; there is none where a comment begins. -/
def next? (q : Quoting) (c : Char) : Option Quoting :=
  match q with
  | blank => if c = '#' then Option.none else some (unquoted c)
  | none =>
    if Text.isBlank c && c ≠ '\n' && c ≠ '\r' then some blank else some (unquoted c)
  | escape => some none
  | weak => some (if c = '\\' then weakEscape else if c = '"' then none else weak)
  | weakEscape => some weak
  | strong => some (if c = '\\' then strongEscape else if c = '\'' then none else strong)
  | strongEscape => some strong

/-- What stands before a comment, and the state at the end if there is no comment. -/
def scan (q : Quoting) : List Char → List Char × Option Quoting
  | [] => ([], some q)
  | c :: cs =>
    match q.next? c with
    | Option.none => ([], Option.none)
    | some q =>
      let (kept, final) := scan q cs
      (c :: kept, final)

end Quoting

/-- Cuts a text behind each line feed. -/
def pieces (cs : List Char) : List (List Char) :=
  cs.foldr
    (fun c pieces =>
      if c = '\n' then [c] :: pieces
      else match pieces with
        | [] => [[c]]
        | piece :: pieces => (c :: piece) :: pieces)
    []

/-- Without the line feed at the end, nor a carriage return before it. -/
def chomp (cs : List Char) : List Char :=
  match cs.reverse with
  | '\n' :: '\r' :: rest => rest.reverse
  | '\n' :: rest => rest.reverse
  | _ => cs

inductive Line where
  | text (cs : List Char)
  | unfinished

/-- The lines of a file, given what is already read of the first. -/
def linesAfter (read : List Char) (q : Quoting) : List (List Char) → List Line
  | [] => if q = .none then [] else [.unfinished]
  | piece :: pieces =>
    let whole := read ++ piece
    if (Text.trimStart whole).head? = some '#' then .text [] :: linesAfter [] .none pieces
    else
      match q.scan piece with
      | (kept, none) => .text (read ++ kept) :: linesAfter [] .none pieces
      | (_, some .none) => .text (chomp whole) :: linesAfter [] .none pieces
      | (_, some q) => linesAfter whole q pieces

/-- A byte order mark at the start is not part of the text. -/
def lines (text : String) : List Line :=
  let cs := match text.toList with
    | '\uFEFF' :: cs => cs
    | cs => cs
  linesAfter [] .none (pieces cs)

end HostStatus.EnvFile
