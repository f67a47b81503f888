/-!
# Text inside markup

The four characters that mean something in markup are written as entities. `escape` replaces them
one after the other in the whole text, the ampersand first, since the others bring ampersands in.
`entity` says what a single character becomes.
-/

namespace HostStatus.Text.Markup

def replace (c : Char) (entity : List Char) (cs : List Char) : List Char :=
  cs.flatMap fun x => if x = c then entity else [x]

def escapeChars (cs : List Char) : List Char :=
  replace '"' "&quot;".toList
    (replace '>' "&gt;".toList
      (replace '<' "&lt;".toList
        (replace '&' "&amp;".toList cs)))

def entity (c : Char) : List Char :=
  match c with
  | '&' => "&amp;".toList
  | '<' => "&lt;".toList
  | '>' => "&gt;".toList
  | '"' => "&quot;".toList
  | c => [c]

def escape (s : String) : String :=
  String.ofList (escapeChars s.toList)

end HostStatus.Text.Markup
