import HostStatus.Decimal.Layout

/-!
# JSON values and their compact text

Members of an object keep their order. A number is kept as the text it is written with. Texts have
no white space; in strings only what has to be escaped is.
-/

namespace HostStatus

inductive Json where
  | null
  | boolean (value : Bool)
  | number (numeral : String)
  | string (value : String)
  | array (items : List Json)
  | object (members : List (String × Json))

namespace Json

def escapeChar (c : Char) : List Char :=
  match c with
  | '"' => ['\\', '"']
  | '\\' => ['\\', '\\']
  | '\x08' => ['\\', 'b']
  | '\x0c' => ['\\', 'f']
  | '\n' => ['\\', 'n']
  | '\r' => ['\\', 'r']
  | '\t' => ['\\', 't']
  | c =>
    if c.toNat < 0x20 then
      ['\\', 'u', '0', '0', Nat.digitChar (c.toNat / 16), Nat.digitChar (c.toNat % 16)]
    else [c]

def quoteChars (cs : List Char) : List Char :=
  '"' :: cs.flatMap escapeChar ++ ['"']

/-- The items with a comma between each two. -/
def separated : List (List Char) → List Char
  | [] => []
  | [cs] => cs
  | cs :: rest => cs ++ ',' :: separated rest

mutual

def toChars : Json → List Char
  | null => "null".toList
  | boolean value => if value then "true".toList else "false".toList
  | number numeral => numeral.toList
  | string value => quoteChars value.toList
  | array items => '[' :: separated (itemTexts items) ++ [']']
  | object members => '{' :: separated (memberTexts members) ++ ['}']

def itemTexts : List Json → List (List Char)
  | [] => []
  | item :: items => item.toChars :: itemTexts items

def memberTexts : List (String × Json) → List (List Char)
  | [] => []
  | (key, value) :: members =>
    (quoteChars key.toList ++ ':' :: value.toChars) :: memberTexts members

end

def toText (j : Json) : String :=
  String.ofList j.toChars

/-- Numbers are written positionally from a millionth to below ten trillions. -/
def singleLayout : Decimal.Layout where
  tie := .even
  positional := some (-6, 13)
  keepsPoint := true
  nan := "null"
  infinity _ := "null"

/-- A number that is not finite has no numeral. -/
def ofSingle (x : Single) : Json :=
  if x.isFinite then .number (singleLayout.toText x) else .null

end Json

end HostStatus
