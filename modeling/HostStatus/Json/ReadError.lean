import HostStatus.Binary.Basic
import HostStatus.Decimal.Layout
import HostStatus.Text.Quoted

/-!
# Why a JSON text was not accepted

A text is read from left to right up to the first problem: it is not JSON, it ends too early, or
it is JSON so far but not of the shape that is asked for.
-/

namespace HostStatus.Json

/-- What stands where something else was asked for. -/
inductive Found where
  | null
  | boolean (value : Bool)
  | integer (value : Int)
  | floating (value : Double)
  | string (value : String)
  | array
  | object

/-- What was asked for. -/
inductive Expected where
  | string
  | single
  | record (name : String)

inductive Mismatch where
  | missingField (key : String)
  | duplicateField (key : String)
  /-- An array in place of a record, with so few items. -/
  | tooFewItems (count : Nat) (name : String) (fields : Nat)
  | wrongKind (found : Found) (expected : Expected)

inductive ReadError where
  | malformed
  | unfinished
  | unfit (mismatch : Mismatch)

/-- Numbers in messages are written positionally from a hundred-thousandth to below ten
quadrillions. -/
def messageLayout : Decimal.Layout where
  tie := .even
  positional := some (-5, 16)
  keepsPoint := true
  nan := "null"
  infinity _ := "null"

def Found.message : Found → String
  | null => "null"
  | boolean value => "boolean `" ++ toString value ++ "`"
  | integer value => "integer `" ++ toString value ++ "`"
  | floating value => "floating point `" ++ messageLayout.toText value ++ "`"
  | string value => "string " ++ Text.quoted value
  | array => "sequence"
  | object => "map"

def Expected.message : Expected → String
  | string => "a string"
  | single => "f32"
  | record name => "struct " ++ name

def Mismatch.message : Mismatch → String
  | missingField key => "missing field `" ++ key ++ "`"
  | duplicateField key => "duplicate field `" ++ key ++ "`"
  | tooFewItems count name fields =>
    "invalid length " ++ toString count ++ ", expected " ++ (Expected.record name).message ++
      " with " ++ toString fields ++ " elements"
  | wrongKind found expected =>
    "invalid type: " ++ found.message ++ ", expected " ++ expected.message

end HostStatus.Json
