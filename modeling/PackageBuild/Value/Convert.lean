import PackageBuild.Number.Reader
import PackageBuild.Value.Basic

/-!
# Converting values

A value may be given where a number or bytes are wanted. A text is read as what is wanted, a number
is one already, and an integer becomes a floating-point number if it is not too large. All other
values are refused.
-/

namespace PackageBuild.Value

open Number (Binary64)

/-- Why a value is not converted. -/
inductive Unconverted where
  | misread (reason : Number.Misread)
  | noBytes (reason : Text.HexMisread)
  /-- An integer is larger than every floating-point number. -/
  | tooLarge
  /-- A value of this kind is no floating-point number. -/
  | notReal (typeName : String)
  | notComplex (typeName : String)
  | notHex (typeName : String)
  | noDigits
  deriving DecidableEq, Repr

/-- The text about a value that is not converted. -/
def Unconverted.message : Unconverted → String
  | misread reason => reason.message
  | noBytes reason => reason.message
  | tooLarge => "int too large to convert to float"
  | notReal name => "float() argument must be a string or a real number, not '" ++ name ++ "'"
  | notComplex name =>
    "complex() first argument must be a string or a number, not '" ++ name ++ "'"
  | notHex name => "fromhex() argument must be str, not " ++ name
  | noDigits => "int() can't convert non-string with explicit base"

/-- The floating-point number nearest to an integer. -/
def nearest (n : Int) : Except Unconverted Binary64 :=
  let x := Binary64.ofRatio (n < 0) n.natAbs 1
  if x.isInfinite then .error .tooLarge else .ok x

/-- The floating-point number that a value stands for, or a refusal of it. -/
def realOr (refusal : Unconverted) (v : Value) : Except Unconverted Binary64 :=
  match v, v.asInt? with
  | float x, _ => .ok x
  | _, some n => nearest n
  | _, none => .error refusal

/-- The floating-point number that a value stands for. -/
def toFloat (v : Value) : Except Unconverted Binary64 :=
  match v.asText? with
  | some s => (Number.readBinary64 s).mapError .misread
  | none => realOr (.notReal v.typeName) v

/-- The complex number that a value stands for. -/
def toComplex (v : Value) : Except Unconverted (Binary64 × Binary64) :=
  match v.asText? with
  | some s => (Number.readComplex s).mapError .misread
  | none => (realOr (.notComplex v.typeName) v).map fun x => (x, .zero false)

/-- The bytes that a value writes in hexadecimal digits. -/
def toBytes (v : Value) : Except Unconverted (List UInt8) :=
  match v.asText? with
  | some s => (Text.readHexBytes s).mapError .noBytes
  | none => .error (.notHex v.typeName)

/-- The integer that a value writes in hexadecimal digits. -/
def toHexInteger (v : Value) : Except Unconverted Int :=
  match v.asText? with
  | some s => (Number.readHexInteger s).mapError .misread
  | none => .error .noDigits

end PackageBuild.Value
