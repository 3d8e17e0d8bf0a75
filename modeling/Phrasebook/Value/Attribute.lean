import Phrasebook.Value.Sequence
/-!
Attributes of values: the fields of objects, the parts of numbers and slices, and methods. The names
that a class has are listed here, whether or not a template can do anything with them.
-/
namespace Phrasebook

namespace Kind

def stringMethods : List String :=
  ["capitalize", "center", "count", "endswith", "expandtabs", "find", "index", "isalnum",
   "isalpha", "isascii", "isdigit", "islower", "isspace", "istitle", "isupper", "join", "ljust",
   "lower", "lstrip", "maketrans", "partition", "removeprefix", "removesuffix", "replace",
   "rfind", "rindex", "rjust", "rpartition", "rsplit", "rstrip", "split", "splitlines",
   "startswith", "strip", "swapcase", "title", "translate", "upper", "zfill"]

def decimalMethods : List String :=
  ["adjusted", "as_integer_ratio", "as_tuple", "canonical", "compare", "compare_signal",
   "compare_total", "compare_total_mag", "conjugate", "copy_abs", "copy_negate", "copy_sign",
   "exp", "fma", "from_float", "is_canonical", "is_finite", "is_infinite", "is_nan",
   "is_normal", "is_qnan", "is_signed", "is_snan", "is_subnormal", "is_zero", "ln", "log10",
   "logb", "logical_and", "logical_invert", "logical_or", "logical_xor", "max", "max_mag",
   "min", "min_mag", "next_minus", "next_plus", "next_toward", "normalize", "number_class",
   "quantize", "radix", "remainder_near", "rotate", "same_quantum", "scaleb", "shift", "sqrt",
   "to_eng_string", "to_integral", "to_integral_exact", "to_integral_value"]

def methods : Kind → List String
  | .text => ["casefold", "encode", "isdecimal", "isidentifier", "isnumeric",
      "isprintable"] ++ stringMethods
  | .bytes => ["decode", "fromhex", "hex"] ++ stringMethods
  | .int | .bool => ["as_integer_ratio", "bit_count", "bit_length", "conjugate", "from_bytes",
      "to_bytes"]
  | .float => ["as_integer_ratio", "conjugate", "fromhex", "hex", "is_integer"]
  | .complex => ["conjugate"]
  | .decimal => decimalMethods
  | .tuple => ["count", "index"]
  | .list => ["append", "clear", "copy", "count", "extend", "index", "insert", "pop", "remove",
      "reverse", "sort"]
  | .dict => ["clear", "copy", "fromkeys", "get", "items", "keys", "pop", "popitem",
      "setdefault", "update", "values"]
  | .set => ["add", "clear", "copy", "difference", "difference_update", "discard",
      "intersection", "intersection_update", "isdisjoint", "issubset", "issuperset", "pop",
      "remove", "symmetric_difference", "symmetric_difference_update", "union", "update"]
  | .keys | .items => ["isdisjoint"]
  | .slice => ["indices"]
  | _ => []

def hasMethod (k : Kind) (name : Text) : Bool := k.methods.any fun m => Text.ofString m == name

/-- Methods that belong to the class rather than to its values. -/
def isClassMethod (name : Text) : Bool :=
  name == "maketrans" || name == "fromkeys" || name == "from_bytes" || name == "fromhex"
    || name == "from_float"

end Kind

namespace Value

def numberPart? (v : Value) (name : Text) : Option Value :=
  match v with
  | int .. =>
    if name = "real" ∨ name = "numerator" then some v
    else if name = "imag" then some (ofInt 0)
    else if name = "denominator" then some (ofInt 1)
    else Option.none
  | float .. =>
    if name = "real" then some v else if name = "imag" then some (ofFloat 0)
    else Option.none
  | complex z _ =>
    if name = "real" then some (ofFloat z.re) else if name = "imag" then some (ofFloat z.im)
    else Option.none
  | decimal .. =>
    if name = "real" then some v
    else if name = "imag" then some (ofDecimal (Decimal.ofInt 0))
    else Option.none
  | _ => Option.none

def slicePart? (a b c : Value) (name : Text) : Option Value :=
  if name = "start" then some a else if name = "stop" then some b
  else if name = "step" then some c else Option.none

/-- Parts that a class shows of its values. -/
def isPart (k : Kind) (name : Text) : Bool :=
  k == .int && ["real", "imag", "numerator", "denominator"].any fun p => Text.ofString p == name

/-- A part of a value that is no method. -/
def part? (h : Heap) (v : Value) (name : Text) : Option Value :=
  match v with
  | object r => (h.object r).get? name
  | slice a b c _ => slicePart? a b c name
  | bool b => numberPart? (ofInt (if b then 1 else 0)) name
  | v => numberPart? v name

def classMember (k : Kind) (name : Text) : Except Fault Value :=
  if k.hasMethod name then
    .ok (if Kind.isClassMethod name then method (cls k) name .unmarked else unbound k name)
  else if isPart k name then .ok (unboundPart k name)
  else .error (.unworded .attribute)

def methodOf (v : Value) (name : Text) : Except Fault Value :=
  if v.kind.hasMethod name then .ok (method v name .unmarked)
  else .error (.noAttribute v.kind.fullLabel name)

def member (h : Heap) (v : Value) (name : Text) : Except Fault Value :=
  match part? h v name with
  | some x => .ok x
  | .none => match v with
    | cls k => classMember k name
    | v => methodOf v name

end Value
end Phrasebook
