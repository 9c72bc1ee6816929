import Mend.Log.Problem

namespace Mend.Log

inductive Value
  | truth
  | whole (n : Nat)
  | text (cs : List Char)
  /-- A kind of values, which is a value itself. -/
  | kind (name : String)
  | kinds (names : List String)
  | nothing
  /-- A value of a kind of which nothing else is known. -/
  | other (kind : String)
  deriving DecidableEq, Repr

namespace Value

def kindName : Value → String
  | truth => "bool"
  | whole _ => "int"
  | text _ => "str"
  | kind _ => "type"
  | kinds _ => "tuple"
  | nothing => "NoneType"
  | other k => k

def owner (v : Value) : String := s!"'{v.kindName}' object"

def kindText (name : String) : List Char := s!"<class '{name}'>".toList

def kindsText : List String → List Char
  | [] => ['(', ')']
  | [name] => '(' :: kindText name ++ [',', ')']
  | name :: names =>
    '(' :: kindText name ++ names.flatMap (fun n => [',', ' '] ++ kindText n) ++ [')']

def shown : Value → List Char
  | truth => "True".toList
  | whole n => Nat.toDigits 10 n
  | text cs => cs
  | kind name => kindText name
  | kinds names => kindsText names
  | nothing => "None".toList
  | other k => s!"<{k}>".toList

def quoted : Value → List Char
  | text cs => Text.quotedList cs
  | v => v.shown

def words (s : String) : List String := s.splitOn " "

def ownOperations : String → List String
  | "bool" | "int" => words ("__abs__ __add__ __and__ __bool__ __divmod__ __float__ __floordiv__ " ++
      "__index__ __int__ __invert__ __lshift__ __mod__ __mul__ __neg__ __or__ __pos__ __pow__ " ++
      "__radd__ __rand__ __rdivmod__ __rfloordiv__ __rlshift__ __rmod__ __rmul__ __ror__ __rpow__ " ++
      "__rrshift__ __rshift__ __rsub__ __rtruediv__ __rxor__ __sub__ __truediv__ __xor__")
  | "str" => words ("__add__ __contains__ __getitem__ __iter__ __len__ __mod__ __mul__ __rmod__ " ++
      "__rmul__")
  | "tuple" => words "__add__ __contains__ __getitem__ __iter__ __len__ __mul__ __rmul__"
  | "type" => words "__call__ __or__ __ror__"
  | "NoneType" => ["__bool__"]
  | "method-wrapper" | "builtin_function_or_method" => ["__call__"]
  | "wrapper_descriptor" | "method_descriptor" => ["__call__", "__get__"]
  | "getset_descriptor" => ["__delete__", "__get__", "__set__"]
  | "mappingproxy" => words "__contains__ __getitem__ __ior__ __iter__ __len__ __or__ __ror__"
  | _ => []

def commonOperations : List String :=
  words ("__delattr__ __eq__ __ge__ __getattribute__ __gt__ __hash__ __init__ __le__ __lt__ __ne__ " ++
    "__repr__ __setattr__ __str__")

def isOperation (kind name : String) : Bool :=
  commonOperations.contains name || (ownOperations kind).contains name

def ownFunctions : String → List String
  | "bool" | "int" => words ("__ceil__ __floor__ __getnewargs__ __round__ __trunc__ " ++
      "as_integer_ratio bit_count bit_length conjugate from_bytes to_bytes")
  | "str" => words ("__getnewargs__ capitalize casefold center count encode endswith expandtabs find " ++
      "format format_map index isalnum isalpha isascii isdecimal isdigit isidentifier islower " ++
      "isnumeric isprintable isspace istitle isupper join ljust lower lstrip maketrans partition " ++
      "removeprefix removesuffix replace rfind rindex rjust rpartition rsplit rstrip split " ++
      "splitlines startswith strip swapcase title translate upper zfill")
  | "tuple" => ["__class_getitem__", "__getnewargs__", "count", "index"]
  | "type" => words "__instancecheck__ __prepare__ __subclasscheck__ __subclasses__ mro"
  | "mappingproxy" => words "__class_getitem__ __reversed__ copy get items keys values"
  | _ => []

def commonFunctions : List String :=
  words ("__dir__ __format__ __getstate__ __init_subclass__ __new__ __reduce__ __reduce_ex__ " ++
    "__sizeof__ __subclasshook__")

def isFunction (kind name : String) : Bool :=
  commonFunctions.contains name || (ownFunctions kind).contains name

def kindFunctions : List String :=
  words ("__class_getitem__ __init_subclass__ __new__ __prepare__ __subclasshook__ from_bytes " ++
    "maketrans")

def isNumeric (kind : String) : Bool := kind = "bool" || kind = "int"

def numericParts : List String := ["denominator", "imag", "numerator", "real"]

def commonPart? (kind name : String) : Option Value :=
  if name = "__class__" then some (.kind kind)
  else if name = "__doc__" then some (text [])
  else if isOperation kind name then some (other "method-wrapper")
  else if isFunction kind name then some (other "builtin_function_or_method")
  else none

def numericPart? (n : Nat) (kind name : String) : Option Value :=
  if name = "real" || name = "numerator" then some (whole n)
  else if name = "imag" then some (whole 0)
  else if name = "denominator" then some (whole 1)
  else commonPart? kind name

def truthRemark : String :=
  "bool(x) -> bool\n\nReturns True when the argument x is true, False otherwise.\n" ++
  "The builtins True and False are the only two instances of the class bool.\n" ++
  "The class bool is a subclass of the class int, and cannot be subclassed."

def line : String → List String
  | "object" => ["object"]
  | "bool" => ["bool", "int", "object"]
  | k => [k, "object"]

def lentPart? (kind name : String) : Option Value :=
  if isOperation kind name then some (other "wrapper_descriptor")
  else if isFunction kind name then
    some (other (if kindFunctions.contains name then "builtin_function_or_method"
      else "method_descriptor"))
  else if isNumeric kind && numericParts.contains name then some (other "getset_descriptor")
  else commonPart? "type" name

def kindPart? (kind name : String) : Option Value :=
  let parents := (line kind).tail
  match name with
  | "__name__" | "__qualname__" => some (text kind.toList)
  | "__module__" => some (text "builtins".toList)
  | "__doc__" => some (text (if kind = "bool" then truthRemark.toList else []))
  | "__mro__" => some (kinds (line kind))
  | "__bases__" => some (kinds (parents.take 1))
  | "__base__" => some ((parents.head?.map Value.kind).getD nothing)
  | "__basicsize__" => some (whole 32)
  | "__itemsize__" | "__dictoffset__" | "__weakrefoffset__" => some (whole 0)
  | "__flags__" => some (whole 21500160)
  | "__dict__" => some (other "mappingproxy")
  | "__text_signature__" => some nothing
  | "__class__" => some (.kind "type")
  | name => lentPart? kind name

def functionPart? (kind name : String) : Option Value :=
  match kind, name with
  | "builtin_function_or_method", "__module__" => some nothing
  | "method-wrapper", "__self__" | "builtin_function_or_method", "__self__" => some truth
  | "builtin_function_or_method", "__objclass__" => none
  | _, "__objclass__" => some (.kind "int")
  | "getset_descriptor", "__text_signature__" => none
  | _, "__name__" | _, "__qualname__" | _, "__text_signature__" => some (text [])
  | _, _ => none

def isFunctionKind (kind : String) : Bool :=
  ["method-wrapper", "builtin_function_or_method", "wrapper_descriptor", "method_descriptor",
    "getset_descriptor"].contains kind

def otherPart? (kind name : String) : Option Value :=
  if isFunctionKind kind then functionPart? kind name <|> commonPart? kind name
  else commonPart? kind name

def part? (v : Value) (name : String) : Option Value :=
  match v with
  | truth =>
    if name = "__doc__" then some (text truthRemark.toList) else numericPart? 1 "bool" name
  | whole n => numericPart? n "int" name
  | kind k => kindPart? k name
  | other k => otherPart? k name
  | v => commonPart? v.kindName name

def part (v : Value) (name : String) : Except Problem Value :=
  match v.part? name, v with
  | some p, _ => .ok p
  | none, kind k =>
    if name = "__abstractmethods__" then .error (.abstractPart name)
    else .error (.noPart s!"type object '{k}'" name)
  | none, v => .error (.noPart v.owner name)

def isGeneric (kind : String) : Bool := ["type", "tuple", "mappingproxy"].contains kind

def item (v : Value) (position : Option Nat) (name : String) : Except Problem Value :=
  match v, position with
  | text cs, some i => (cs[i]?.map fun c => text [c]).elim (.error (.noItem "string")) .ok
  | text _, none => .error .badTextIndex
  | kinds ks, some i => (ks[i]?.map Value.kind).elim (.error (.noItem "tuple")) .ok
  | kinds _, none => .error .badRowIndex
  | other "mappingproxy", some i => .error (.noEntry (toString i))
  | other "mappingproxy", none =>
    if name = "__doc__" then .ok (text truthRemark.toList)
    else .error (.noEntry (Text.quoted name))
  | kind k, _ =>
    if isGeneric k then .ok (other "types.GenericAlias") else .error (.noItems s!"type '{k}'")
  | v, _ => .error (.noItems v.owner)

end Value

end Mend.Log
