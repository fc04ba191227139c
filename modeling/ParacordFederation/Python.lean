import ParacordFederation.Double

/-!
Python values the validation scripts handle: the JSON documents `json.loads` builds, the
exceptions they raise, and the few built-in tests and conversions the scripts apply to them.
A JSON number is the exact value `json.loads` built: an `int` exactly, a `float` as the double
it is.
-/

namespace ParacordFederation

/-- A value built by `json.loads`. An object keeps its members in text order. -/
inductive Json where
  | null
  | bool (value : Bool)
  | num (value : ℚ)
  | str (value : String)
  | arr (items : List Json)
  | obj (fields : List (String × Json))
  deriving Inhabited

/-- A raised Python exception, by class name and by `str(exc)`. -/
structure PyException where
  kind : String
  message : String
  deriving DecidableEq, Repr

namespace Json

/-- Python's `value.get(key)`: the member's value for a dict, whose last member of a repeated key wins
as in `json.loads`; `None` for a missing key. Other values have no `.get`, and the scripts only
call it on values they know to be dicts. -/
def get? : Json → String → Option Json
  | obj fields, key => fields.reverse.lookup key
  | _, _ => none

def getD (value : Json) (key : String) (default : Json) : Json :=
  (value.get? key).getD default

def isDict : Json → Bool
  | obj _ => true
  | _ => false

end Json

/-- Python's `value == k` for an integer `k`, where `None` stands for a missing member:
numbers compare by value and `bool` is an `int` subclass. -/
def pyEqInt : Option Json → Int → Bool
  | some (.num value), k => value == k
  | some (.bool value), k => (if value then 1 else 0) == k
  | _, _ => false

def pyEqStr : Option Json → String → Bool
  | some (.str value), text => value == text
  | _, _ => false

def asStr : Option Json → Option String
  | some (.str value) => some value
  | _ => none

def isDictMember : Option Json → Bool
  | some value => value.isDict
  | none => false

def floatTypeError (className : String) : PyException :=
  ⟨"TypeError", "float() argument must be a string or a real number, not \x27" ++ className ++ "\x27"⟩

/-- Python's `float(value)`. How `float` parses a string is CPython's, not the scripts', so it is the
parameter `ofStr`; every other value converts or raises as the built-in does. -/
def pyFloat (ofStr : String → Option ℚ) : Json → Except PyException ℚ
  | .num value => .ok (Double.round value)
  | .bool value => .ok (if value then 1 else 0)
  | .str text =>
      match ofStr text with
      | some value => .ok value
      | none => .error ⟨"ValueError", "could not convert string to float: \x27" ++ text ++ "\x27"⟩
  | .null => .error (floatTypeError "NoneType")
  | .arr _ => .error (floatTypeError "list")
  | .obj _ => .error (floatTypeError "dict")

/-- Python's `repr` of a list of strings holding no quote or backslash, as an f-string prints
it: `['a', 'b']`. -/
def pyReprStrList (items : List String) : String :=
  "[" ++ ", ".intercalate (items.map fun item => "\x27" ++ item ++ "\x27") ++ "]"

@[simp] theorem pyEqInt_none (k : Int) : pyEqInt none k = false := rfl

@[simp] theorem pyEqStr_none (text : String) : pyEqStr none text = false := rfl

@[simp] theorem asStr_none : asStr none = none := rfl

theorem pyEqStr_eq (value : Option Json) (text : String) :
    pyEqStr value text = (asStr value == some text) := by
  rcases value with _ | (_ | _ | _ | value | _ | _) <;> simp [pyEqStr, asStr]

end ParacordFederation
