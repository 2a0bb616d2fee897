import Mathlib

/- The values of an object that a client decodes without knowing its type, the accessors that
   walk one by field names, and the conversion of such values to typed ones. The entries of a
   map stand in the order in which a range over it meets them; how a float prints is open. -/
namespace Unstructured

inductive Value (F : Type) where
  | nil
  | bool (b : Bool)
  | int64 (n : Int)
  | float64 (x : F)
  | string (s : String)
  | slice (items : List (Value F))
  | map (entries : List (String × Value F))

section
variable {F : Type}

def Value.typeName : Value F → String
  | .nil => "<nil>"
  | .bool _ => "bool"
  | .int64 _ => "int64"
  | .float64 _ => "float64"
  | .string _ => "string"
  | .slice _ => "[]interface \x7b\x7d"
  | .map _ => "map[string]interface \x7b\x7d"

def Value.kind : Value F → String
  | .nil => "invalid"
  | .bool _ => "bool"
  | .int64 _ => "int64"
  | .float64 _ => "float64"
  | .string _ => "string"
  | .slice _ => "slice"
  | .map _ => "map"

section
variable (formatFloat : F → String)

mutual

def sprint : Value F → String
  | .nil => "<nil>"
  | .bool b => if b then "true" else "false"
  | .int64 n => toString n
  | .float64 x => formatFloat x
  | .string s => s
  | .slice items => "[" ++ " ".intercalate (sprintItems items) ++ "]"
  | .map entries =>
    "map[" ++ " ".intercalate (((sprintEntries entries).mergeSort fun a b => a.1 ≤ b.1).map
      fun e => e.1 ++ ":" ++ e.2) ++ "]"

def sprintItems : List (Value F) → List String
  | [] => []
  | v :: rest => sprint v :: sprintItems rest

def sprintEntries : List (String × Value F) → List (String × String)
  | [] => []
  | (key, v) :: rest => (key, sprint v) :: sprintEntries rest

end

structure AccessErr (F : Type) where
  fields : List String
  value : Value F
  expected : String

def jsonPath (fields : List String) : String := "." ++ ".".intercalate fields

def AccessErr.text (err : AccessErr F) : String :=
  jsonPath err.fields ++ " accessor error: " ++ sprint formatFloat err.value ++
    " is of the type " ++ err.value.typeName ++ ", expected " ++ err.expected

end

def mapType : String := "map[string]interface\x7b\x7d"

/-- A field that is not found is no error, and neither is one inside a nil. -/
def nestedFieldNoCopy (walked : List String) :
    Value F → List String → Except (AccessErr F) (Option (Value F))
  | v, [] => .ok (some v)
  | .nil, _ :: _ => .ok none
  | .map entries, field :: rest =>
    match entries.lookup field with
    | none => .ok none
    | some v => nestedFieldNoCopy (walked ++ [field]) v rest
  | v, field :: _ => .error ⟨walked ++ [field], v, mapType⟩

def nestedInt64 (obj : Value F) (fields : List String) : Except (AccessErr F) (Option Int) :=
  match nestedFieldNoCopy [] obj fields with
  | .error err => .error err
  | .ok none => .ok none
  | .ok (some (.int64 n)) => .ok (some n)
  | .ok (some v) => .error ⟨fields, v, "int64"⟩

def nestedMap (obj : Value F) (fields : List String) :
    Except (AccessErr F) (Option (List (String × Value F))) :=
  match nestedFieldNoCopy [] obj fields with
  | .error err => .error err
  | .ok none => .ok none
  | .ok (some (.map entries)) => .ok (some entries)
  | .ok (some v) => .error ⟨fields, v, mapType⟩

/-- The value that stands in another one under a path of field names. -/
inductive At : Value F → List String → Value F → Prop where
  | here (v : Value F) : At v [] v
  | under {entries : List (String × Value F)} {field : String} {v w : Value F}
      {rest : List String} (found : entries.lookup field = some v) (inner : At v rest w) :
      At (.map entries) (field :: rest) w

/-- A text is converted from a text only. An integer is told apart because Go could convert
    it to a text, as a rune. -/
def stringFrom (type : String) : Value F → Except String String
  | .nil => .ok ""
  | .string s => .ok s
  | .int64 _ => .error ("cannot convert int64 to " ++ type)
  | _ => .error "unrecognized type: string"

def sliceFrom {α : Type} (item : Value F → Except String α) : Value F → Except String (List α)
  | .nil => .ok []
  | .slice items => items.mapM item
  | v => .error ("cannot restore slice from " ++ v.kind)

def mapFrom {α : Type} (item : Value F → Except String α) :
    Value F → Except String (List (String × α))
  | .nil => .ok []
  | .map entries => entries.mapM fun e => (item e.2).map (e.1, ·)
  | v => .error ("cannot restore map from " ++ v.kind)

def structFrom {α : Type} (zero : α) (members : List (String × Value F) → Except String α) :
    Value F → Except String α
  | .nil => .ok zero
  | .map entries => members entries
  | v => .error ("cannot restore struct from: " ++ v.kind)

def member (entries : List (String × Value F)) (name : String) : Value F :=
  (entries.lookup name).getD .nil

def omitEmpty {α : Type} (xs : List α) (encoded : Value F) : Value F :=
  if xs.isEmpty then .nil else encoded

end

end Unstructured
