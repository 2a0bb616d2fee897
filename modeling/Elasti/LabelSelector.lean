import Elasti.Unstructured

/- Label selectors: how an unstructured one is read, how it becomes a list of requirements on
   labels, and which labels meet it. A set of labels is a list read at the first entry of a
   key. The text of the errors that the check of a requirement collects is left open. -/
namespace LabelSelectors
open Unstructured

abbrev Labels := List (String × String)

structure LabelSelectorRequirement where
  key : String
  operator : String
  values : List String
  deriving DecidableEq, Repr

structure LabelSelector where
  matchLabels : Labels
  matchExpressions : List LabelSelectorRequirement
  deriving DecidableEq, Repr

section
variable {F : Type}

def requirementFrom : Value F → Except String LabelSelectorRequirement :=
  structFrom ⟨"", "", []⟩ fun entries => do
    let key ← stringFrom "string" (member entries "key")
    let operator ← stringFrom "v1.LabelSelectorOperator" (member entries "operator")
    let values ← sliceFrom (stringFrom "string") (member entries "values")
    return ⟨key, operator, values⟩

def fromUnstructured (entries : List (String × Value F)) : Except String LabelSelector := do
  let labels ← mapFrom (stringFrom "string") (member entries "matchLabels")
  let expressions ← sliceFrom requirementFrom (member entries "matchExpressions")
  return ⟨labels, expressions⟩

def unlessEmpty {α : Type} (name : String) (xs : List α) (encoded : Value F) :
    List (String × Value F) :=
  if xs.isEmpty then [] else [(name, encoded)]

def requirementValue (expr : LabelSelectorRequirement) : Value F :=
  .map ([("key", .string expr.key), ("operator", .string expr.operator)] ++
    unlessEmpty "values" expr.values (.slice (expr.values.map .string)))

def toUnstructured (ps : LabelSelector) : List (String × Value F) :=
  -- a selector as it is stored: an empty part of it is left out
  unlessEmpty "matchLabels" ps.matchLabels
      (.map (ps.matchLabels.map fun label => (label.1, .string label.2))) ++
    unlessEmpty "matchExpressions" ps.matchExpressions
      (.slice (ps.matchExpressions.map requirementValue))

end

inductive Operator where
  | equals
  | opIn
  | opNotIn
  | opExists
  | opDoesNotExist
  deriving DecidableEq, Repr

structure Requirement where
  key : String
  operator : Operator
  strValues : List String
  deriving DecidableEq, Repr

def alphanumeric (c : Char) : Bool :=
  ('a' ≤ c && c ≤ 'z') || ('A' ≤ c && c ≤ 'Z') || ('0' ≤ c && c ≤ '9')

def isName (text : List Char) : Bool :=
  decide (text.length ≤ 63) && text.all (fun c => alphanumeric c || c ∈ ['-', '_', '.']) &&
    text.head?.any alphanumeric && text.getLast?.any alphanumeric

def lowerAlphanumeric (c : Char) : Bool := ('a' ≤ c && c ≤ 'z') || ('0' ≤ c && c ≤ '9')

def isDNS1123Subdomain (text : List Char) : Bool :=
  decide (text.length ≤ 253) && (text.splitOn '.').all fun part =>
    part.all (fun c => lowerAlphanumeric c || c == '-') &&
      part.head?.any lowerAlphanumeric && part.getLast?.any lowerAlphanumeric

def isQualifiedName (key : String) : Bool :=
  match key.toList.splitOn '/' with
  | [name] => isName name
  | [domain, name] => isDNS1123Subdomain domain && isName name
  | _ => false

def isValidLabelValue (value : String) : Bool := value.isEmpty || isName value.toList

def enoughValues : Operator → List String → Bool
  | .opIn, vals | .opNotIn, vals => !vals.isEmpty
  | .equals, vals => vals.length == 1
  | .opExists, vals | .opDoesNotExist, vals => vals.isEmpty

def Requirement.valid (r : Requirement) : Bool :=
  isQualifiedName r.key && enoughValues r.operator r.strValues &&
    r.strValues.all isValidLabelValue

inductive SelectorErr where
  | operator (found : String)
  | requirement (found : Requirement)
  deriving DecidableEq, Repr

def SelectorErr.text (quoted : String → String) (collected : Requirement → String) :
    SelectorErr → String
  | .operator found => quoted found ++ " is not a valid label selector operator"
  | .requirement found => collected found

def newRequirement (key : String) (op : Operator) (vals : List String) :
    Except SelectorErr Requirement :=
  if (Requirement.mk key op vals).valid then .ok ⟨key, op, vals⟩
  else .error (.requirement ⟨key, op, vals⟩)

def selectionOperator (operator : String) : Option Operator :=
  if operator = "In" then some .opIn
  else if operator = "NotIn" then some .opNotIn
  else if operator = "Exists" then some .opExists
  else if operator = "DoesNotExist" then some .opDoesNotExist
  else none

def expressionRequirement (expr : LabelSelectorRequirement) : Except SelectorErr Requirement :=
  match selectionOperator expr.operator with
  | none => .error (.operator expr.operator)
  | some op => newRequirement expr.key op expr.values

/-- A selector that asks for nothing selects everything. The requirements are kept sorted by
    their keys. -/
def labelSelectorAsSelector (ps : LabelSelector) : Except SelectorErr (List Requirement) :=
  if ps.matchLabels.length + ps.matchExpressions.length = 0 then .ok []
  else
    match ps.matchLabels.mapM fun label => newRequirement label.1 .equals [label.2] with
    | .error err => .error err
    | .ok labels =>
      match ps.matchExpressions.mapM expressionRequirement with
      | .error err => .error err
      | .ok expressions => .ok ((labels ++ expressions).mergeSort fun a b => a.key ≤ b.key)

def Requirement.matches (r : Requirement) (ls : Labels) : Bool :=
  match r.operator, ls.lookup r.key with
  | .equals, none | .opIn, none => false
  | .equals, some v | .opIn, some v => r.strValues.contains v
  | .opNotIn, none => true
  | .opNotIn, some v => !r.strValues.contains v
  | .opExists, found => found.isSome
  | .opDoesNotExist, found => found.isNone

def selectorMatches (requirements : List Requirement) (ls : Labels) : Bool :=
  requirements.all fun r => r.matches ls

@[mk_iff]
structure Holds (expr : LabelSelectorRequirement) (ls : Labels) : Prop where
  isIn : expr.operator = "In" → ∃ v ∈ expr.values, ls.lookup expr.key = some v
  isNotIn : expr.operator = "NotIn" → ∀ v ∈ expr.values, ls.lookup expr.key ≠ some v
  isThere : expr.operator = "Exists" → ls.lookup expr.key ≠ none
  isNotThere : expr.operator = "DoesNotExist" → ls.lookup expr.key = none

structure Selects (ps : LabelSelector) (ls : Labels) : Prop where
  matchLabels : ∀ label ∈ ps.matchLabels, ls.lookup label.1 = some label.2
  matchExpressions : ∀ expr ∈ ps.matchExpressions, Holds expr ls

def LabelSelectorRequirement.valid (expr : LabelSelectorRequirement) : Bool :=
  (selectionOperator expr.operator).any fun op => (Requirement.mk expr.key op expr.values).valid

def LabelSelector.valid (ps : LabelSelector) : Bool :=
  ps.matchLabels.all (fun label => (Requirement.mk label.1 .equals [label.2]).valid) &&
    ps.matchExpressions.all LabelSelectorRequirement.valid

end LabelSelectors
