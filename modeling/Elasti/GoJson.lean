import Mathlib

/- Decoding JSON into a variable that already holds a value, as encoding/json does. A type
   error is saved and decoding goes on; the first saved error is the one returned. What an
   error says depends on the JSON alone, so a decoder carries its errors as a function of it. -/
namespace GoJson

inductive Json where
  | null
  | bool (value : Bool)
  | num (literal : String)
  | str (text : String)
  | arr (items : List Json)
  | obj (members : List (String × Json))

def Json.kind : Json → String
  | .null => "null"
  | .bool _ => "bool"
  | .num _ => "number"
  | .str _ => "string"
  | .arr _ => "array"
  | .obj _ => "object"

structure UnmarshalTypeError where
  value : String
  type : String
  field : List String
  deriving DecidableEq, Repr

def UnmarshalTypeError.text (err : UnmarshalTypeError) : String :=
  match err.field with
  | [] => "json: cannot unmarshal " ++ err.value ++ " into Go value of type " ++ err.type
  | path => "json: cannot unmarshal " ++ err.value ++ " into Go struct field ." ++
      ".".intercalate path ++ " of type " ++ err.type

def mismatch (j : Json) (type : String) : UnmarshalTypeError := ⟨j.kind, type, []⟩

def within (name : String) (err : UnmarshalTypeError) : UnmarshalTypeError :=
  { err with field := name :: err.field }

structure Decoder (α : Type) where
  run : Json → α → α × Option UnmarshalTypeError
  error : Json → Option UnmarshalTypeError
  run_error : ∀ j old, (run j old).2 = error j

def string : Decoder String where
  run
    | .str text, _ => (text, none)
    | .null, old => (old, none)
    | j, old => (old, some (mismatch j "string"))
  error
    | .str _ => none
    | .null => none
    | j => some (mismatch j "string")
  run_error := by intro j old; cases j <;> rfl

/-- Two runes besides the letters themselves fold to an ASCII letter. -/
def foldRune (c : Char) : Char :=
  if c = '\u017f' then 'S' else if c = '\u212a' then 'K' else c.toUpper

def foldName (name : String) : List Char := name.toList.map foldRune

section Struct
variable {σ α β : Type}

structure Field (σ : Type) where
  name : String
  decoder : Decoder σ

def field (name : String) (get : σ → α) (set : α → σ → σ) (d : Decoder α) : Field σ where
  name := name
  decoder :=
    { run := fun j s => (set (d.run j (get s)).1 s, (d.run j (get s)).2.map (within name))
      error := fun j => (d.error j).map (within name)
      run_error := by intro j s; rw [d.run_error] }

def lookup (fields : List (Field σ)) (key : String) : Option (Field σ) :=
  fields.find? fun f => foldName f.name == foldName key

def runMembers (fields : List (Field σ)) :
    List (String × Json) → σ → σ × Option UnmarshalTypeError
  | [], s => (s, none)
  | (key, j) :: rest, s =>
    match lookup fields key with
    | none => runMembers fields rest s
    | some f =>
      let later := runMembers fields rest (f.decoder.run j s).1
      (later.1, (f.decoder.run j s).2 <|> later.2)

def membersError (fields : List (Field σ)) : List (String × Json) → Option UnmarshalTypeError
  | [] => none
  | (key, j) :: rest =>
    match lookup fields key with
    | none => membersError fields rest
    | some f => f.decoder.error j <|> membersError fields rest

theorem runMembers_error (fields : List (Field σ)) (members : List (String × Json)) (s : σ) :
    (runMembers fields members s).2 = membersError fields members := by
  induction members generalizing s with
  | nil => rfl
  | cons member rest ih =>
    obtain ⟨key, j⟩ := member
    cases found : lookup fields key with
    | none => simp only [runMembers, membersError, found, ih]
    | some f => simp only [runMembers, membersError, found, f.decoder.run_error, ih]

def struct (type : String) (fields : List (Field σ)) : Decoder σ where
  run
    | .null, s => (s, none)
    | .obj members, s => runMembers fields members s
    | j, s => (s, some (mismatch j type))
  error
    | .null => none
    | .obj members => membersError fields members
    | j => some (mismatch j type)
  run_error := by
    intro j s
    cases j with
    | obj members => exact runMembers_error fields members s
    | _ => rfl

def structType (fields : List (String × String × String)) : String :=
  "struct \x7b " ++ "; ".intercalate (fields.map fun f =>
    f.1 ++ " " ++ f.2.1 ++ " \"json:\\\"" ++ f.2.2 ++ "\\\"\"") ++ " \x7d"

end Struct

section Slice
variable {α β : Type}

/-- A slice with its backing array: decoding may lengthen it over cells that an earlier,
    longer value has left behind. Past the cells listed the array holds zero values. -/
structure Slice (α : Type) where
  cells : List α
  len : Nat
  bound : len ≤ cells.length

namespace Slice

def nil : Slice α := ⟨[], 0, Nat.le_refl 0⟩

def items (s : Slice α) : List α := s.cells.take s.len

end Slice

def runItems (zero : α) (d : Decoder α) :
    List Json → List α → List α × Option UnmarshalTypeError
  | [], cells => (cells, none)
  | j :: rest, cells =>
    let here := d.run j (cells.headD zero)
    let later := runItems zero d rest cells.tail
    (here.1 :: later.1, here.2 <|> later.2)

def itemsError (d : Decoder α) : List Json → Option UnmarshalTypeError
  | [] => none
  | j :: rest => d.error j <|> itemsError d rest

theorem runItems_error (zero : α) (d : Decoder α) (js : List Json) (cells : List α) :
    (runItems zero d js cells).2 = itemsError d js := by
  induction js generalizing cells with
  | nil => rfl
  | cons j rest ih => simp only [runItems, itemsError, d.run_error, ih]

theorem length_le_runItems (zero : α) (d : Decoder α) (js : List Json) (cells : List α) :
    js.length ≤ (runItems zero d js cells).1.length := by
  induction js generalizing cells with
  | nil => exact Nat.zero_le _
  | cons j rest ih => exact Nat.succ_le_succ (ih cells.tail)

def slice (type : String) (zero : α) (d : Decoder α) : Decoder (Slice α) where
  run
    | .null, _ => (Slice.nil, none)
    | .arr [], _ => (Slice.nil, none)
    | .arr (j :: rest), s =>
      let decoded := runItems zero d (j :: rest) s.cells
      (⟨decoded.1, (j :: rest).length, length_le_runItems zero d (j :: rest) s.cells⟩, decoded.2)
    | j, s => (s, some (mismatch j type))
  error
    | .null => none
    | .arr js => itemsError d js
    | j => some (mismatch j type)
  run_error := by
    intro j s
    cases j with
    | arr js =>
      cases js with
      | nil => rfl
      | cons j rest => exact runItems_error zero d (j :: rest) s.cells
    | _ => rfl

end Slice

section Maps

def setKey {α : Type} (key : String) (x : α) (m : List (String × α)) : List (String × α) :=
  (key, x) :: m.filter fun entry => entry.1 ≠ key

def runEntries : List (String × Json) → List (String × String) →
    List (String × String) × Option UnmarshalTypeError
  -- each entry starts from the empty string, so null stores that
  | [], m => (m, none)
  | (key, j) :: rest, m =>
    let here := string.run j ""
    let later := runEntries rest (setKey key here.1 m)
    (later.1, here.2 <|> later.2)

def entriesError : List (String × Json) → Option UnmarshalTypeError
  | [] => none
  | (_, j) :: rest => string.error j <|> entriesError rest

theorem runEntries_error (members : List (String × Json)) (m : List (String × String)) :
    (runEntries members m).2 = entriesError members := by
  induction members generalizing m with
  | nil => rfl
  | cons member rest ih => simp only [runEntries, entriesError, string.run_error, ih]

def stringMap : Decoder (List (String × String)) where
  run
    | .null, _ => ([], none)
    | .obj members, m => runEntries members m
    | j, m => (m, some (mismatch j "map[string]string"))
  error
    | .null => none
    | .obj members => entriesError members
    | j => some (mismatch j "map[string]string")
  run_error := by
    intro j m
    cases j with
    | obj members => exact runEntries_error members m
    | _ => rfl

end Maps

section Interface
variable {F : Type}

inductive Any (F : Type) where
  | nil
  | bool (value : Bool)
  | float64 (value : F)
  | string (text : String)
  | slice (items : List (Any F))
  | map (entries : List (String × Any F))

def Any.typeName : Any F → String
  | .nil => "nil"
  | .bool _ => "bool"
  | .float64 _ => "float64"
  | .string _ => "string"
  | .slice _ => "[]interface \x7b\x7d"
  | .map _ => "map[string]interface \x7b\x7d"

def outOfRange (literal : String) : UnmarshalTypeError := ⟨"number " ++ literal, "float64", []⟩

variable (parseFloat : String → Except String F)

mutual

def valueInterface : Json → Any F × Option UnmarshalTypeError
  | .null => (.nil, none)
  | .bool b => (.bool b, none)
  | .num literal =>
    match parseFloat literal with
    | .ok x => (.float64 x, none)
    | .error _ => (.nil, some (outOfRange literal))
  | .str text => (.string text, none)
  | .arr js => (.slice (arrayInterface js).1, (arrayInterface js).2)
  | .obj members => (.map (objectInterface members).1, (objectInterface members).2)

def arrayInterface : List Json → List (Any F) × Option UnmarshalTypeError
  | [] => ([], none)
  | j :: rest =>
    ((valueInterface j).1 :: (arrayInterface rest).1,
      (valueInterface j).2 <|> (arrayInterface rest).2)

-- of two entries with one key the later stays
def objectInterface : List (String × Json) → List (String × Any F) × Option UnmarshalTypeError
  | [] => ([], none)
  | (key, j) :: rest =>
    (if (objectInterface rest).1.any (fun entry => entry.1 == key) then (objectInterface rest).1
      else (key, (valueInterface j).1) :: (objectInterface rest).1,
      (valueInterface j).2 <|> (objectInterface rest).2)

end

def any : Decoder (Any F) where
  -- a number out of range leaves what the interface held
  run
    | .num literal, old =>
      match parseFloat literal with
      | .ok x => (.float64 x, none)
      | .error _ => (old, some (outOfRange literal))
    | j, _ => valueInterface parseFloat j
  error j := (valueInterface parseFloat j).2
  run_error := by
    intro j old
    cases j with
    | num literal =>
      cases parsed : parseFloat literal <;> simp only [valueInterface, parsed]
    | _ => rfl

end Interface

section Observes
variable {σ α β F : Type}

/-- After an error-free decoding, what `obs` sees is what the JSON writes there, or else what
    was there before. -/
def Observes (d : Decoder α) (obs : α → β) (writes : Json → Option β) : Prop :=
  ∀ j old, d.error j = none → obs (d.run j old).1 = (writes j).getD (obs old)

theorem orElse_none {ε : Type} {a b : Option ε} (none_left : (a <|> b) = none) :
    a = none ∧ b = none := by
  cases a with
  | none => exact ⟨rfl, none_left⟩
  | some err => cases none_left

theorem field_observes {get : σ → α} {set : α → σ → σ} {d : Decoder α} {obs : α → β}
    {writes : Json → Option β} (name : String) (get_set : ∀ x s, get (set x s) = x)
    (inner : Observes d obs writes) :
    Observes (field name get set d).decoder (fun s => obs (get s)) writes := by
  intro j s clean
  have innerClean : d.error j = none := Option.map_eq_none_iff.mp clean
  have same : get ((field name get set d).decoder.run j s).1 = (d.run j (get s)).1 :=
    get_set (d.run j (get s)).1 s
  show obs (get _) = _
  rw [same]
  exact inner j (get s) innerClean

theorem field_untouched {get : σ → α} {set : α → σ → σ} {obs : σ → β} (name : String)
    (d : Decoder α) (frame : ∀ x s, obs (set x s) = obs s) :
    Observes (field name get set d).decoder obs (fun _ => none) := by
  intro j s _
  exact frame (d.run j (get s)).1 s

def membersWrite (name : String) (writes : Json → Option β) : List (String × Json) → Option β
  | [] => none
  | (key, j) :: rest =>
    membersWrite name writes rest <|> (if foldName key = foldName name then writes j else none)

def atMember (name : String) (writes : Json → Option β) : Json → Option β
  | .obj members => membersWrite name writes members
  | _ => none

theorem getD_orElse (a b : Option β) (old : β) : (a <|> b).getD old = a.getD (b.getD old) := by
  cases a <;> rfl

theorem lookup_some {fields : List (Field σ)} {key : String} {f : Field σ}
    (found : lookup fields key = some f) : f ∈ fields ∧ foldName f.name = foldName key := by
  have same := List.find?_some found
  exact ⟨List.mem_of_find?_eq_some found, beq_iff_eq.mp same⟩

theorem runMembers_observes {fields : List (Field σ)} {obs : σ → β} {name : String}
    {writes : Json → Option β} (listed : ∃ f ∈ fields, foldName f.name = foldName name)
    (inner : ∀ f ∈ fields, foldName f.name = foldName name → Observes f.decoder obs writes)
    (others : ∀ f ∈ fields, foldName f.name ≠ foldName name →
      Observes f.decoder obs (fun _ => none))
    (members : List (String × Json)) (s : σ) (clean : membersError fields members = none) :
    obs (runMembers fields members s).1 = (membersWrite name writes members).getD (obs s) := by
  induction members generalizing s with
  | nil => rfl
  | cons member rest ih =>
    obtain ⟨key, j⟩ := member
    simp only [membersWrite, getD_orElse]
    cases found : lookup fields key with
    | none =>
      -- a name no field has is skipped, so it is not the observed one
      have other : foldName key ≠ foldName name := by
        intro same
        obtain ⟨f, member, named⟩ := listed
        have absent := List.find?_eq_none.mp found f member
        exact absent (beq_iff_eq.mpr (named.trans same.symm))
      simp only [membersError, found] at clean
      simp only [runMembers, found, if_neg other, Option.getD_none]
      exact ih s clean
    | some f =>
      obtain ⟨member, named⟩ := lookup_some found
      simp only [membersError, found] at clean
      obtain ⟨here, later⟩ := orElse_none clean
      simp only [runMembers, found]
      rw [ih _ later]
      by_cases same : foldName key = foldName name
      · rw [if_pos same, inner f member (named.trans same) j s here]
      · have other : foldName f.name ≠ foldName name := fun eq => same (named.symm.trans eq)
        rw [if_neg same, others f member other j s here]

theorem struct_observes {fields : List (Field σ)} {obs : σ → β} {name : String}
    {writes : Json → Option β} (type : String)
    (listed : ∃ f ∈ fields, foldName f.name = foldName name)
    (inner : ∀ f ∈ fields, foldName f.name = foldName name → Observes f.decoder obs writes)
    (others : ∀ f ∈ fields, foldName f.name ≠ foldName name →
      Observes f.decoder obs (fun _ => none)) :
    Observes (struct type fields) obs (atMember name writes) := by
  intro j s clean
  cases j with
  | obj members => exact runMembers_observes listed inner others members s clean
  | null => rfl
  | _ => cases clean

theorem second_field_observes {a b : Field σ} {obs : σ → β} {writes : Json → Option β}
    (type : String) (distinct : foldName a.name ≠ foldName b.name)
    (first : Observes a.decoder obs (fun _ => none)) (second : Observes b.decoder obs writes) :
    Observes (struct type [a, b]) obs (atMember b.name writes) := by
  apply struct_observes
  · exact ⟨b, List.mem_cons_of_mem a (List.mem_singleton_self b), rfl⟩
  · intro f member named
    rcases List.mem_pair.mp member with rfl | rfl
    · exact absurd named distinct
    · exact second
  · intro f member other
    rcases List.mem_pair.mp member with rfl | rfl
    · exact first
    · exact absurd rfl other

def lengthWrite : Json → Option Nat
  | .null => some 0
  | .arr js => some js.length
  | _ => none

theorem slice_observes_len (type : String) (zero : α) (d : Decoder α) :
    Observes (slice type zero d) Slice.len lengthWrite := by
  intro j s clean
  cases j with
  | null => rfl
  | arr js => cases js <;> rfl
  | _ => cases clean

/-- What is written to the first cell of a slice; null and an empty array give the slice a
    fresh backing array. -/
def atHead (fresh : β) (writes : Json → Option β) : Json → Option β
  | .null => some fresh
  | .arr [] => some fresh
  | .arr (j :: _) => writes j
  | _ => none

theorem slice_observes_head {d : Decoder α} {obs : α → β} {writes : Json → Option β}
    (type : String) (zero : α) (inner : Observes d obs writes) :
    Observes (slice type zero d) (fun s => obs (s.cells.headD zero))
      (atHead (obs zero) writes) := by
  intro j s clean
  cases j with
  | null => rfl
  | arr js =>
    cases js with
    | nil => rfl
    | cons j rest => exact inner j (s.cells.headD zero) (orElse_none clean).1
  | _ => cases clean

variable (parseFloat : String → Except String F)

def valuesWrite : Json → Option (List (Any F))
  | .null => some []
  | .arr js => some (js.map fun j => (valueInterface parseFloat j).1)
  | _ => none

theorem any_run {j : Json} (old : Any F) (clean : (any parseFloat).error j = none) :
    ((any parseFloat).run j old).1 = (valueInterface parseFloat j).1 := by
  cases j with
  | num literal =>
    cases parsed : parseFloat literal with
    | ok x => simp only [any, valueInterface, parsed]
    | error text => simp only [any, valueInterface, parsed] at clean; cases clean
  | _ => rfl

theorem take_runItems_any (js : List Json) (cells : List (Any F))
    (clean : itemsError (any parseFloat) js = none) :
    (runItems Any.nil (any parseFloat) js cells).1.take js.length =
      js.map fun j => (valueInterface parseFloat j).1 := by
  induction js generalizing cells with
  | nil => rfl
  | cons j rest ih =>
    obtain ⟨here, later⟩ := orElse_none clean
    simp only [runItems, List.length_cons, List.take_succ_cons, List.map_cons]
    rw [any_run parseFloat _ here, ih _ later]

theorem slice_observes_items (type : String) :
    Observes (slice type Any.nil (any parseFloat)) Slice.items (valuesWrite parseFloat) := by
  intro j s clean
  cases j with
  | null => rfl
  | arr js =>
    cases js with
    | nil => rfl
    | cons j rest => exact take_runItems_any parseFloat (j :: rest) s.cells clean
  | _ => cases clean

end Observes

end GoJson
