import Elasti.GoJsonText

/- Types that are written as JSON and read back. A codec carries the law that a value, read into
   a fresh variable, comes back; a record's codec is put together from those of its members. -/
namespace GoJsonCodec
open GoJson GoJsonText

section Integers

def numberAfter : NumberState → List Char → Option NumberState
  | state, [] => some state
  | state, c :: rest =>
    match nextNumber state c with
    | some next => numberAfter next rest
    | none => none

theorem numberAfter_append (state : NumberState) (front back : List Char) :
    numberAfter state (front ++ back) = (numberAfter state front).bind (numberAfter · back) := by
  induction front generalizing state with
  | nil => rfl
  | cons c front ih =>
    rw [List.cons_append, numberAfter, numberAfter]
    cases nextNumber state c with
    | none => rfl
    | some next => exact ih next

theorem readNumber_whole {state final : NumberState} {literal : List Char}
    (after : numberAfter state literal = some final) (ends : endsNumber final = true) :
    readNumber state literal = some (literal, []) := by
  induction literal generalizing state with
  | nil =>
    cases after
    simp [readNumber, ends]
  | cons c literal ih =>
    simp only [numberAfter] at after
    cases next : nextNumber state c with
    | none => simp [next] at after
    | some later =>
      rw [next] at after
      simp [readNumber, next, ih after, prepend]

def decimalState (n : Nat) : NumberState := if n = 0 then .zero else .digits

theorem numberAfter_digits (n : Nat) {state : NumberState}
    (first : state = .start ∨ state = .minus) :
    numberAfter state (Nat.toDigits 10 n) = some (decimalState n) := by
  induction n using Nat.strongRecOn with
  | ind n ih =>
    have digit : ∀ k : Fin 10, ∀ s : NumberState, s = .start ∨ s = .minus →
        numberAfter s [k.val.digitChar] = some (decimalState k) := by
      rintro k s (rfl | rfl) <;> revert k <;> decide
    have more : ∀ k : Fin 10, numberAfter .digits [k.val.digitChar] = some .digits := by decide
    rw [Nat.toDigits_eq_if (by decide)]
    split
    · rename_i small
      exact digit ⟨n, small⟩ state first
    · rename_i large
      have positive : decimalState (n / 10) = .digits := if_neg (by omega)
      rw [numberAfter_append, ih (n / 10) (by omega), positive]
      simpa [decimalState, show n ≠ 0 by omega] using more ⟨n % 10, Nat.mod_lt n (by decide)⟩

theorem endsNumber_decimalState (n : Nat) : endsNumber (decimalState n) = true := by
  unfold decimalState
  split <;> rfl

theorem validNumber_repr (n : Int) : validNumber n.repr.toList = true := by
  apply beq_iff_eq.mpr
  cases n with
  | ofNat n =>
    have text : (Int.repr (.ofNat n)).toList = Nat.toDigits 10 n := by
      rw [Int.repr, Nat.repr_eq_ofList_toDigits, String.toList_ofList]
    rw [text]
    exact readNumber_whole (numberAfter_digits n (.inl rfl)) (endsNumber_decimalState n)
  | negSucc n =>
    have text : (Int.repr (.negSucc n)).toList = '-' :: Nat.toDigits 10 (n + 1) := by
      simp [Int.repr, Nat.repr_eq_ofList_toDigits]
    rw [text]
    have after : numberAfter .start ('-' :: Nat.toDigits 10 (n + 1)) = some (decimalState (n + 1)) :=
      numberAfter_digits (n + 1) (.inr rfl)
    exact readNumber_whole after (endsNumber_decimalState (n + 1))

def intRun (type : String) (bits : Nat) : Json → Int → Int × Option UnmarshalTypeError
  -- a number that is no integer, or out of the type's range, is named in the error
  | .num literal, old =>
    match literal.toInt? with
    | some n =>
      if -2 ^ (bits - 1) ≤ n ∧ n < 2 ^ (bits - 1) then (n, none)
      else (old, some ⟨"number " ++ literal, type, []⟩)
    | none => (old, some ⟨"number " ++ literal, type, []⟩)
  | .null, old => (old, none)
  | j, old => (old, some (mismatch j type))

def int (type : String) (bits : Nat) : Decoder Int where
  run := intRun type bits
  error j := (intRun type bits j 0).2
  run_error := by
    intro j old
    cases j with
    | num literal =>
      simp only [intRun]
      cases literal.toInt? with
      | none => rfl
      | some n => dsimp only; split <;> rfl
    | _ => rfl

end Integers

section Codecs
variable {α σ : Type}

/-- How a type is written and read. A value is Good with a depth if it is one the type has and
    its text opens no more brackets at once. -/
structure Codec (α : Type) where
  zero : α
  encode : α → Json
  decoder : Decoder α
  Good : Nat → α → Prop
  fits_encode : ∀ {depth : Nat} {a : α}, Good depth a → fits (encode a) depth = true
  read_back : ∀ {depth : Nat} {a : α}, Good depth a → decoder.run (encode a) zero = (a, none)

namespace Codec

def string : Codec String where
  zero := ""
  encode text := .str text
  decoder := GoJson.string
  Good _ _ := True
  fits_encode := by intro depth a _; simp [fits]
  read_back := by intro depth a _; rfl

def integer (type : String) (bits : Nat) : Codec Int where
  zero := 0
  encode n := .num n.repr
  decoder := int type bits
  Good _ n := -2 ^ (bits - 1) ≤ n ∧ n < 2 ^ (bits - 1)
  fits_encode := by intro depth n _; rw [fits]; exact validNumber_repr n
  read_back := by
    intro depth n range
    simp only [int, intRun, Int.toInt?_repr]
    rw [if_pos range]

def pointerRun (zero : α) (d : Decoder α) : Json → Option α → Option α × Option UnmarshalTypeError
  | .null, _ => (none, none)
  | j, old => (some (d.run j (old.getD zero)).1, (d.run j (old.getD zero)).2)

def pointerDecoder (zero : α) (d : Decoder α) : Decoder (Option α) where
  run := pointerRun zero d
  error
    | .null => none
    | j => d.error j
  run_error := by
    intro j old
    cases j with
    | null => rfl
    | _ => exact d.run_error _ _

def pointer (c : Codec α) (solid : ∀ a, c.encode a ≠ .null) : Codec (Option α) where
  zero := none
  encode
    | none => .null
    | some a => c.encode a
  decoder := pointerDecoder c.zero c.decoder
  Good depth
    | none => True
    | some a => c.Good depth a
  fits_encode := by
    intro depth a good
    cases a with
    | none => simp [fits]
    | some a => exact c.fits_encode good
  read_back := by
    intro depth a good
    cases a with
    | none => rfl
    | some a =>
      have runs : ∀ j, j ≠ .null → pointerRun c.zero c.decoder j none =
          (some (c.decoder.run j c.zero).1, (c.decoder.run j c.zero).2) := by
        intro j other
        cases j with
        | null => exact absurd rfl other
        | _ => rfl
      show pointerRun c.zero c.decoder (c.encode a) none = _
      rw [runs _ (solid a), c.read_back good]

theorem good_pointer {c : Codec α} {solid : ∀ a, c.encode a ≠ .null} {depth : Nat} {p : Option α}
    (good : ∀ a ∈ p, c.Good depth a) : (pointer c solid).Good depth p := by
  cases p with
  | none => trivial
  | some a => exact good a rfl

/-- A list stands for a slice whose backing array ends with it. -/
def listDecoder (type : String) (zero : α) (d : Decoder α) : Decoder (List α) where
  run
    | .null, _ => ([], none)
    | .arr js, old => ((runItems zero d js old).1.take js.length, (runItems zero d js old).2)
    | j, old => (old, some (mismatch j type))
  error
    | .null => none
    | .arr js => itemsError d js
    | j => some (mismatch j type)
  run_error := by
    intro j old
    cases j with
    | arr js => exact runItems_error zero d js old
    | _ => rfl

theorem runItems_back (c : Codec α) {depth : Nat} (items : List α)
    (good : ∀ a ∈ items, c.Good depth a) :
    runItems c.zero c.decoder (items.map c.encode) [] = (items, none) := by
  induction items with
  | nil => rfl
  | cons a items ih =>
    have here := c.read_back (good a List.mem_cons_self)
    have later := ih fun b member => good b (List.mem_cons_of_mem a member)
    simp [runItems, here, later]

theorem fitsItems_map (c : Codec α) {depth : Nat} (items : List α)
    (good : ∀ a ∈ items, c.Good depth a) : fitsItems (items.map c.encode) depth = true := by
  induction items with
  | nil => rfl
  | cons a items ih =>
    have later := ih fun b member => good b (List.mem_cons_of_mem a member)
    simp [fitsItems, c.fits_encode (good a List.mem_cons_self), later]

def list (type : String) (c : Codec α) : Codec (List α) where
  zero := []
  encode items := .arr (items.map c.encode)
  decoder := listDecoder type c.zero c.decoder
  Good
    | 0, _ => False
    | depth + 1, items => ∀ a ∈ items, c.Good depth a
  fits_encode := by
    intro depth items good
    cases depth with
    | zero => exact good.elim
    | succ depth => rw [fits]; exact fitsItems_map c items good
  read_back := by
    intro depth items good
    cases depth with
    | zero => exact good.elim
    | succ depth => simp [listDecoder, runItems_back c items good]

def convert {β : Type} (out : β → α) (back : α → β) (inverse : ∀ b, back (out b) = b) (c : Codec α)
    (zero_out : out (back c.zero) = c.zero) : Codec β where
  zero := back c.zero
  encode b := c.encode (out b)
  decoder :=
    { run := fun j old => (back (c.decoder.run j (out old)).1, (c.decoder.run j (out old)).2)
      error := c.decoder.error
      run_error := fun j old => c.decoder.run_error j (out old) }
  Good depth b := c.Good depth (out b)
  fits_encode := by
    intro depth b good
    exact c.fits_encode good
  read_back := by
    intro depth b good
    simp only [zero_out, c.read_back good, inverse]

def rawDecoder : Decoder (Option Json) where
  run j _ := (some j, none)
  error _ := none
  run_error := by intro j old; rfl

def raw : Codec (Option Json) where
  zero := none
  encode message := message.getD .null
  decoder := rawDecoder
  Good depth message := ∃ j, message = some j ∧ fits j depth = true
  fits_encode := by
    rintro depth message ⟨j, rfl, fit⟩
    exact fit
  read_back := by
    rintro depth message ⟨j, rfl, _⟩
    rfl

end Codec

/-- One field of a record: what is written of it, if anything, and what reading that does to a
    record in which the field is still fresh. -/
structure Member (σ : Type) where
  field : GoJson.Field σ
  write : σ → Option Json
  put : σ → σ → σ
  Fresh : σ → Prop
  Good : Nat → σ → Prop
  fits_write : ∀ {depth : Nat} {s : σ} {j : Json}, Good depth s → write s = some j →
    fits j depth = true
  unwritten : ∀ {s t : σ}, Fresh t → write s = none → put s t = t
  written : ∀ {depth : Nat} {s t : σ} {j : Json}, Good depth s → Fresh t → write s = some j →
    field.decoder.run j t = (put s t, none)

def member (name : String) (c : Codec α) (get : σ → α) (set : α → σ → σ) (empty : α → Bool)
    (empty_zero : ∀ a, empty a = true → a = c.zero) (set_get : ∀ s, set (get s) s = s) :
    Member σ where
  field := GoJson.field name get set c.decoder
  write s := if empty (get s) then none else some (c.encode (get s))
  put s t := set (get s) t
  Fresh t := get t = c.zero
  Good depth s := empty (get s) = false → c.Good depth (get s)
  fits_write := by
    intro depth s j good wrote
    split_ifs at wrote with omitted
    cases wrote
    exact c.fits_encode (good (by simpa using omitted))
  unwritten := by
    intro s t fresh unwritten
    split_ifs at unwritten with omitted
    rw [empty_zero _ omitted, ← fresh, set_get]
  written := by
    intro depth s t j good fresh wrote
    split_ifs at wrote with omitted
    cases wrote
    have back := c.read_back (good (by simpa using omitted))
    rw [← fresh] at back
    simp [GoJson.field, back]

def Codec.chars : Codec (List Char) :=
  Codec.convert String.ofList String.toList (fun _ => String.toList_ofList) Codec.string rfl

def always (name : String) (c : Codec α) (get : σ → α) (set : α → σ → σ)
    (set_get : ∀ s, set (get s) s = s) : Member σ :=
  member name c get set (fun _ => false) (fun _ never => nomatch never) set_get

def omitString (name : String) (get : σ → String) (set : String → σ → σ)
    (set_get : ∀ s, set (get s) s = s) : Member σ :=
  member name Codec.string get set (· == "") (fun _ empty => beq_iff_eq.mp empty) set_get

def omitChars (name : String) (get : σ → List Char) (set : List Char → σ → σ)
    (set_get : ∀ s, set (get s) s = s) : Member σ :=
  member name Codec.chars get set List.isEmpty (fun _ empty => List.isEmpty_iff.mp empty) set_get

def omitInt32 (name : String) (get : σ → Int) (set : Int → σ → σ)
    (set_get : ∀ s, set (get s) s = s) : Member σ :=
  member name (Codec.integer "int32" 32) get set (· == 0) (fun _ zero => beq_iff_eq.mp zero) set_get

def omitNil (name : String) (c : Codec α) (solid : ∀ a, c.encode a ≠ .null) (get : σ → Option α)
    (set : Option α → σ → σ) (set_get : ∀ s, set (get s) s = s) : Member σ :=
  member name (Codec.pointer c solid) get set Option.isNone
    (fun _ nil => Option.isNone_iff_eq_none.mp nil) set_get

def omitEmpty (name type : String) (c : Codec α) (get : σ → List α) (set : List α → σ → σ)
    (set_get : ∀ s, set (get s) s = s) : Member σ :=
  member name (Codec.list type c) get set List.isEmpty (fun _ empty => List.isEmpty_iff.mp empty)
    set_get

def omitRaw (name : String) (get : σ → Option Json) (set : Option Json → σ → σ)
    (set_get : ∀ s, set (get s) s = s) : Member σ :=
  member name Codec.raw get set Option.isNone (fun _ nil => Option.isNone_iff_eq_none.mp nil) set_get

def Builds (s : σ) : List (Member σ) → σ → Prop
  | [], t => t = s
  | m :: rest, t => m.Fresh t ∧ Builds s rest (m.put s t)

def writeMembers (members : List (Member σ)) (s : σ) : List (String × Json) :=
  members.filterMap fun m => (m.write s).map fun j => (m.field.name, j)

theorem fitsMembers_write {depth : Nat} {s : σ} (members : List (Member σ))
    (good : ∀ m ∈ members, m.Good depth s) : fitsMembers (writeMembers members s) depth = true := by
  induction members with
  | nil => rfl
  | cons m members ih =>
    have later := ih fun other member => good other (List.mem_cons_of_mem m member)
    cases wrote : m.write s with
    | none => simpa [writeMembers, wrote] using later
    | some j =>
      have here := m.fits_write (good m List.mem_cons_self) wrote
      simpa [writeMembers, wrote, fitsMembers, here] using later

theorem lookup_self {fields : List (GoJson.Field σ)}
    (distinct : (fields.map fun f => foldName f.name).Nodup) {f : GoJson.Field σ} (listed : f ∈ fields) :
    lookup fields f.name = some f := by
  induction fields with
  | nil => cases listed
  | cons g fields ih =>
    obtain ⟨apart, rest⟩ := List.nodup_cons.mp distinct
    rcases List.mem_cons.mp listed with rfl | behind
    · simp [lookup]
    · have other : foldName g.name ≠ foldName f.name := by
        intro same
        exact apart (List.mem_map.mpr ⟨f, behind, same.symm⟩)
      have found := ih rest behind
      simpa [lookup, other] using found

theorem runMembers_write {depth : Nat} {s : σ} {fields : List (GoJson.Field σ)}
    (distinct : (fields.map fun f => foldName f.name).Nodup) (members : List (Member σ))
    (listed : ∀ m ∈ members, m.field ∈ fields) (good : ∀ m ∈ members, m.Good depth s) {t : σ}
    (builds : Builds s members t) :
    runMembers fields (writeMembers members s) t = (s, none) := by
  induction members generalizing t with
  | nil =>
    cases builds
    rfl
  | cons m members ih =>
    obtain ⟨fresh, further⟩ := builds
    have rest := ih (fun other member => listed other (List.mem_cons_of_mem m member))
      (fun other member => good other (List.mem_cons_of_mem m member)) further
    cases wrote : m.write s with
    | none =>
      rw [m.unwritten fresh wrote] at rest
      simpa [writeMembers, wrote] using rest
    | some j =>
      have here := m.written (good m List.mem_cons_self) fresh wrote
      have found := lookup_self distinct (listed m List.mem_cons_self)
      simp only [writeMembers] at rest
      simp [writeMembers, wrote, runMembers, found, here, rest]

def Codec.record (type : String) (zero : σ) (members : List (Member σ))
    (distinct : (members.map fun m => foldName m.field.name).Nodup)
    (builds : ∀ s, Builds s members zero) : Codec σ where
  zero := zero
  encode s := .obj (writeMembers members s)
  decoder := struct type (members.map Member.field)
  Good
    | 0, _ => False
    | depth + 1, s => ∀ m ∈ members, m.Good depth s
  fits_encode := by
    intro depth s good
    cases depth with
    | zero => exact good.elim
    | succ depth => rw [fits]; exact fitsMembers_write members good
  read_back := by
    intro depth s good
    cases depth with
    | zero => exact good.elim
    | succ depth =>
      have names : ((members.map Member.field).map fun f => foldName f.name).Nodup := by
        rw [List.map_map]
        exact distinct
      exact runMembers_write names members (fun m member => List.mem_map_of_mem member) good
        (builds s)

end Codecs

section Maps
variable {α : Type}

/-- Every value is decoded into a fresh one, and of two entries with one key the later stays. -/
def runMap (zero : α) (d : Decoder α) : List (String × Json) → List (String × α) →
    List (String × α) × Option UnmarshalTypeError
  | [], m => (m, none)
  | (key, j) :: rest, m =>
    let later := runMap zero d rest (setKey key (d.run j zero).1 m)
    (later.1, (d.run j zero).2 <|> later.2)

def mapError (d : Decoder α) : List (String × Json) → Option UnmarshalTypeError
  | [] => none
  | (_, j) :: rest => d.error j <|> mapError d rest

theorem runMap_error (zero : α) (d : Decoder α) (members : List (String × Json))
    (m : List (String × α)) : (runMap zero d members m).2 = mapError d members := by
  induction members generalizing m with
  | nil => rfl
  | cons member rest ih => simp only [runMap, mapError, d.run_error, ih]

def mapDecoder (type : String) (zero : α) (d : Decoder α) : Decoder (List (String × α)) where
  run
    | .null, _ => ([], none)
    | .obj members, m => runMap zero d members m
    | j, m => (m, some (mismatch j type))
  error
    | .null => none
    | .obj members => mapError d members
    | j => some (mismatch j type)
  run_error := by
    intro j m
    cases j with
    | obj members => exact runMap_error zero d members m
    | _ => rfl

def encodeMap (c : Codec α) (entries : List (String × α)) : Json :=
  .obj ((entries.mergeSort fun a b => a.1 ≤ b.1).map fun entry => (entry.1, c.encode entry.2))

theorem lookup_setKey (key : String) (x : α) (m : List (String × α)) (k : String) :
    (setKey key x m).lookup k = if k = key then some x else m.lookup k := by
  unfold setKey
  by_cases same : k = key
  · simp [same]
  · rw [if_neg same, List.lookup_cons, beq_false_of_ne same]
    dsimp only
    induction m with
    | nil => rfl
    | cons entry m ih =>
      by_cases other : entry.1 = key
      · have apart : k ≠ entry.1 := fun eq => same (eq.trans other)
        rw [List.filter_cons_of_neg (by simpa using other), ih, List.lookup_cons,
          beq_false_of_ne apart]
      · rw [List.filter_cons_of_pos (by simpa using other), List.lookup_cons, List.lookup_cons, ih]

theorem lookup_eq_some {entries : List (String × α)} (distinct : (entries.map Prod.fst).Nodup)
    (key : String) (x : α) : entries.lookup key = some x ↔ (key, x) ∈ entries := by
  induction entries with
  | nil => simp
  | cons entry entries ih =>
    obtain ⟨apart, rest⟩ := List.nodup_cons.mp distinct
    obtain ⟨own, value⟩ := entry
    rw [List.lookup_cons, List.mem_cons]
    by_cases same : key = own
    · subst same
      have absent : (key, x) ∉ entries := fun member => apart (List.mem_map.mpr ⟨(key, x), member, rfl⟩)
      simp [absent, eq_comm]
    · rw [beq_false_of_ne same]
      simp [ih rest, same]

theorem lookup_perm {entries others : List (String × α)} (perm : entries.Perm others)
    (distinct : (entries.map Prod.fst).Nodup) (key : String) :
    entries.lookup key = others.lookup key := by
  apply Option.ext
  intro x
  rw [lookup_eq_some distinct, lookup_eq_some ((perm.map Prod.fst).nodup_iff.mp distinct)]
  exact perm.mem_iff

theorem runMap_back (c : Codec α) {depth : Nat} (entries : List (String × α))
    (distinct : (entries.map Prod.fst).Nodup) (good : ∀ entry ∈ entries, c.Good depth entry.2)
    (m : List (String × α)) :
    (runMap c.zero c.decoder (entries.map fun entry => (entry.1, c.encode entry.2)) m).2 = none ∧
      ∀ key, (runMap c.zero c.decoder (entries.map fun entry => (entry.1, c.encode entry.2)) m).1.lookup
        key = (entries.lookup key).or (m.lookup key) := by
  induction entries generalizing m with
  | nil => exact ⟨rfl, fun key => rfl⟩
  | cons entry entries ih =>
    obtain ⟨apart, rest⟩ := List.nodup_cons.mp distinct
    have here := c.read_back (good entry List.mem_cons_self)
    obtain ⟨clean, found⟩ := ih rest (fun other member => good other (List.mem_cons_of_mem entry member))
      (setKey entry.1 entry.2 m)
    simp only [List.map_cons, runMap, here]
    refine ⟨by simp [clean], fun key => ?_⟩
    rw [found, lookup_setKey, List.lookup_cons]
    by_cases same : key = entry.1
    · subst same
      have absent : entries.lookup entry.1 = none := by
        apply List.lookup_eq_none_iff.mpr
        intro other member
        have unlisted : other.1 ≠ entry.1 := fun eq => apart (List.mem_map.mpr ⟨other, member, eq⟩)
        simpa using unlisted.symm
      simp [absent]
    · rw [beq_false_of_ne same, if_neg same]

theorem fitsMembers_map (c : Codec α) {depth : Nat} (entries : List (String × α))
    (good : ∀ entry ∈ entries, c.Good depth entry.2) :
    fitsMembers (entries.map fun entry => (entry.1, c.encode entry.2)) depth = true := by
  induction entries with
  | nil => rfl
  | cons entry entries ih =>
    have later := ih fun other member => good other (List.mem_cons_of_mem entry member)
    simp [fitsMembers, c.fits_encode (good entry List.mem_cons_self), later]

/-- A map comes back with the same values under the same keys. -/
theorem map_back (type : String) (c : Codec α) {depth : Nat} (entries : List (String × α))
    (distinct : (entries.map Prod.fst).Nodup) (good : ∀ entry ∈ entries, c.Good depth entry.2) :
    fits (encodeMap c entries) (depth + 1) = true ∧
      ∃ m, (mapDecoder type c.zero c.decoder).run (encodeMap c entries) [] = (m, none) ∧
        ∀ key, m.lookup key = entries.lookup key := by
  have perm := List.mergeSort_perm entries fun a b => a.1 ≤ b.1
  have sortedGood : ∀ entry ∈ entries.mergeSort fun a b => a.1 ≤ b.1, c.Good depth entry.2 :=
    fun entry member => good entry (perm.mem_iff.mp member)
  obtain ⟨clean, found⟩ := runMap_back c (entries.mergeSort fun a b => a.1 ≤ b.1)
    ((perm.map Prod.fst).nodup_iff.mpr distinct) sortedGood []
  constructor
  · rw [encodeMap, fits]
    exact fitsMembers_map c _ sortedGood
  · refine ⟨_, Prod.ext rfl clean, fun key => ?_⟩
    show (runMap _ _ _ _).1.lookup key = _
    rw [found, lookup_perm perm.symm distinct]
    simp

end Maps

end GoJsonCodec
