import Elasti.GoStrings
import Elasti.HostTarget

/- The names the operator gives to the private service and to the resolver's EndpointSlice, and
   the resolver to the private service it proxies to. SHA-256 is any function to 32 bytes. -/
namespace GeneratedNames
open GoStrings (hexDigit lowerhex)
open HostTarget (namePrefix privateServicePostfix hashLength maxServiceNameLength buildName
  getPrivateServiceName)

def endpointSlicePostfix : List Char :=
  ['-', 'e', 'n', 'd', 'p', 'o', 'i', 'n', 't', 's', 'l', 'i', 'c', 'e', '-', 't', 'o', '-',
    'r', 'e', 's', 'o', 'l', 'v', 'e', 'r']

def maxEndpointSliceNameLength : Nat := 253

def getEndpointSliceToResolverName (hashed : List Char → List Char) (serviceName : List Char) :
    List Char :=
  buildName hashed serviceName endpointSlicePostfix maxEndpointSliceNameLength

def encodeToString (bytes : List UInt8) : List Char :=
  bytes.flatMap fun b => [hexDigit lowerhex (b.toNat / 16), hexDigit lowerhex (b.toNat % 16)]

abbrev Hash := List UInt8 → Vector UInt8 32

def hashPrefix (sha256 : Hash) (name : List Char) : List Char :=
  (encodeToString (sha256 (name.flatMap String.utf8EncodeChar)).toList).take hashLength

def isLetter (c : Char) : Bool := 'a' ≤ c && c ≤ 'z'

def isAlphanumeric (c : Char) : Bool := isLetter c || ('0' ≤ c && c ≤ '9')

def isLabelChar (c : Char) : Bool := isAlphanumeric c || c == '-'

/-- The syntax of an RFC 1035 label as Kubernetes checks it: a small letter, then letters, digits
    and hyphens, and no hyphen at the end. -/
structure IsLabel (text : List Char) : Prop where
  starts : ∃ c ∈ text.head?, isLetter c = true
  inner : text.all isLabelChar = true
  ends : ∃ c ∈ text.getLast?, isAlphanumeric c = true

structure ServiceName where
  text : List Char
  label : IsLabel text
  short : text.length ≤ maxServiceNameLength

def maxNameLength (postfixText : List Char) (maxLength : Nat) : Nat :=
  maxLength - (namePrefix.length + postfixText.length + 1 + hashLength)

def Truncated (name postfixText : List Char) (maxLength : Nat) : Prop :=
  maxNameLength postfixText maxLength < name.length

instance (name postfixText : List Char) (maxLength : Nat) :
    Decidable (Truncated name postfixText maxLength) := inferInstanceAs (Decidable (_ < _))

def shown (name postfixText : List Char) (maxLength : Nat) : List Char :=
  if Truncated name postfixText maxLength then
    (name.take (maxNameLength postfixText maxLength)).rdropWhile (· == '-')
  else name

theorem hexDigit_alphanumeric {n : Nat} (small : n < 16) :
    isAlphanumeric (hexDigit lowerhex n) = true := by
  interval_cases n <;> decide

theorem encodeToString_length (bytes : List UInt8) :
    (encodeToString bytes).length = 2 * bytes.length := by
  induction bytes with
  | nil => rfl
  | cons b bytes ih =>
    have front : encodeToString (b :: bytes) =
        hexDigit lowerhex (b.toNat / 16) :: hexDigit lowerhex (b.toNat % 16) ::
          encodeToString bytes := rfl
    rw [front, List.length_cons, List.length_cons, ih, List.length_cons]
    omega

theorem encodeToString_alphanumeric (bytes : List UInt8) :
    ∀ c ∈ encodeToString bytes, isAlphanumeric c = true := by
  intro c member
  obtain ⟨b, _, digit⟩ := List.mem_flatMap.mp member
  have bound := b.toNat_lt
  simp only [List.mem_cons, List.not_mem_nil, or_false] at digit
  rcases digit with rfl | rfl
  · exact hexDigit_alphanumeric (by omega)
  · exact hexDigit_alphanumeric (by omega)

section Names
variable (sha256 : Hash)

theorem hashPrefix_length (name : List Char) : (hashPrefix sha256 name).length = hashLength := by
  rw [hashPrefix, List.length_take, encodeToString_length, Vector.length_toList]
  rfl

theorem hashPrefix_alphanumeric (name : List Char) :
    ∀ c ∈ hashPrefix sha256 name, isAlphanumeric c = true :=
  fun c member => encodeToString_alphanumeric _ c (List.mem_of_mem_take member)

variable {sha256} {name postfixText : List Char} {maxLength : Nat}

theorem buildName_eq (hashed : List Char → List Char) (name postfixText : List Char)
    (maxLength : Nat) :
    buildName hashed name postfixText maxLength =
      namePrefix ++ shown name postfixText maxLength ++ (postfixText ++ '-' :: hashed name) := by
  have same : (name.length > maxNameLength postfixText maxLength) =
      Truncated name postfixText maxLength := rfl
  simp only [buildName, shown, ← same]
  rw [List.append_assoc]
  rfl

theorem shown_starts : shown name postfixText maxLength <+: name := by
  rw [shown]
  split
  · exact (List.rdropWhile_prefix _ _).trans (List.take_prefix _ _)
  · exact List.prefix_rfl

theorem shown_length :
    (shown name postfixText maxLength).length ≤ maxNameLength postfixText maxLength := by
  rw [shown]
  split
  · exact (List.rdropWhile_prefix _ _).length_le.trans (List.length_take_le _ _)
  · rename_i whole
    exact Nat.le_of_not_lt whole

theorem shown_whole (whole : ¬ Truncated name postfixText maxLength) :
    shown name postfixText maxLength = name := if_neg whole

theorem buildName_length
    (room : namePrefix.length + postfixText.length + 1 + hashLength ≤ maxLength) :
    (buildName (hashPrefix sha256) name postfixText maxLength).length ≤ maxLength := by
  have cut : (shown name postfixText maxLength).length ≤ maxNameLength postfixText maxLength :=
    shown_length
  have digits := hashPrefix_length sha256 name
  rw [maxNameLength] at cut
  rw [buildName_eq]
  simp only [List.length_append, List.length_cons, digits]
  omega

theorem buildName_label (label : IsLabel name) (inside : postfixText.all isLabelChar = true) :
    IsLabel (buildName (hashPrefix sha256) name postfixText maxLength) := by
  have digits := hashPrefix_length sha256 name
  have some_digit : hashPrefix sha256 name ≠ [] := by
    intro none
    rw [none] at digits
    cases digits
  have hash := hashPrefix_alphanumeric sha256 name
  have around : namePrefix.all isLabelChar = true := by decide
  rw [buildName_eq]
  refine ⟨⟨'e', rfl, by decide⟩, ?_, ?_⟩
  · simp only [List.all_append, List.all_cons, Bool.and_eq_true, List.all_eq_true] at around inside ⊢
    refine ⟨⟨around, fun c member => ?_⟩, inside, by decide, fun c member => ?_⟩
    · exact List.all_eq_true.mp label.inner c (shown_starts.subset member)
    · rw [isLabelChar, hash c member]
      rfl
  · -- the digits come last
    have whole : namePrefix ++ shown name postfixText maxLength ++
        (postfixText ++ '-' :: hashPrefix sha256 name) =
          namePrefix ++ shown name postfixText maxLength ++ (postfixText ++ ['-']) ++
            hashPrefix sha256 name := by simp
    have last := List.getLast?_eq_some_getLast some_digit
    rw [whole, List.getLast?_append_of_ne_nil _ some_digit]
    exact ⟨_, last, hash _ (List.getLast_mem some_digit)⟩

theorem buildName_parts {a b : List Char}
    (same : buildName (hashPrefix sha256) a postfixText maxLength =
      buildName (hashPrefix sha256) b postfixText maxLength) :
    hashPrefix sha256 a = hashPrefix sha256 b ∧
      shown a postfixText maxLength = shown b postfixText maxLength := by
  -- behind what is shown the names are equally long, so equal names show the same and end in the
  -- same digits
  have lengths : (postfixText ++ '-' :: hashPrefix sha256 a).length =
      (postfixText ++ '-' :: hashPrefix sha256 b).length := by
    simp [hashPrefix_length]
  rw [buildName_eq, buildName_eq] at same
  obtain ⟨front, behind⟩ := List.append_inj' same lengths
  exact ⟨(List.cons.inj (List.append_cancel_left behind)).2, List.append_cancel_left front⟩

theorem buildName_collides {a b : List Char} (differ : a ≠ b)
    (same : buildName (hashPrefix sha256) a postfixText maxLength =
      buildName (hashPrefix sha256) b postfixText maxLength) :
    hashPrefix sha256 a = hashPrefix sha256 b ∧
      (Truncated a postfixText maxLength ∨ Truncated b postfixText maxLength) := by
  obtain ⟨digits, front⟩ := buildName_parts same
  refine ⟨digits, ?_⟩
  by_contra neither
  rw [not_or] at neither
  rw [shown_whole neither.1, shown_whole neither.2] at front
  exact differ front

variable (sha256)

theorem sliceName_injective {a b : ServiceName}
    (same : getEndpointSliceToResolverName (hashPrefix sha256) a.text =
      getEndpointSliceToResolverName (hashPrefix sha256) b.text) : a.text = b.text := by
  -- a service name is never cut for its EndpointSlice, so these names are all different
  have whole (name : ServiceName) :
      ¬ Truncated name.text endpointSlicePostfix maxEndpointSliceNameLength := by
    have room : maxServiceNameLength ≤ maxNameLength endpointSlicePostfix maxEndpointSliceNameLength := by
      decide
    exact Nat.not_lt.mpr (name.short.trans room)
  by_contra differ
  exact (buildName_collides differ same).2.elim (whole a) (whole b)

/-- Both generated names are valid, and two services share one only if their hashes start alike
    and a name was cut. -/
theorem generated_names_valid_and_apart :
    (∀ name : ServiceName,
      (IsLabel (getPrivateServiceName (hashPrefix sha256) name.text) ∧
        (getPrivateServiceName (hashPrefix sha256) name.text).length ≤ 63) ∧
      IsLabel (getEndpointSliceToResolverName (hashPrefix sha256) name.text) ∧
        (getEndpointSliceToResolverName (hashPrefix sha256) name.text).length ≤ 253) ∧
    ∀ a b : ServiceName, a.text ≠ b.text →
      (getPrivateServiceName (hashPrefix sha256) a.text =
          getPrivateServiceName (hashPrefix sha256) b.text →
        hashPrefix sha256 a.text = hashPrefix sha256 b.text ∧
          (Truncated a.text privateServicePostfix maxServiceNameLength ∨
            Truncated b.text privateServicePostfix maxServiceNameLength)) ∧
      (getEndpointSliceToResolverName (hashPrefix sha256) a.text =
          getEndpointSliceToResolverName (hashPrefix sha256) b.text →
        hashPrefix sha256 a.text = hashPrefix sha256 b.text ∧
          (Truncated a.text endpointSlicePostfix maxEndpointSliceNameLength ∨
            Truncated b.text endpointSlicePostfix maxEndpointSliceNameLength)) := by
  refine ⟨fun name => ⟨⟨?_, ?_⟩, ?_, ?_⟩, fun a b differ => ⟨?_, ?_⟩⟩
  · exact buildName_label name.label (by decide)
  · exact buildName_length (by decide)
  · exact buildName_label name.label (by decide)
  · exact buildName_length (by decide)
  · exact buildName_collides differ
  · exact buildName_collides differ

end Names

def longName (last : Char) (ends : isAlphanumeric last = true) : ServiceName where
  text := List.replicate 41 'a' ++ [last]
  label := {
    starts := ⟨'a', rfl, by decide⟩
    inner := by
      have letter : isAlphanumeric 'a' = true := by decide
      simp [isLabelChar, letter, ends]
    ends := ⟨last, List.getLast?_concat, ends⟩ }
  short := by simp [maxServiceNameLength]

def constantHash : Hash := fun _ => Vector.replicate 32 0

theorem cut_names_collide :
    getPrivateServiceName (hashPrefix constantHash) (longName 'b' rfl).text =
        getPrivateServiceName (hashPrefix constantHash) (longName 'c' rfl).text ∧
      hashPrefix constantHash (longName 'b' rfl).text =
        hashPrefix constantHash (longName 'c' rfl).text ∧
      (Truncated (longName 'b' rfl).text privateServicePostfix maxServiceNameLength ∨
        Truncated (longName 'c' rfl).text privateServicePostfix maxServiceNameLength) := by
  have same : getPrivateServiceName (hashPrefix constantHash) (longName 'b' rfl).text =
      getPrivateServiceName (hashPrefix constantHash) (longName 'c' rfl).text := by decide +kernel
  exact ⟨same, ((generated_names_valid_and_apart constantHash).2 (longName 'b' rfl)
    (longName 'c' rfl) (by decide +kernel)).1 same⟩

end GeneratedNames
