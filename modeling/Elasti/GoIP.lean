import Elasti.GoStrings
import Mathlib

/- IP addresses and their texts: how a Go program prints an address and reads one. An address is
   its eight groups of sixteen bits; an IPv4 address stands in the last two of them, behind
   ::ffff. -/
namespace GoIP
open GoStrings

structure IP where
  groups : List Nat
  eight : groups.length = 8
  small : ∀ g ∈ groups, g < 65536
  deriving DecidableEq, Repr

def ofGroups (groups : List Nat) : Option IP :=
  if sound : groups.length = 8 ∧ ∀ g ∈ groups, g < 65536 then some ⟨groups, sound.1, sound.2⟩
  else none

def IP.to4 (ip : IP) : Option (Nat × Nat × Nat × Nat) :=
  match ip.groups with
  | [0, 0, 0, 0, 0, 65535, x, y] => some (x / 256, x % 256, y / 256, y % 256)
  | _ => none

def digit (n : Nat) : Char := hexDigit lowerhex n

def decimalValue (c : Char) : Option Nat :=
  if '0' ≤ c ∧ c ≤ '9' then some (c.toNat - '0'.toNat) else none

def appendDecimal (x : Nat) : List Char :=
  (if 100 ≤ x then [digit (x / 100)] else []) ++ (if 10 ≤ x then [digit (x / 10 % 10)] else []) ++
    [digit (x % 10)]

def appendHex (x : Nat) : List Char :=
  (if 4096 ≤ x then [digit (x / 4096)] else []) ++
    (if 256 ≤ x then [digit (x / 256 % 16)] else []) ++
    (if 16 ≤ x then [digit (x / 16 % 16)] else []) ++ [digit (x % 16)]

def string4 : Nat × Nat × Nat × Nat → List Char
  | (a, b, c, d) =>
    appendDecimal a ++ '.' :: (appendDecimal b ++ '.' :: (appendDecimal c ++ '.' :: appendDecimal d))

def zeros : List Nat → Nat
  | 0 :: rest => zeros rest + 1
  | _ => 0

def runWidth : Option (Nat × Nat) → Nat
  | none => 0
  | some (_, length) => length

def longestZeros : Nat → List Nat → Option (Nat × Nat) → Option (Nat × Nat)
  | _, [], best => best
  | i, g :: rest, best =>
    if 2 ≤ zeros (g :: rest) ∧ runWidth best < zeros (g :: rest) then
      longestZeros (i + 1) rest (some (i, zeros (g :: rest)))
    else longestZeros (i + 1) rest best

def colons : List Nat → List Char
  | [] => []
  | [g] => appendHex g
  | g :: rest => appendHex g ++ ':' :: colons rest

def string6 (groups : List Nat) : List Char :=
  match longestZeros 0 groups none with
  | none => colons groups
  | some (start, length) =>
    colons (groups.take start) ++ ':' :: ':' :: colons (groups.drop (start + length))

def IP.string (ip : IP) : List Char :=
  match ip.to4 with
  | some bytes => string4 bytes
  | none => string6 ip.groups

/-- The loop over the four fields of an IPv4 address, with the fields read, the value and the
    number of digits of the one under way, and the character before. -/
def parseIPv4Fields (fields : List Nat) (val digLen : Nat) (before : Option Char) :
    List Char → Option (List Nat)
  | [] => if fields.length < 3 then none else some (fields ++ [val])
  | c :: rest =>
    match decimalValue c with
    | some d =>
      if digLen = 1 ∧ val = 0 then none
      else if 255 < val * 10 + d then none
      else parseIPv4Fields fields (val * 10 + d) (digLen + 1) (some c) rest
    | none =>
      if c = '.' then
        if before = none ∨ rest = [] ∨ before = some '.' then none
        else if fields.length = 3 then none
        else parseIPv4Fields (fields ++ [val]) 0 0 (some c) rest
      else none

def parseIPv4 (s : List Char) : Option (List Nat) :=
  match parseIPv4Fields [] 0 0 none s with
  | some [a, b, c, d] => some [0, 0, 0, 0, 0, 65535, a * 256 + b, c * 256 + d]
  | _ => none

def readGroup : Nat → Nat → List Char → Option (Nat × Nat × List Char)
  | off, acc, [] => some (off, acc, [])
  | off, acc, c :: rest =>
    match hexValue c with
    | none => some (off, acc, c :: rest)
    | some d =>
      if 3 < off then none
      else if 65535 < acc * 16 + d then none
      else readGroup (off + 1) (acc * 16 + d) rest

/-- The loop over the groups, with the room that is left, the groups read and the place of the
    ellipsis. -/
def parseGroups : Nat → List Nat → Option Nat → List Char →
    Option (List Nat × Option Nat × List Char)
  | 0, groups, ellipsis, s => some (groups, ellipsis, s)
  | room + 1, groups, ellipsis, s =>
    match readGroup 0 0 s with
    | none => none
    | some (off, acc, behind) =>
      if off = 0 then none
      else
        match behind with
        | [] => some (groups ++ [acc], ellipsis, [])
        | '.' :: _ =>
          if ellipsis = none ∧ groups.length ≠ 6 then none
          else if room = 0 then none
          else
            match parseIPv4Fields [] 0 0 none s with
            | some [a, b, c, d] => some (groups ++ [a * 256 + b, c * 256 + d], ellipsis, [])
            | _ => none
        | [':'] => none
        | ':' :: ':' :: rest =>
          if ellipsis.isSome then none
          else if rest = [] then some (groups ++ [acc], some (groups.length + 1), [])
          else parseGroups room (groups ++ [acc]) (some (groups.length + 1)) rest
        | ':' :: rest => parseGroups room (groups ++ [acc]) ellipsis rest
        | _ :: _ => none

/-- The groups that an ellipsis stands for are put in. It must stand for one at least. -/
def expand : Option (List Nat × Option Nat × List Char) → Option (List Nat)
  | some (groups, ellipsis, []) =>
    match ellipsis with
    | none => if groups.length < 8 then none else some groups
    | some place =>
      if groups.length < 8 then
        some (groups.take place ++ List.replicate (8 - groups.length) 0 ++ groups.drop place)
      else none
  | _ => none

def parseIPv6 (s : List Char) : Option (List Nat) :=
  match s with
  | [':', ':'] => some (List.replicate 8 0)
  | ':' :: ':' :: rest => expand (parseGroups 8 [] (some 0) rest)
  | _ => expand (parseGroups 8 [] none s)

def form : List Char → Option Char
  | [] => none
  | c :: rest => if c = '.' ∨ c = ':' ∨ c = '%' then some c else form rest

/-- ParseIP. An address with a zone is none. -/
def parseIP (s : List Char) : Option IP :=
  match form s with
  | some '.' => (parseIPv4 s).bind ofGroups
  | some ':' => if '%' ∈ s then none else (parseIPv6 s).bind ofGroups
  | _ => none

def Stops (rest : List Char) : Prop := ∀ c ∈ rest.head?, hexValue c = none

theorem stops_nil : Stops [] := by
  intro c first
  cases first

structure Run (groups : List Nat) (start length : Nat) : Prop where
  long : 2 ≤ length
  parts : groups.take start ++ List.replicate length 0 ++ groups.drop (start + length) = groups

theorem Run.lengths {groups : List Nat} {start length : Nat} (run : Run groups start length) :
    (groups.take start).length = start ∧
      start + length + (groups.drop (start + length)).length = groups.length := by
  have long := run.long
  have total := congrArg List.length run.parts
  simp only [List.length_append, List.length_take, List.length_replicate, List.length_drop] at total ⊢
  omega

example : string6 [0, 0, 1, 0, 0, 0, 0, 1] = "0:0:1::1".toList := by decide

example : parseIP "fe80::1%eth0".toList = none := by decide

end GoIP
