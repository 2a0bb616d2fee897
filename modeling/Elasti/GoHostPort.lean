import Mathlib

/- Joining a host and a port to one text, and splitting such a text again, as a Go program does.
   A host that has colons stands in brackets. -/
namespace GoHostPort

def lastColon : List Char → Option (List Char × List Char)
  | [] => none
  | c :: rest =>
    match lastColon rest with
    | some (before, behind) => some (c :: before, behind)
    | none => if c = ':' then some ([], rest) else none

def firstBracket : List Char → Option (List Char × List Char)
  | [] => none
  | c :: rest =>
    if c = ']' then some ([], rest)
    else (firstBracket rest).map fun cut => (c :: cut.1, cut.2)

def missingPort : String := "missing port in address"

def tooManyColons : String := "too many colons in address"

/-- The host of a text without brackets around it is what stands before the last colon. -/
def splitHostPort (hostport : List Char) : Except String (List Char × List Char) :=
  match lastColon hostport with
  | none => .error missingPort
  | some (before, port) =>
    match hostport with
    | '[' :: inside =>
      match firstBracket inside with
      | none => .error "missing ']' in address"
      | some (_, []) => .error missingPort
      | some (host, ':' :: behind) =>
        if ':' ∈ behind then .error tooManyColons
        else if '[' ∈ inside then .error "unexpected '[' in address"
        else if ']' ∈ behind then .error "unexpected ']' in address"
        else .ok (host, port)
      | some (_, _ :: _) => .error missingPort
    | _ =>
      if ':' ∈ before then .error tooManyColons
      else if '[' ∈ hostport then .error "unexpected '[' in address"
      else if ']' ∈ hostport then .error "unexpected ']' in address"
      else .ok (before, port)

def joinHostPort (host port : List Char) : List Char :=
  if ':' ∈ host then '[' :: (host ++ ']' :: ':' :: port) else host ++ ':' :: port

def Plain (port : List Char) : Prop := ':' ∉ port ∧ '[' ∉ port ∧ ']' ∉ port

end GoHostPort
