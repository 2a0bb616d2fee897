import Elasti.Modes

/- updateCRDStatus against a cache. The object read may be any version the object has had, and
   the merge patch carries only the fields in which the modified copy differs from that
   version; nothing in it says which version it was made from. -/
namespace StatusPatch
open GuardedRuns

structure Status where
  lastReconciledTime : Int
  lastScaledUpTime : Option Int
  mode : String
  deriving DecidableEq, Repr

structure Patch where
  lastReconciledTime : Option Int
  lastScaledUpTime : Option (Option Int)
  mode : Option String
  deriving DecidableEq, Repr

def changed {α : Type} [DecidableEq α] (old new : α) : Option α :=
  if old = new then none else some new

def mergeFrom (original es : Status) : Patch where
  lastReconciledTime := changed original.lastReconciledTime es.lastReconciledTime
  lastScaledUpTime := changed original.lastScaledUpTime es.lastScaledUpTime
  mode := changed original.mode es.mode

def Patch.apply (p : Patch) (stored : Status) : Status where
  lastReconciledTime := p.lastReconciledTime.getD stored.lastReconciledTime
  lastScaledUpTime := p.lastScaledUpTime.getD stored.lastScaledUpTime
  mode := p.mode.getD stored.mode

/-- The status after the call, and the text of its error. Get answers with a version of the
    object or fails, and the patch may be refused. -/
def updateCRDStatus (now : Int) (mode : String) (get : Except String Status)
    (refused : Option String) (stored : Status) : Status × Option String :=
  match get with
  | .error _ => (stored, some "failed to get elastiService for status update")
  | .ok original =>
    match refused with
    | some _ => (stored, some "failed to patch CRD status")
    | none =>
      ((mergeFrom original { original with lastReconciledTime := now, mode := mode }).apply stored,
        none)

theorem changed_getD_iff {α : Type} [DecidableEq α] (old new stored : α) :
    (changed old new).getD stored = new ↔ old ≠ new ∨ stored = new := by
  unfold changed
  by_cases same : old = new <;> simp [same]

theorem updateCRDStatus_mode_iff (now : Int) (mode : String) (original stored : Status) :
    (updateCRDStatus now mode (.ok original) none stored).1.mode = mode ↔
      original.mode ≠ mode ∨ stored.mode = mode :=
  -- the mode is written if the version read has another mode, and needs not be if it is the
  -- stored one already
  changed_getD_iff original.mode mode stored.mode

def modeName : SwitchModes.Mode → String
  | .serve => "serve"
  | .proxy => "proxy"

def routingMode (s : Status) : Option SwitchModes.Mode :=
  if s.mode = "serve" then some .serve else if s.mode = "proxy" then some .proxy else none

def freshGet (f : SwitchModes.Faults) (stored : Status) : Except String Status :=
  match f.statusGet with
  | none => .ok stored
  | some text => .error text

theorem updateCRDStatus_refines (now : Int) (m : SwitchModes.Mode) (f : SwitchModes.Faults)
    (stored : Status) (s : SwitchModes.Routing) (same : routingMode stored = s.mode) :
    routingMode (updateCRDStatus now (modeName m) (freshGet f stored) none stored).1 =
      (SwitchModes.updateCRDStatus f m s).mode := by
  unfold SwitchModes.updateCRDStatus freshGet
  cases get : f.statusGet with
  | some text => exact same
  | none =>
    have written : (updateCRDStatus now (modeName m) (.ok stored) none stored).1.mode = modeName m := by
      rw [updateCRDStatus_mode_iff]
      exact (em (stored.mode = modeName m)).symm
    simp only [routingMode, written]
    cases m <;> simp [modeName]

/-- The stored status, the versions before it, and the mode the last call was passed. -/
structure Versions where
  stored : Status
  older : List Status
  passed : Option String
  deriving DecidableEq, Repr

structure Call where
  mode : String
  now : Int
  version : Nat
  deriving DecidableEq, Repr

def Versions.read (v : Versions) (version : Nat) : Option Status := (v.stored :: v.older)[version]?

def callStep (v : Versions) (c : Call) : Option Versions :=
  (v.read c.version).map fun original =>
    ⟨(updateCRDStatus c.now c.mode (.ok original) none v.stored).1, v.stored :: v.older, some c.mode⟩

def first (stored : Status) (older : List Status) : Versions := ⟨stored, older, none⟩

def ModeAsPassed (v : Versions) : Prop := ∀ mode ∈ v.passed, v.stored.mode = mode

def Distinct (v : Versions) (c : Call) : Prop :=
  ∀ original ∈ v.read c.version, original.mode ≠ c.mode ∨ v.stored.mode = c.mode

instance (v : Versions) (c : Call) : Decidable (Distinct v c) := by
  unfold Distinct
  infer_instance

theorem callStep_exact (v : Versions) (c : Call) (w : Versions) (move : callStep v c = some w) :
    ModeAsPassed w ↔ Distinct v c := by
  obtain ⟨original, found, rfl⟩ := Option.map_eq_some_iff.mp move
  have written := updateCRDStatus_mode_iff c.now c.mode original v.stored
  simp only [ModeAsPassed, Distinct, found, Option.mem_some_iff, forall_eq']
  exact written

/-- After each call of a sequence the stored mode is the mode passed to it, exactly if no call
    reads a version that has this mode already while the stored one has another. -/
theorem mode_as_passed_iff (stored : Status) (older : List Status) (calls : List Call)
    (last : Versions) (done : run callStep (first stored older) calls = some last) :
    Always callStep ModeAsPassed (first stored older) calls ↔
      Meets callStep Distinct (first stored older) calls := by
  have start : ModeAsPassed (first stored older) := by
    intro mode passed
    contradiction
  have keep : ∀ v c w, True → callStep v c = some w → True := fun _ _ _ _ _ => trivial
  have turn : ∀ v c w, True → ModeAsPassed v → callStep v c = some w →
      (ModeAsPassed w ↔ Distinct v c) := fun v c w _ _ move => callStep_exact v c w move
  exact always_iff_meets keep turn calls trivial start done

def serving : Status := ⟨0, none, "serve"⟩

def freshFlip : List Call := [⟨"proxy", 1, 0⟩, ⟨"serve", 2, 0⟩]

theorem flip_with_fresh_cache :
    Always callStep ModeAsPassed (first serving []) freshFlip :=
  (mode_as_passed_iff serving [] freshFlip _ rfl).mpr (meets_of_guardedRun freshFlip rfl)

/-- Proxy and back before the cache has seen the first patch: the second patch leaves the mode
    out. -/
theorem flip_with_stale_cache :
    ∃ v, Reach callStep Unguarded (first serving []) v ∧ v.passed = some "serve" ∧
      v.stored.mode = "proxy" := by
  exact reaches_of_run [⟨"proxy", 1, 0⟩, ⟨"serve", 2, 1⟩] (by decide +kernel)

end StatusPatch
