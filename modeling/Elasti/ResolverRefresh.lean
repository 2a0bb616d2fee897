import Elasti.CRDFeed
import Elasti.SliceShape
import Elasti.Segments

/- handleResolverChanges: when the resolver's deployment changes, the slices of all services in
   proxy mode are written again. The call ranges over the CRD directory, which the reconciler may
   change meanwhile; what each visit meets of the API is an input of it. -/
namespace ResolverRefresh
open GuardedRuns MapRange ResolverSlice SwitchModes Segments
open CRDFeed (CRDDetails Directory)
open SliceShape (addresses createOrUpdate_reads)

abbrev Slices := String × String → Option EndpointSlice

def keyParts (key : String) : List String := (key.toList.splitOn '/').map String.ofList

/-- What the call does at one entry of the directory. A failure is logged, and the call goes on;
    a panic is not caught. -/
def refresh (config : ResolverConfig) (key : String) (crdDetails : CRDDetails) (call : Call)
    (slices : Slices) : Slices × Bool :=
  if crdDetails.status.mode ≠ "proxy" then (slices, false)
  else
    match keyParts key with
    | [ns, name] =>
      match call.faults.serviceGet with
      | some _ => (slices, false)
      | none =>
        let result := createOrUpdateEndpointsliceToResolver config call ⟨none, slices (ns, name), none⟩
        (Function.update slices (ns, name) result.1.slice, decide (result.2 = .panicked))
    | _ => (slices, false)

structure World where
  directory : Directory
  range : Range String CRDDetails
  slices : Slices
  crashed : Bool

def handleResolverChanges (deploymentName : String) (convert : Option String) (name : String)
    (directory : Directory) (slices : Slices) : Except String (Option World) :=
  match convert with
  | some text =>
    .error ("failed to convert unstructured to deployment: UnstructuredToResource: " ++ text)
  | none =>
    if name ≠ deploymentName then .ok none
    else .ok (some ⟨directory, begin directory, slices, false⟩)

inductive Event where
  | add (key : String) (details : CRDDetails)
  | remove (key : String)
  | visit (key : String) (call : Call)

def named (key : String) (service : Service) : Bool :=
  match keyParts key with
  | [ns, name] => service.ns == ns && service.name == name
  | _ => true

def step (config : ResolverConfig) (w : World) : Event → Option World
  | .add key details =>
    let directory := w.directory.insert key details
    some { w with directory, range := w.range.changed directory }
  | .remove key =>
    let directory := w.directory.erase key
    some { w with directory, range := w.range.changed directory }
  | .visit key call =>
    if w.crashed || !named key call.service then none
    else
      (w.range.visit w.directory key).map fun range =>
        match w.directory.lookup key with
        | none => { w with range }
        | some details =>
          let result := refresh config key details call w.slices
          { w with range, slices := result.1, crashed := result.2 }

def Serves (key : String) (details : CRDDetails) (place : String × String) : Prop :=
  details.status.mode = "proxy" ∧ keyParts key = [place.1, place.2]

def Fails (config : ResolverConfig) (call : Call) : Prop :=
  call.faults.serviceGet ≠ none ∨ call.faults.resolverList ≠ none ∨
    addresses config call.slices = [] ∨ call.faults.sliceGet ≠ none ∨ call.faults.sliceWrite ≠ none

theorem keyParts_injective {a b : String} (same : keyParts a = keyParts b) : a = b := by
  have ofList_injective : Function.Injective String.ofList := fun _ _ eq => String.ofList_injective eq
  have segments := List.map_injective_iff.mpr ofList_injective same
  exact String.toList_inj.mp (segments_injective segments)

theorem refresh_elsewhere {config : ResolverConfig} {key : String} {details : CRDDetails}
    {place : String × String} (unserved : ¬ Serves key details place) (call : Call)
    (slices : Slices) : (refresh config key details call slices).1 place = slices place := by
  unfold refresh
  split
  · rfl
  · rename_i proxy
    split
    · rename_i ns name parts
      split
      · rfl
      · have other : place ≠ (ns, name) := by
          rintro rfl
          exact unserved ⟨not_not.mp proxy, parts⟩
        exact Function.update_of_ne other _ _
    · rfl

theorem refresh_writes {config : ResolverConfig} {key : String} {details : CRDDetails}
    {place : String × String} {call : Call} {slices : Slices} (served : Serves key details place)
    (works : ¬ Fails config call) (survives : (refresh config key details call slices).2 = false) :
    (refresh config key details call slices).1 place =
        newEndpointSlice config call.service (addresses config call.slices) ∧
      call.service.ports ≠ [] := by
  obtain ⟨ns, name⟩ := place
  obtain ⟨proxy, parts⟩ := served
  simp only [Fails, not_or, not_not] at works
  obtain ⟨serviceGet, list, found, get, write⟩ := works
  simp only [refresh, proxy, parts, serviceGet, ne_eq, not_true, ↓reduceIte] at survives ⊢
  rcases createOrUpdate_reads ⟨none, slices (ns, name), none⟩ found list get with
    ⟨_, panics⟩ | ⟨first, rest, ports, builds⟩
  · rw [panics] at survives
    simp at survives
  · rw [builds.handed, builds.built, write]
    exact ⟨Function.update_self (ns, name) _ _, by simp [ports]⟩

/-- What a call has done so far. Where it has been, the slice is written or the visit failed;
    where it has not, the slice is the one it found. -/
structure Inv (config : ResolverConfig) (found : Slices) (events : List Event) (w : World) :
    Prop where
  sound : Sound w.range w.directory
  refreshed : w.crashed = false → ∀ key details place, (key, some details) ∈ w.range.visited →
    Serves key details place → ∃ call, Event.visit key call ∈ events ∧
      (Fails config call ∨ (call.service.ports ≠ [] ∧
        w.slices place = newEndpointSlice config call.service (addresses config call.slices)))
  untouched : ∀ place, (∀ key details, (key, some details) ∈ w.range.visited →
    ¬ Serves key details place) → w.slices place = found place

theorem inv_begin (config : ResolverConfig) (directory : Directory) (slices : Slices) :
    Inv config slices [] ⟨directory, begin directory, slices, false⟩ where
  sound := sound_begin directory
  refreshed := by
    intro _ key details place visited
    cases visited
  untouched := fun _ _ => rfl

theorem Inv.directory {config : ResolverConfig} {found : Slices} {events : List Event} {w : World}
    (inv : Inv config found events w) (event : Event) (directory : Directory) :
    Inv config found (events ++ [event])
      { w with directory, range := w.range.changed directory } where
  sound := inv.sound.changed directory
  refreshed := by
    intro runs key details place visited served
    obtain ⟨call, listed, done⟩ := inv.refreshed runs key details place visited served
    exact ⟨call, List.mem_append_left _ listed, done⟩
  untouched := inv.untouched

theorem serves_once {a b : String} {x y : CRDDetails} {place : String × String}
    (left : Serves a x place) (right : Serves b y place) : a = b :=
  keyParts_injective (left.2.trans right.2.symm)

theorem Inv.visit {config : ResolverConfig} {found : Slices} {events : List Event} {w : World}
    (inv : Inv config found events w) (runs : w.crashed = false) {key : String} {call : Call}
    {range : Range String CRDDetails} (visits : w.range.visit w.directory key = some range) :
    Inv config found (events ++ [.visit key call])
      (match w.directory.lookup key with
        | none => { w with range }
        | some details => { w with
            range
            slices := (refresh config key details call w.slices).1
            crashed := (refresh config key details call w.slices).2 }) := by
  have sound := inv.sound.visit visits
  obtain ⟨fresh, rfl⟩ := visit_cases visits
  cases here : w.directory.lookup key with
  | none =>
    rw [here] at sound
    refine ⟨sound, ?_, ?_⟩
    · intro runs k d place visited served
      rcases List.mem_cons.mp visited with this | before
      · cases this
      · obtain ⟨other, listed, done⟩ := inv.refreshed runs k d place before served
        exact ⟨other, List.mem_append_left _ listed, done⟩
    · intro place unserved
      exact inv.untouched place fun k d visited => unserved k d (List.mem_cons_of_mem _ visited)
  | some details =>
    rw [here] at sound
    refine ⟨sound, ?_, ?_⟩
    · intro survives k d place visited served
      rcases List.mem_cons.mp visited with this | before
      · cases this
        refine ⟨call, List.mem_append_right _ (List.mem_singleton_self _), ?_⟩
        by_cases fails : Fails config call
        · exact .inl fails
        · obtain ⟨written, ports⟩ := refresh_writes served fails survives
          exact .inr ⟨ports, written⟩
      · obtain ⟨other, listed, done⟩ := inv.refreshed runs k d place before served
        refine ⟨other, List.mem_append_left _ listed, ?_⟩
        -- the key of the service was visited before, so this visit is to another one
        have elsewhere : ¬ Serves key details place := by
          intro same
          cases serves_once served same
          exact fresh (List.mem_map_of_mem before)
        exact done.imp_right fun built => ⟨built.1, (refresh_elsewhere elsewhere call w.slices).trans built.2⟩
    · intro place unserved
      have elsewhere := unserved key details List.mem_cons_self
      have before := inv.untouched place fun k d visited =>
        unserved k d (List.mem_cons_of_mem _ visited)
      exact (refresh_elsewhere elsewhere call w.slices).trans before

theorem inv_step {config : ResolverConfig} {found : Slices} {events : List Event} {w t : World}
    {event : Event} (inv : Inv config found events w) (move : step config w event = some t) :
    Inv config found (events ++ [event]) t := by
  cases event with
  | add key details =>
    cases move
    exact inv.directory _ _
  | remove key =>
    cases move
    exact inv.directory _ _
  | visit key call =>
    simp only [step] at move
    split at move
    · cases move
    · rename_i going
      obtain ⟨range, visits, rfl⟩ := Option.map_eq_some_iff.mp move
      have runs : w.crashed = false := by
        cases crashed : w.crashed with
        | false => rfl
        | true => simp [crashed] at going
      exact inv.visit runs visits

/-- A call that ends has written the slice of every service that the directory held in proxy mode
    all the while, with the resolver's addresses as its visit found them, unless that visit
    failed: no other failure stops it. It has left alone every service that was not in proxy mode
    at any moment of the call. -/
theorem all_proxies_refreshed {config : ResolverConfig} {deploymentName : String}
    {directory : Directory} {slices : Slices} {start w : World} {events : List Event}
    (begins : handleResolverChanges deploymentName none deploymentName directory slices =
      .ok (some start))
    (ran : run (step config) start events = some w) (runs : w.crashed = false)
    (ends : w.range.done w.directory = true) (key : String) (place : String × String)
    (parts : keyParts key = [place.1, place.2]) :
    ((∀ content ∈ w.range.held, ∃ details, content.lookup key = some details ∧
        details.status.mode = "proxy") →
      ∃ call, Event.visit key call ∈ events ∧ (Fails config call ∨ (call.service.ports ≠ [] ∧
        w.slices place = newEndpointSlice config call.service (addresses config call.slices)))) ∧
    ((∀ content ∈ w.range.held, ∀ details, content.lookup key = some details →
        details.status.mode ≠ "proxy") → w.slices place = slices place) := by
  have started : start = ⟨directory, begin directory, slices, false⟩ := by
    simp only [handleResolverChanges, ne_eq, not_true, ↓reduceIte] at begins
    cases begins
    rfl
  rw [started] at ran
  have inv := run_invariant (Inv config slices) (inv_begin config directory slices)
    (fun _ _ _ _ inv move => inv_step inv move) events ran
  constructor
  · intro always
    obtain ⟨content, held, reflects⟩ := result_reflects inv.sound ends key
    obtain ⟨details, there, proxy⟩ := always content held
    have visited := mem_result.mp ((reflects details).mp there)
    exact inv.refreshed runs key details place visited ⟨proxy, parts⟩
  · intro never
    apply inv.untouched
    intro k details visited served
    cases keyParts_injective (parts.trans served.2.symm)
    obtain ⟨content, held, seen⟩ := inv.sound.seen _ visited
    exact never content held details seen served.1

def webDirectory : Directory := (∅ : Directory).insert "shop/web" CRDFeed.webDetails

def visitOf (name : String) (slices : List EndpointSlice) : Call :=
  { quietCall .proxy slices with service := ⟨"shop", name, ["http"]⟩ }

def webEvents : List Event :=
  [.add "shop/api" CRDFeed.webDetails, .visit "shop/api" (visitOf "api" []),
    .visit "shop/web" (visitOf "web" [resolverPod]), .remove "shop/api"]

theorem web_refreshed :
    ∃ w, run (step oneNamespace) ⟨webDirectory, begin webDirectory, fun _ => none, false⟩ webEvents =
        some w ∧
      ∃ call, Event.visit "shop/web" call ∈ webEvents ∧ (Fails oneNamespace call ∨
        (call.service.ports ≠ [] ∧ w.slices ("shop", "web") =
          newEndpointSlice oneNamespace call.service (addresses oneNamespace call.slices))) := by
  have begins : handleResolverChanges "elasti-resolver" none "elasti-resolver" webDirectory
      (fun _ => none) = .ok (some ⟨webDirectory, begin webDirectory, fun _ => none, false⟩) := rfl
  have ran : run (step oneNamespace) ⟨webDirectory, begin webDirectory, fun _ => none, false⟩
      webEvents = some _ := rfl
  refine ⟨_, ran, (all_proxies_refreshed begins ran rfl rfl "shop/web" ("shop", "web") rfl).1 ?_⟩
  intro content held
  refine ⟨CRDFeed.webDetails, ?_, rfl⟩
  rcases List.mem_cons.mp held with rfl | more
  · rfl
  · rcases List.mem_cons.mp more with rfl | last
    · rfl
    · rw [List.mem_singleton.mp last]
      rfl

end ResolverRefresh
