import Elasti.GuardedRuns
import Elasti.MapRange
import Elasti.Notification
import Elasti.SpecText

/- The resolver's copy of the CRD directory. The operator ranges over its directory while the
   reconciler changes it, and sends what it saw as JSON; the resolver decodes the text and puts
   the new map in the place of the old one. A fetch that fails leaves the old one. -/
namespace CRDFeed
open GoJson GoJsonText GoJsonCodec GuardedRuns SpecText MapRange
open Notification (Reply httpError)

structure ElastiServiceStatus where
  lastReconciledTime : Option String
  lastScaledUpTime : Option (Option String)
  mode : String
  deriving DecidableEq, Repr

def encodeTime : Option String → Json
  | none => .null
  | some text => .str text

def encodeStatus (status : ElastiServiceStatus) : Json :=
  .obj ([("lastReconciledTime", encodeTime status.lastReconciledTime)] ++
    (status.lastScaledUpTime.map fun time => ("lastScaledUpTime", encodeTime time)).toList ++
    (if status.mode = "" then [] else [("mode", .str status.mode)]))

structure CRDDetails where
  crdName : String
  spec : ElastiServiceSpec
  status : ElastiServiceStatus
  admitted : Admitted spec

abbrev Directory := Content String CRDDetails

structure ElastiServiceEntry where
  name : String
  spec : Option Json
  status : Option Json

def elastiServiceEntry : Codec ElastiServiceEntry :=
  Codec.record "messages.ElastiServiceEntry" ⟨"", none, none⟩
    [always "name" Codec.string (·.name) (fun x s => { s with name := x }) (fun _ => rfl),
      always "spec" Codec.raw (·.spec) (fun x s => { s with spec := x }) (fun _ => rfl),
      always "status" Codec.raw (·.status) (fun x s => { s with status := x }) (fun _ => rfl)]
    (by decide +kernel) (fun _ => ⟨rfl, rfl, rfl, rfl⟩)

/-- Marshal refuses a RawMessage that opens too many brackets. -/
def marshalEntry (details : CRDDetails) : Option ElastiServiceEntry :=
  if fits (elastiServiceSpec.encode details.spec) maxNestingDepth then
    some ⟨details.crdName, some (elastiServiceSpec.encode details.spec),
      some (encodeStatus details.status)⟩
  else none

def marshalEntries : List (String × CRDDetails) → Option (List (String × ElastiServiceEntry))
  | [] => some []
  | (key, details) :: rest =>
    match marshalEntry details with
    | none => none
    | some entry => (marshalEntries rest).map fun entries => (key, entry) :: entries

def encodeResponse (services : List (String × ElastiServiceEntry)) : Json :=
  .obj [("services", encodeMap elastiServiceEntry services)]

def crdCacheHandler (method : String) (allCRDs : List (String × CRDDetails)) : Reply :=
  if method ≠ "GET" then httpError "Method not allowed" 405
  else
    match marshalEntries allCRDs with
    | none => httpError "Internal server error" 500
    | some services => ⟨200, "application/json", render (encodeResponse services) ++ ['\n']⟩

inductive FetchErr where
  | request (text : String)
  | status (code : Nat) (body : List Char)
  | decode
  deriving DecidableEq, Repr

def servicesDecoder : Decoder (List (String × ElastiServiceEntry)) :=
  mapDecoder "map[string]messages.ElastiServiceEntry" elastiServiceEntry.zero elastiServiceEntry.decoder

def responseDecoder : Decoder (List (String × ElastiServiceEntry)) :=
  struct "messages.ElastiServiceCacheResponse"
    [field "services" id (fun services _ => services) servicesDecoder]

def getElastiServiceCache : Except String Reply →
    Except FetchErr (List (String × ElastiServiceEntry))
  | .error text => .error (.request text)
  | .ok reply =>
    if reply.status ≠ 200 then .error (.status reply.status reply.body)
    else
      match decodeNext reply.body with
      | none => .error .decode
      | some (j, _) =>
        match responseDecoder.run j [] with
        | (services, none) => .ok services
        | (_, some _) => .error .decode

abbrev Cache := List (String × ElastiServiceEntry)

def fetch (answer : Except String Reply) (cache : Cache) : Cache × Option FetchErr :=
  match getElastiServiceCache answer with
  | .error err => (cache, some err)
  | .ok services => (services, none)

def getElastiService (key : String) (cache : Cache) : Option ElastiServiceEntry := cache.lookup key

/-- What a fetch is at: the operator ranges over its directory, or the answer is on its way,
    with the contents that the directory had while it was put together. -/
inductive Fetch where
  | idle
  | serving (range : Range String CRDDetails)
  | answered (answer : Except String Reply) (held : List Directory)

/-- The basis is what the directory held while the fetch was served that the cache is from. -/
structure World where
  directory : Directory
  fetch : Fetch
  cache : Cache
  basis : List Directory

def start : World := ⟨∅, .idle, [], [∅]⟩

inductive Event where
  | add (key : String) (details : CRDDetails)
  | remove (key : String)
  | request
  | visit (key : String)
  | reply
  | fault (answer : Except String Reply)
  | install

def Fetch.note (d : Directory) : Fetch → Fetch
  | .serving range => .serving (range.changed d)
  | other => other

def faulty : Except String Reply → Bool
  | .error _ => true
  | .ok reply => reply.status ≠ 200

def step (w : World) : Event → Option World
  | .add key details =>
    some { w with
      directory := w.directory.insert key details
      fetch := w.fetch.note (w.directory.insert key details) }
  | .remove key =>
    some { w with
      directory := w.directory.erase key
      fetch := w.fetch.note (w.directory.erase key) }
  | .request =>
    match w.fetch with
    | .idle => some { w with fetch := .serving (begin w.directory) }
    | _ => none
  | .visit key =>
    match w.fetch with
    | .serving range => (range.visit w.directory key).map fun r => { w with fetch := .serving r }
    | _ => none
  | .reply =>
    match w.fetch with
    | .serving range =>
      if range.done w.directory then
        some { w with fetch := .answered (.ok (crdCacheHandler "GET" range.result)) range.held }
      else none
    | _ => none
  -- the connection may fail, or someone else may answer, at any time
  | .fault answer =>
    match w.fetch with
    | .idle => none
    | _ => if faulty answer then some { w with fetch := .answered answer [] } else none
  | .install =>
    match w.fetch with
    | .answered answer held =>
      let fetched := CRDFeed.fetch answer w.cache
      some { w with
        fetch := .idle
        cache := fetched.1
        basis := if fetched.2 = none then held else w.basis }
    | _ => none

def entryOf (details : CRDDetails) : ElastiServiceEntry :=
  ⟨details.crdName, some (elastiServiceSpec.encode details.spec), some (encodeStatus details.status)⟩

theorem fits_spec (details : CRDDetails) :
    fits (elastiServiceSpec.encode details.spec) (metadataDepth + 3) = true :=
  elastiServiceSpec.fits_encode (elastiServiceSpec_good details.admitted)

theorem marshalEntry_admitted (details : CRDDetails) :
    marshalEntry details = some (entryOf details) := by
  rw [marshalEntry, if_pos (fits_mono (fits_spec details) (by decide))]
  rfl

theorem marshalEntries_admitted (crds : List (String × CRDDetails)) :
    marshalEntries crds = some (crds.map fun crd => (crd.1, entryOf crd.2)) := by
  induction crds with
  | nil => rfl
  | cons crd crds ih => simp [marshalEntries, marshalEntry_admitted, ih]

theorem fits_status (status : ElastiServiceStatus) (depth : Nat) :
    fits (encodeStatus status) (depth + 1) = true := by
  have time : ∀ t, fits (encodeTime t) depth = true := by
    intro t
    cases t <;> simp [encodeTime, fits]
  obtain ⟨reconciled, scaled, mode⟩ := status
  cases scaled with
  | none =>
    by_cases quiet : mode = "" <;> simp [encodeStatus, fits, fitsMembers, time, quiet]
  | some scaled =>
    by_cases quiet : mode = "" <;> simp [encodeStatus, fits, fitsMembers, time, quiet]

theorem entryOf_good (details : CRDDetails) :
    elastiServiceEntry.Good (metadataDepth + 4) (entryOf details) := by
  intro m listed
  simp only [List.mem_cons, List.not_mem_nil, or_false] at listed
  rcases listed with rfl | rfl | rfl
  · exact fun _ => trivial
  · exact fun _ => ⟨_, rfl, fits_spec details⟩
  · exact fun _ => ⟨_, rfl, fits_status details.status _⟩

theorem responseDecoder_services {j : Json} {services : List (String × ElastiServiceEntry)}
    (decoded : servicesDecoder.run j [] = (services, none)) :
    responseDecoder.run (.obj [("services", j)]) [] = (services, none) := by
  have found : lookup [field "services" id (fun services _ => services) servicesDecoder] "services" =
      some (field "services" id (fun services _ => services) servicesDecoder) := by
    simp [lookup, field]
  simp only [responseDecoder, struct, runMembers, found]
  simp [field, decoded]

theorem fetched_back {crds : List (String × CRDDetails)} (distinct : (crds.map Prod.fst).Nodup) :
    ∃ services, getElastiServiceCache (.ok (crdCacheHandler "GET" crds)) = .ok services ∧
      ∀ key, services.lookup key = (crds.map fun crd => (crd.1, entryOf crd.2)).lookup key := by
  have entries : ((crds.map fun crd => (crd.1, entryOf crd.2)).map Prod.fst).Nodup := by
    rw [List.map_map]
    exact distinct
  have good : ∀ entry ∈ crds.map fun crd => (crd.1, entryOf crd.2),
      elastiServiceEntry.Good (metadataDepth + 4) entry.2 := by
    intro entry listed
    obtain ⟨crd, -, rfl⟩ := List.mem_map.mp listed
    exact entryOf_good crd.2
  obtain ⟨fit, services, decoded, same⟩ := map_back "map[string]messages.ElastiServiceEntry"
    elastiServiceEntry _ entries good
  have whole : fits (encodeResponse (crds.map fun crd => (crd.1, entryOf crd.2))) maxNestingDepth =
      true := by
    show fits (.obj _) (metadataDepth + 5 + 1) = true
    simp [fits, fitsMembers, fit]
  have stops : Stops ['\n'] := ⟨by decide, by decide, by decide, by decide, by decide⟩
  have read := decodeNext_render whole stops
  refine ⟨services, ?_, same⟩
  have run : responseDecoder.run (encodeResponse (crds.map fun crd => (crd.1, entryOf crd.2))) [] =
      (services, none) := responseDecoder_services decoded
  simp only [crdCacheHandler, marshalEntries_admitted, getElastiServiceCache, ne_eq,
    not_true_eq_false, if_false, read, run]

/-- Every key of the cache shows what the directory held for it at some moment of the time. -/
def Reflected (cache : Cache) (held : List Directory) : Prop :=
  ∀ key, ∃ d ∈ held, getElastiService key cache = (d.lookup key).map entryOf

def FetchInv (w : World) : Prop :=
  match w.fetch with
  | .idle => True
  | .serving range => Sound range w.directory
  | .answered answer held => faulty answer = true ∨
      ∃ range d, Sound range d ∧ range.done d = true ∧ range.held = held ∧
        answer = .ok (crdCacheHandler "GET" range.result)

theorem note_inv {w : World} (inv : FetchInv w) (d : Directory) :
    FetchInv { w with directory := d, fetch := w.fetch.note d } := by
  cases at_fetch : w.fetch with
  | idle => simp [FetchInv, Fetch.note]
  | serving range =>
    have sound : Sound range w.directory := by simpa [FetchInv, at_fetch] using inv
    simpa [FetchInv, Fetch.note, at_fetch] using sound.changed d
  | answered answer held => simpa [FetchInv, Fetch.note, at_fetch] using inv

theorem fetch_faulty {answer : Except String Reply} (fault : faulty answer = true) (cache : Cache) :
    ∃ err, fetch answer cache = (cache, some err) := by
  cases answer with
  | error text => exact ⟨_, rfl⟩
  | ok reply =>
    have status : reply.status ≠ 200 := by simpa [faulty] using fault
    exact ⟨.status reply.status reply.body, by simp [fetch, getElastiServiceCache, status]⟩

theorem fetch_answered {range : Range String CRDDetails} {d : Directory} (sound : Sound range d)
    (done : range.done d = true) (cache : Cache) :
    ∃ services, fetch (.ok (crdCacheHandler "GET" range.result)) cache = (services, none) ∧
      Reflected services range.held := by
  have distinct := result_distinct sound
  obtain ⟨services, fetched, same⟩ := fetched_back distinct
  refine ⟨services, by rw [fetch, fetched], fun key => ?_⟩
  obtain ⟨content, held, reflects⟩ := result_reflects sound done key
  refine ⟨content, held, ?_⟩
  have entries : ((range.result.map fun crd => (crd.1, entryOf crd.2)).map Prod.fst).Nodup := by
    rw [List.map_map]
    exact distinct
  rw [getElastiService, same]
  apply Option.ext
  intro entry
  rw [lookup_eq_some entries, Option.map_eq_some_iff]
  constructor
  · intro listed
    obtain ⟨crd, member, equal⟩ := List.mem_map.mp listed
    cases equal
    exact ⟨crd.2, (reflects crd.2).mpr member, rfl⟩
  · rintro ⟨details, found, rfl⟩
    exact List.mem_map.mpr ⟨(key, details), (reflects details).mp found, rfl⟩

structure Inv (w : World) : Prop where
  fetch : FetchInv w
  cache : Reflected w.cache w.basis

theorem inv_step (w : World) (e : Event) (t : World) (inv : Inv w) (_ : Unguarded w e)
    (move : step w e = some t) : Inv t := by
  cases e with
  | add key details =>
    cases move
    exact ⟨note_inv inv.fetch _, inv.cache⟩
  | remove key =>
    cases move
    exact ⟨note_inv inv.fetch _, inv.cache⟩
  | request =>
    simp only [step] at move
    split at move <;> cases move
    exact ⟨sound_begin w.directory, inv.cache⟩
  | visit key =>
    simp only [step] at move
    split at move
    · rename_i range serving
      obtain ⟨r, visits, rfl⟩ := Option.map_eq_some_iff.mp move
      have sound : Sound range w.directory := by simpa [FetchInv, serving] using inv.fetch
      exact ⟨sound.visit visits, inv.cache⟩
    · cases move
  | reply =>
    simp only [step] at move
    split at move
    · rename_i range serving
      split_ifs at move with done
      cases move
      have sound : Sound range w.directory := by simpa [FetchInv, serving] using inv.fetch
      exact ⟨.inr ⟨range, w.directory, sound, done, rfl, rfl⟩, inv.cache⟩
    · cases move
  | fault answer =>
    simp only [step] at move
    split at move
    · cases move
    · split_ifs at move with fault
      cases move
      exact ⟨.inl fault, inv.cache⟩
  | install =>
    simp only [step] at move
    split at move
    · rename_i answer held answered
      cases move
      refine ⟨trivial, ?_⟩
      have known : faulty answer = true ∨ ∃ range d, Sound range d ∧ range.done d = true ∧
          range.held = held ∧ answer = .ok (crdCacheHandler "GET" range.result) := by
        simpa [FetchInv, answered] using inv.fetch
      rcases known with fault | ⟨range, d, sound, done, rfl, rfl⟩
      · obtain ⟨err, kept⟩ := fetch_faulty fault w.cache
        simpa [kept] using inv.cache
      · obtain ⟨services, fetched, reflected⟩ := fetch_answered sound done w.cache
        simpa [fetched] using reflected
    · cases move

theorem inv_start : Inv start where
  fetch := trivial
  cache := fun _ => ⟨∅, List.mem_singleton_self _, rfl⟩

theorem inv_reach {w : World} (reach : Reach step Unguarded start w) : Inv w :=
  reach_invariant Inv inv_start inv_step reach

section Polls

def pollOf (d : Directory) : List Event := .request :: (d.keys.map .visit ++ [.reply, .install])

theorem run_visits {w : World} {range : Range String CRDDetails}
    (serving : w.fetch = .serving range)
    (sound : Sound range w.directory) (keys : List String) (distinct : keys.Nodup)
    (fresh : ∀ key ∈ keys, key ∉ range.visited.map Prod.fst) :
    ∃ r, run step w (keys.map .visit) = some { w with fetch := .serving r } ∧
      Sound r w.directory ∧ r.held = range.held ∧
      ∀ key, key ∈ keys ∨ key ∈ range.visited.map Prod.fst → key ∈ r.visited.map Prod.fst := by
  induction keys generalizing w range with
  | nil =>
    refine ⟨range, by rw [← serving]; rfl, sound, rfl, ?_⟩
    rintro key (listed | visited)
    · cases listed
    · exact visited
  | cons key keys ih =>
    obtain ⟨apart, rest⟩ := List.nodup_cons.mp distinct
    let visited : Range String CRDDetails := ⟨(key, w.directory.lookup key) :: range.visited, range.held⟩
    have visits : range.visit w.directory key = some visited := if_neg (fresh key List.mem_cons_self)
    have others : ∀ other ∈ keys, other ∉ visited.visited.map Prod.fst := by
      intro other listed again
      rcases List.mem_cons.mp again with rfl | before
      · exact apart listed
      · exact fresh other (List.mem_cons_of_mem key listed) before
    obtain ⟨r, ran, soundly, held, all⟩ :=
      @ih { w with fetch := .serving visited } visited rfl (sound.visit visits) rest others
    refine ⟨r, ?_, soundly, held, ?_⟩
    · rw [List.map_cons, run]
      simp only [step, serving, visits, Option.map_some, Option.bind_some]
      exact ran
    · rintro other (listed | before)
      · rcases List.mem_cons.mp listed with rfl | behind
        · exact all other (.inr List.mem_cons_self)
        · exact all other (.inl behind)
      · exact all other (.inr (List.mem_cons_of_mem _ before))

theorem poll_runs {w : World} (idle : w.fetch = .idle) :
    ∃ services, run step w (pollOf w.directory) = some ⟨w.directory, .idle, services, [w.directory]⟩ ∧
      Reflected services [w.directory] := by
  obtain ⟨r, ran, sound, held, all⟩ :=
    @run_visits { w with fetch := .serving (begin w.directory) } _ rfl (sound_begin w.directory)
      w.directory.keys w.directory.keys_nodup (fun _ _ visited => by cases visited)
  have done : r.done w.directory = true := by
    refine List.all_eq_true.mpr fun key listed => ?_
    simpa using all key (.inl listed)
  obtain ⟨services, fetched, reflected⟩ := fetch_answered sound done w.cache
  have window : r.held = [w.directory] := held
  rw [window] at reflected
  refine ⟨services, ?_, reflected⟩
  rw [pollOf, run]
  simp only [step, idle, Option.bind_some]
  rw [run_append, ran]
  simp [run, step, done, fetched, window]

/-- From every state of the feed in which no fetch is under way, a poll that nothing interferes
    with runs to its end, and afterwards the cache is exact: every service of the directory with
    the entry of its details, and no other. -/
theorem poll_catches_up {w : World} (idle : w.fetch = .idle) :
    ∃ t, run step w (pollOf w.directory) = some t ∧ t.fetch = .idle ∧ t.directory = w.directory ∧
      ∀ key, getElastiService key t.cache = (w.directory.lookup key).map entryOf := by
  obtain ⟨services, ran, reflected⟩ := poll_runs idle
  refine ⟨_, ran, rfl, rfl, fun key => ?_⟩
  obtain ⟨d, member, same⟩ := reflected key
  rw [same, List.mem_singleton.mp member]

def webDetails : CRDDetails where
  crdName := "web-elasti"
  spec :=
    { scaleTargetRef := ⟨"apps/v1", "Deployment", "web"⟩, service := "web", minTargetReplicas := 1,
      cooldownPeriod := 900, autoscaler := none,
      probeResponse := [⟨none, [], [], none, ⟨204, "ok".toList⟩⟩], triggers := [],
      enabledPeriod := none }
  status := ⟨none, none, "proxy"⟩
  admitted :=
    { minTargetReplicas := by decide
      cooldownPeriod := by decide
      status := by
        intro rule listed
        rw [List.mem_singleton.mp listed]
        decide
      metadata := by
        intro trigger listed
        cases listed }

def webWorld : World := ⟨(∅ : Directory).insert "shop/web" webDetails, .idle, [], [∅]⟩

theorem web_polled :
    ∃ t, run step webWorld (pollOf webWorld.directory) = some t ∧
      getElastiService "shop/web" t.cache = some (entryOf webDetails) := by
  obtain ⟨t, ran, -, -, copied⟩ := @poll_catches_up webWorld rfl
  refine ⟨t, ran, ?_⟩
  rw [copied, webWorld, AList.lookup_insert]
  rfl

end Polls

section Probes
open ProbeRules (Library Request ProbeResponseRule Answer noMatch matchRules matchProbeResponseFromSpec)

def rawBytes : Option Json → List UInt8
  | none => []
  | some j => (String.ofList (render j)).toUTF8.data.toList

def specRules (bytes : List UInt8) : Except String (List ProbeResponseRule) :=
  -- unmarshal of the bytes into a spec, of which only the probe rules are used
  match String.fromUTF8? ⟨bytes.toArray⟩ with
  -- the value of a RawMessage is written as UTF-8
  | none => .error "invalid UTF-8"
  | some text =>
    match unmarshal text.toList with
    | none => .error "invalid spec"
    | some spec => .ok spec.probeResponse

def withSpecRules (lib : Library) : Library := { lib with unmarshal := specRules }

def probeAnswer (lib : Library) (cache : Cache) (ns sourceService : String) (req : Request) :
    Answer :=
  match getElastiService (ns ++ "/" ++ sourceService) cache with
  | none => noMatch
  | some crdDetails =>
    matchProbeResponseFromSpec (withSpecRules lib) (rawBytes crdDetails.spec) (some req)

theorem fromUTF8_rawBytes (j : Json) :
    String.fromUTF8? ⟨(rawBytes (some j)).toArray⟩ = some (String.ofList (render j)) := by
  have same : (⟨(rawBytes (some j)).toArray⟩ : ByteArray) = (String.ofList (render j)).toByteArray := by
    simp [rawBytes]
  rw [same, String.fromUTF8?, dif_pos (String.ofList (render j)).isValidUTF8]
  rfl

theorem specRules_entryOf (details : CRDDetails) :
    specRules (rawBytes (entryOf details).spec) = .ok details.spec.probeResponse := by
  have back := marshal_unmarshal details.admitted
  rw [marshal] at back
  rw [specRules, entryOf, fromUTF8_rawBytes]
  simp only [String.toList_ofList, back]

theorem rawBytes_entryOf (details : CRDDetails) : (rawBytes (entryOf details).spec).length ≠ 0 := by
  intro empty
  have none_left := specRules_entryOf details
  rw [List.length_eq_zero_iff.mp empty] at none_left
  cases none_left

/-- Whatever the reconciler, the poller and the network have done so far: the resolver answers a
    probe by the rules that the directory had for the service at some moment while the fetch was
    served that its cache is from, and not at all if it had no entry then. -/
theorem probe_by_directory_rules {w : World} (reach : Reach step Unguarded start w) (lib : Library)
    (ns sourceService : String) (req : Request) :
    ∃ d ∈ w.basis, probeAnswer lib w.cache ns sourceService req =
      match d.lookup (ns ++ "/" ++ sourceService) with
      | none => noMatch
      | some details => matchRules (withSpecRules lib) req details.spec.probeResponse := by
  obtain ⟨d, held, same⟩ := (inv_reach reach).cache (ns ++ "/" ++ sourceService)
  refine ⟨d, held, ?_⟩
  rw [probeAnswer, same]
  cases d.lookup (ns ++ "/" ++ sourceService) with
  | none => rfl
  | some details =>
    simp only [Option.map_some, matchProbeResponseFromSpec, if_neg (rawBytes_entryOf details)]
    rw [show (withSpecRules lib).unmarshal = specRules from rfl, specRules_entryOf]

def plainLibrary : Library := ⟨fun _ => .error "", id, fun _ => .error ""⟩

def healthCheck : Request := ⟨"GET".toList, "/healthz".toList, fun _ => [], fun _ => []⟩

theorem health_check_answered :
    ∃ w, Reach step Unguarded start w ∧
      probeAnswer plainLibrary w.cache "shop" "web" healthCheck = ("ok".toList, 204, true) := by
  obtain ⟨services, ran, -⟩ := @poll_runs webWorld rfl
  have added : run step start (.add "shop/web" webDetails :: pollOf webWorld.directory) = some _ := ran
  have reach := reach_of_run _ added
  obtain ⟨d, held, answer⟩ := probe_by_directory_rules reach plainLibrary "shop" "web" healthCheck
  refine ⟨_, reach, answer.trans ?_⟩
  rw [List.mem_singleton.mp held]
  decide +kernel

end Probes

end CRDFeed
