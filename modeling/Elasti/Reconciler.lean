import Elasti.Informers
import Elasti.Cluster
import Elasti.SecondaryIndex

/- Reconcile and what it keeps in memory: the CRD directory, the running informers of the
   scale targets, and the locks that let an informer be started once. Runs for one
   ElastiService hold its mutex, so one Reconcile is one step here. -/
namespace Reconciler
open GuardedRuns V1Alpha1 ScaleTarget Cluster SecondaryIndex
open InformerManager (RequestWatch getKeyFromRequestWatch joinKey belongsTo targetNotFound)

structure Request where
  ns : String
  name : String
  deriving DecidableEq, Repr

structure CRDDetails where
  crdName : String
  spec : ElastiServiceSpec
  deriving DecidableEq, Repr

/-- A request with the group and the version, which its key leaves out. -/
structure TargetWatch extends RequestWatch where
  group : String
  version : String
  deriving DecidableEq, Repr

abbrev Directory := AList fun _ : String => CRDDetails

abbrev Informers := AList fun _ : String => TargetWatch

structure ElastiServiceReconciler where
  directory : Directory
  informers : Informers
  /-- The keys whose sync.Once is done. -/
  informerStartLocks : List String

def newReconciler : ElastiServiceReconciler := ⟨∅, ∅, []⟩

def addCRD (serviceName : String) (crdDetails : CRDDetails) (d : Directory) : Directory :=
  d.insert serviceName crdDetails

def removeCRD (serviceName : String) (d : Directory) : Directory := d.erase serviceName

def getCRD (serviceName : String) (d : Directory) : Option CRDDetails := d.lookup serviceName

def stopInformer (key : String) (m : Informers) : Informers × Option String :=
  match m.lookup key with
  | none => (m, some ("informer not found, already stopped for key: " ++ key))
  | some _ => (m.erase key, none)

/-- StopForCRD. Each informer is kept under the key of its request. -/
def stopForCRD (crdName ns : String) (m : Informers) : Informers :=
  (m.keys.filter (belongsTo crdName ns)).foldl (fun m key => (stopInformer key m).1) m

/-- How the start of an informer goes: the target may be missing, the handlers may be
    refused, and the first sync may not come in time. -/
inductive Start where
  | ok
  | missing (text : String)
  | refused (text : String)
  | timeout
  deriving DecidableEq, Repr

def add (req : TargetWatch) (start : Start) (m : Informers) : Informers × Option String :=
  let key := getKeyFromRequestWatch req.toRequestWatch
  match m.lookup key with
  | some _ => (m, none)
  | none =>
    match start with
    | .ok => (m.insert key req, none)
    | .missing text => (m, some (targetNotFound req.toRequestWatch text))
    | .refused text => (m, some ("failed to enable to informer: enableInformer: " ++ text))
    | .timeout =>
      ((m.insert key req).erase key,
        some "failed to enable to informer: failed to sync informer within timeout")

def getMutexKeyForPublicSVC [Apimachinery] (req : Request) : String :=
  namespacedName req.ns req.name ++ "public-service"

def getMutexKeyForTargetRef [Apimachinery] (req : Request) : String :=
  namespacedName req.ns req.name ++ "scale-target-ref"

def resetMutexForInformer (key : String) (r : ElastiServiceReconciler) :
    ElastiServiceReconciler :=
  { r with informerStartLocks := r.informerStartLocks.filter (· ≠ key) }

def targetKey (req : Request) (ref : ScaleTargetRef) : String :=
  joinKey req.name req.ns (kindToResource ref.kind) ref.name

/-- The first part of watchScaleTargetRef: the informer of the target that the directory has
    for the service is stopped if the spec names another one. -/
def stopPrevious [Apimachinery] (es : ElastiService) (req : Request) (r : ElastiServiceReconciler) :
    ElastiServiceReconciler :=
  match getCRD (namespacedName es.ns es.spec.service) r.directory with
  | none => r
  | some crd =>
    if es.spec.scaleTargetRef.name ≠ crd.spec.scaleTargetRef.name ∨
        es.spec.scaleTargetRef.kind ≠ crd.spec.scaleTargetRef.kind ∨
        es.spec.scaleTargetRef.apiVersion ≠ crd.spec.scaleTargetRef.apiVersion then
      resetMutexForInformer (getMutexKeyForTargetRef req)
        { r with informers := (stopInformer (targetKey req crd.spec.scaleTargetRef) r.informers).1 }
    else r

def targetRequest (req : Request) (ref : ScaleTargetRef) (gv : String × String) : TargetWatch :=
  ⟨⟨req.name, req.ns, kindToResource ref.kind, ref.name⟩, gv.1, gv.2⟩

theorem targetRequest_key (req : Request) (ref : ScaleTargetRef) (gv : String × String) :
    getKeyFromRequestWatch (targetRequest req ref gv).toRequestWatch = targetKey req ref := by
  simp only [getKeyFromRequestWatch, targetRequest, targetKey]

/-- What the sync.Once runs. -/
def startInformer [Apimachinery] (ref : ScaleTargetRef) (req : Request) (start : Start)
    (m : Informers) : Informers × Option String :=
  match parseGroupVersion ref.apiVersion with
  | .error text => (m, some ("failed to parse API version: " ++ text))
  | .ok gv =>
    match add (targetRequest req ref gv) start m with
    | (m, some err) => (m, some ("failed to add scaledTargetRef Informer: " ++ err))
    | (m, none) => (m, none)

/-- The second part of watchScaleTargetRef. A start that fails gives its sync.Once up, so
    that the next Reconcile tries again. -/
def startOnce [Apimachinery] (ref : ScaleTargetRef) (req : Request) (start : Start)
    (r : ElastiServiceReconciler) : ElastiServiceReconciler × Option String :=
  let key := getMutexKeyForTargetRef req
  if key ∈ r.informerStartLocks then (r, none)
  else
    match startInformer ref req start r.informers with
    | (m, none) =>
      ({ r with informers := m, informerStartLocks := key :: r.informerStartLocks }, none)
    | (m, some err) => (resetMutexForInformer key { r with informers := m }, some err)

def watchScaleTargetRef [Apimachinery] (es : ElastiService) (req : Request) (start : Start)
    (r : ElastiServiceReconciler) : ElastiServiceReconciler × Option String :=
  let ref := es.spec.scaleTargetRef
  if ref.name = "" ∨ ref.kind = "" ∨ ref.apiVersion = "" then
    (r, some "scaleTargetRef is incomplete: no scale target found")
  else startOnce ref req start (stopPrevious es req r)

/-- What finalizeCRD does to the operator's memory. Its calls to the API and to the scale
    handler only end in the four errors. -/
def finalizeCRD [Apimachinery] (es : ElastiService) (req : Request) (r : ElastiServiceReconciler) :
    ElastiServiceReconciler :=
  let r := { r with informers := stopForCRD req.name req.ns r.informers }
  let r := resetMutexForInformer (getMutexKeyForTargetRef req) r
  let r := resetMutexForInformer (getMutexKeyForPublicSVC req) r
  { r with directory := removeCRD (namespacedName es.ns es.spec.service) r.directory }

/-- How the calls of one Reconcile are answered: an error of the Get other than NotFound, one
    of the Update that adds or removes the finalizer, the four errors of finalizeCRD, and
    the start of the informer. -/
structure Answers where
  get : Option String
  update : Option String
  finalize : FinalizeErrs
  start : Start
  deriving DecidableEq, Repr

inductive ReconcileErr where
  | get (text : String)
  | finalize (errs : FinalizeErrs)
  | removeFinalizer (text : String)
  | addFinalizer (text : String)
  | watch (text : String)
  deriving DecidableEq, Repr

structure Outcome where
  reconciler : ElastiServiceReconciler
  object : Option ElastiService
  err : Option ReconcileErr

def finalizeCRDIfDeleted [Apimachinery] (es : ElastiService) (req : Request) (a : Answers)
    (r : ElastiServiceReconciler) : Outcome :=
  if es.finalizer then
    let r := finalizeCRD es req r
    if a.finalize.isNil then
      match a.update with
      | some text => ⟨r, some es, some (.removeFinalizer ("failed to remove finalizer: " ++ text))⟩
      | none => ⟨r, some { es with finalizer := false }, none⟩
    else ⟨r, some es, some (.finalize a.finalize)⟩
  else ⟨r, some es, none⟩

def addCRDFinalizer (es : ElastiService) (update : Option String) : Except String ElastiService :=
  if es.finalizer then .ok es
  else
    match update with
    | some text => .error ("failed to add finalizer: " ++ text)
    | none => .ok { es with finalizer := true }

def addToDirectory [Apimachinery] (es : ElastiService) (r : ElastiServiceReconciler) :
    ElastiServiceReconciler :=
  let details := ⟨es.name, es.spec⟩
  { r with directory := addCRD (namespacedName es.ns es.spec.service) details r.directory }

def reconcile [Apimachinery] (req : Request) (object : Option ElastiService) (a : Answers)
    (r : ElastiServiceReconciler) : Outcome :=
  match a.get with
  | some text => ⟨r, object, some (.get ("failed to get ElastiService: " ++ text))⟩
  | none =>
    match object with
    | none => ⟨r, none, none⟩
    | some es =>
      if es.deleting then finalizeCRDIfDeleted es req a r
      else
        match addCRDFinalizer es a.update with
        | .error text => ⟨r, some es, some (.addFinalizer text)⟩
        | .ok es =>
          match watchScaleTargetRef es req a.start r with
          | (r, some text) => ⟨r, some es, some (.watch text)⟩
          | (r, none) => ⟨addToDirectory es r, some es, none⟩

theorem stopInformer_lookup (key k : String) (m : Informers) :
    (stopInformer key m).1.lookup k = if k = key then none else m.lookup k := by
  unfold stopInformer
  cases found : m.lookup key with
  | none =>
    by_cases same : k = key
    · rw [if_pos same, same]
      exact found
    · rw [if_neg same]
  | some w => exact lookup_erase_ite m key k

theorem stopInformers_lookup_ite (keys : List String) (m : Informers) (k : String) :
    (keys.foldl (fun m key => (stopInformer key m).1) m).lookup k =
      if k ∈ keys then none else m.lookup k := by
  induction keys generalizing m with
  | nil => rfl
  | cons key keys ih =>
    rw [List.foldl_cons, ih, stopInformer_lookup]
    by_cases later : k ∈ keys
    · simp [later]
    · by_cases same : k = key <;> simp [later, same]

theorem stopForCRD_lookup (crdName ns : String) (m : Informers) (k : String) :
    (stopForCRD crdName ns m).lookup k = if belongsTo crdName ns k then none else m.lookup k := by
  rw [stopForCRD, stopInformers_lookup_ite]
  by_cases present : k ∈ m.keys
  · simp [List.mem_filter, present]
  · have absent : m.lookup k = none := AList.lookup_eq_none.mpr present
    simp [absent]

def SameKeys (s : InformerManager.Manager) (m : Informers) : Prop :=
  ∀ key, (s.informers key).isSome = (m.lookup key).isSome

theorem sameKeys_store {s : InformerManager.Manager} {m : Informers} (same : SameKeys s m)
    (key : String) (ch : Nat) (w : TargetWatch) : SameKeys (s.store key ch) (m.insert key w) := by
  intro k
  simp only [lookup_insert_ite, InformerManager.Manager.store, Function.update_apply]
  split
  · rfl
  · exact same k

theorem sameKeys_delete {s : InformerManager.Manager} {m : Informers} (same : SameKeys s m)
    (key : String) : SameKeys (s.delete key) (m.erase key) := by
  intro k
  simp only [lookup_erase_ite, InformerManager.Manager.delete, Function.update_apply]
  split
  · rfl
  · exact same k

theorem stopInformer_steps {s : InformerManager.Manager} {m : Informers} (same : SameKeys s m)
    (key : String) :
    ∃ t, Reach (fun c (_ : Unit) => InformerManager.stopInformer c.1 key c.2) Unguarded (s, .load)
        (t, .returned (stopInformer key m).2) ∧
      SameKeys t (stopInformer key m).1 := by
  have here := same key
  unfold stopInformer
  cases found : m.lookup key with
  | none =>
    have absent : s.informers key = none := by simpa [found] using here
    refine ⟨s, reach_of_run [()] ?_, same⟩
    simp [run, InformerManager.stopInformer, absent]
  | some w =>
    obtain ⟨ch, present⟩ : ∃ ch, s.informers key = some ch :=
      Option.isSome_iff_exists.mp (by simpa [found] using here)
    refine ⟨(s.close ch).delete key, reach_of_run [(), (), ()] ?_, sameKeys_delete same key⟩
    simp [run, InformerManager.stopInformer, present]

/-- Alone, the steps of Add come to what add computes, for the answers the start stands for. -/
theorem add_steps {s : InformerManager.Manager} {m : Informers} (same : SameKeys s m)
    (req : TargetWatch) (start : Start) :
    ∃ t, Reach (fun c a => InformerManager.add c.1 req.toRequestWatch c.2 a) Unguarded (s, .load)
        (t, .returned (add req start m).2) ∧
      SameKeys t (add req start m).1 := by
  have here := same (getKeyFromRequestWatch req.toRequestWatch)
  unfold add
  dsimp only
  cases found : m.lookup (getKeyFromRequestWatch req.toRequestWatch) with
  | some w =>
    have present : (s.informers (getKeyFromRequestWatch req.toRequestWatch)).isSome = true := by
      simpa [found] using here
    refine ⟨s, reach_of_run [.ok] ?_, same⟩
    simp [run, InformerManager.add, present]
  | none =>
    have absent : (s.informers (getKeyFromRequestWatch req.toRequestWatch)).isSome = false := by
      simpa [found] using here
    have loaded : InformerManager.add s req.toRequestWatch .load .ok = some (s, .verify) := by
      simp [InformerManager.add, absent]
    let begun := { s with next := s.next + 1 }.store (getKeyFromRequestWatch req.toRequestWatch) s.next
    have stored : SameKeys begun _ :=
      sameKeys_store same (getKeyFromRequestWatch req.toRequestWatch) s.next req
    cases start with
    | ok =>
      refine ⟨begun, reach_of_run [.ok, .ok, .ok, .ok, .ok] ?_, stored⟩
      rw [run, loaded]
      rfl
    | missing text =>
      refine ⟨s, reach_of_run [.ok, .fail text] ?_, same⟩
      rw [run, loaded]
      rfl
    | refused text =>
      refine ⟨s, reach_of_run [.ok, .ok, .fail text] ?_, same⟩
      rw [run, loaded]
      rfl
    | timeout =>
      have closed : SameKeys (begun.close s.next) _ := stored
      refine ⟨(begun.close s.next).delete (getKeyFromRequestWatch req.toRequestWatch),
        reach_of_run [.ok, .ok, .ok, .ok, .timeout, .ok, .ok] ?_, sameKeys_delete closed _⟩
      rw [run, loaded]
      rfl

section
variable (crdName ns : String)

def stopForCRDStep (c : InformerManager.Manager × InformerManager.StopForCRDPc)
    (a : InformerManager.Answer) : Option (InformerManager.Manager × InformerManager.StopForCRDPc) :=
  InformerManager.stopForCRD c.1 crdName ns c.2 a

theorem worker_steps {key : String} {c d : InformerManager.Manager × InformerManager.StopPc}
    (reach : Reach (fun c (_ : Unit) => InformerManager.stopInformer c.1 key c.2) Unguarded c d)
    (visited : List String) (workers : List InformerManager.Worker) :
    Reach (stopForCRDStep crdName ns) Unguarded
      (c.1, .ranging visited (workers ++ [(key, c.2)]))
      (d.1, .ranging visited (workers ++ [(key, d.2)])) := by
  induction reach with
  | refl => exact .refl
  | @next u v a before meets move ih =>
    refine .next ih trivial (a := .worker workers.length) ?_
    simp [stopForCRDStep, InformerManager.stopForCRD, InformerManager.stopWorker, move]

theorem visit_steps {s : InformerManager.Manager} {m : Informers} (same : SameKeys s m)
    {key : String} (present : (m.lookup key).isSome) {visited : List String} (fresh : key ∉ visited)
    {workers : List InformerManager.Worker} (idle : workers.all InformerManager.workerDone) :
    ∃ t done, Reach (stopForCRDStep crdName ns) Unguarded (s, .ranging visited workers)
        (t, .ranging (key :: visited) done) ∧
      done.all InformerManager.workerDone ∧
      SameKeys t (if belongsTo crdName ns key then (stopInformer key m).1 else m) := by
  have running : (s.informers key).isSome := (same key).trans present
  by_cases belongs : belongsTo crdName ns key = true
  · obtain ⟨t, stopped, after⟩ := stopInformer_steps same key
    let worker : InformerManager.Worker := (key, .returned (stopInformer key m).2)
    refine ⟨t, workers ++ [worker], ?_, ?_, ?_⟩
    · refine reach_append (.next .refl trivial (a := .visit key) ?_)
        (worker_steps crdName ns stopped (key :: visited) workers)
      simp [stopForCRDStep, InformerManager.stopForCRD, running, fresh, belongs]
    · rw [List.all_append, idle]
      rfl
    · rwa [if_pos belongs]
  · refine ⟨s, workers, .next .refl trivial (a := .visit key) ?_, idle, ?_⟩
    · simp [stopForCRDStep, InformerManager.stopForCRD, running, fresh, belongs]
    · rwa [if_neg belongs]

theorem range_steps (keys : List String) (distinct : keys.Nodup) {s : InformerManager.Manager}
    {m : Informers} (same : SameKeys s m) (present : ∀ key ∈ keys, (m.lookup key).isSome)
    {visited : List String} (fresh : ∀ key ∈ keys, key ∉ visited)
    {workers : List InformerManager.Worker} (idle : workers.all InformerManager.workerDone) :
    ∃ t last done, Reach (stopForCRDStep crdName ns) Unguarded (s, .ranging visited workers)
        (t, .ranging last done) ∧
      done.all InformerManager.workerDone ∧
      SameKeys t ((keys.filter (belongsTo crdName ns)).foldl
        (fun m key => (stopInformer key m).1) m) := by
  induction keys generalizing s m visited workers with
  | nil => exact ⟨s, visited, workers, .refl, idle, same⟩
  | cons key rest ih =>
    rw [List.nodup_cons] at distinct
    rw [List.forall_mem_cons] at present fresh
    obtain ⟨t, workers, visit, idle, after⟩ := visit_steps crdName ns same present.1 fresh.1 idle
    have others : ∀ k ∈ rest,
        ((if belongsTo crdName ns key then (stopInformer key m).1 else m).lookup k).isSome := by
      intro k member
      have other : k ≠ key := fun equal => distinct.1 (equal ▸ member)
      split
      · rw [stopInformer_lookup, if_neg other]
        exact present.2 k member
      · exact present.2 k member
    have unvisited : ∀ k ∈ rest, k ∉ key :: visited := by
      intro k member
      rw [List.mem_cons, not_or]
      exact ⟨fun equal => distinct.1 (equal ▸ member), fresh.2 k member⟩
    obtain ⟨u, last, done, range, finished, final⟩ := ih distinct.2 after others unvisited idle
    refine ⟨u, last, done, reach_append visit range, finished, ?_⟩
    rw [List.filter_cons]
    split at final
    · rename_i belongs
      rwa [if_pos belongs, List.foldl_cons]
    · rename_i apart
      rwa [if_neg apart]

/-- Run alone, the steps of StopForCRD can come to what stopForCRD computes. -/
theorem stopForCRD_steps {s : InformerManager.Manager} {m : Informers} (same : SameKeys s m) :
    ∃ t, Reach (stopForCRDStep crdName ns) Unguarded (s, .ranging [] []) (t, .returned) ∧
      SameKeys t (stopForCRD crdName ns m) := by
  have present : ∀ key ∈ m.keys, (m.lookup key).isSome := fun key member =>
    AList.lookup_isSome.mpr member
  have fresh : ∀ key ∈ m.keys, key ∉ ([] : List String) := fun _ _ => List.not_mem_nil
  have idle : ([] : List InformerManager.Worker).all InformerManager.workerDone := rfl
  obtain ⟨t, last, done, range, finished, after⟩ :=
    range_steps crdName ns m.keys m.keys_nodup same present fresh idle
  refine ⟨t, reach_append range (reach_of_run [.ok, .ok] ?_), after⟩
  simp [run, stopForCRDStep, InformerManager.stopForCRD, finished]

end

def Changed (es : ElastiService) (crd : CRDDetails) : Prop :=
  es.spec.scaleTargetRef ≠ crd.spec.scaleTargetRef

instance (es : ElastiService) (crd : CRDDetails) : Decidable (Changed es crd) :=
  inferInstanceAs (Decidable (¬ _))

theorem changed_iff (es : ElastiService) (crd : CRDDetails) :
    Changed es crd ↔
      es.spec.scaleTargetRef.name ≠ crd.spec.scaleTargetRef.name ∨
        es.spec.scaleTargetRef.kind ≠ crd.spec.scaleTargetRef.kind ∨
        es.spec.scaleTargetRef.apiVersion ≠ crd.spec.scaleTargetRef.apiVersion := by
  unfold Changed
  rw [ne_eq, ScaleTargetRef.mk.injEq]
  tauto

theorem stopPrevious_cases [Apimachinery] (es : ElastiService) (req : Request)
    (r : ElastiServiceReconciler) :
    (∃ crd, getCRD (namespacedName es.ns es.spec.service) r.directory = some crd ∧
        Changed es crd ∧
        stopPrevious es req r = resetMutexForInformer (getMutexKeyForTargetRef req)
          { r with informers :=
              (stopInformer (targetKey req crd.spec.scaleTargetRef) r.informers).1 }) ∨
      ((∀ crd, getCRD (namespacedName es.ns es.spec.service) r.directory = some crd →
          ¬ Changed es crd) ∧
        stopPrevious es req r = r) := by
  unfold stopPrevious
  cases getCRD (namespacedName es.ns es.spec.service) r.directory with
  | none => exact .inr ⟨by simp, rfl⟩
  | some crd =>
    by_cases changed : Changed es crd
    · exact .inl ⟨crd, rfl, changed, if_pos ((changed_iff es crd).mp changed)⟩
    · refine .inr ⟨?_, if_neg ((changed_iff es crd).not.mp changed)⟩
      intro other same
      cases same
      exact changed

inductive AddEffect (key : String) (req : TargetWatch) (m : Informers) :
    Informers × Option String → Prop where
  | running (found : m.lookup key ≠ none) : AddEffect key req m (m, none)
  | started (absent : m.lookup key = none) : AddEffect key req m (m.insert key req, none)
  | failed (kept : Informers) (err : String) (same : ∀ k, kept.lookup k = m.lookup k) :
      AddEffect key req m (kept, some err)

theorem lookup_insert_erase {m : Informers} {key : String} (w : TargetWatch)
    (absent : m.lookup key = none) (k : String) :
    ((m.insert key w).erase key).lookup k = m.lookup k := by
  rw [lookup_erase_ite, lookup_insert_ite]
  split
  · rename_i same
    rw [same, absent]
  · rfl

theorem add_effect (req : TargetWatch) (start : Start) (m : Informers) :
    AddEffect (getKeyFromRequestWatch req.toRequestWatch) req m (add req start m) := by
  simp only [add]
  split
  · rename_i w found
    exact .running (by rw [found]; exact Option.some_ne_none w)
  · rename_i absent
    cases start with
    | ok => exact .started absent
    | missing text => exact .failed m _ fun _ => rfl
    | refused text => exact .failed m _ fun _ => rfl
    | timeout => exact .failed _ _ (lookup_insert_erase req absent)

section Starts
variable [Apimachinery]

inductive StartEffect (ref : ScaleTargetRef) (req : Request) (m : Informers) :
    Informers × Option String → Prop where
  | running (found : m.lookup (targetKey req ref) ≠ none) : StartEffect ref req m (m, none)
  | started (gv : String × String) (parsed : parseGroupVersion ref.apiVersion = .ok gv)
      (absent : m.lookup (targetKey req ref) = none) :
      StartEffect ref req m (m.insert (targetKey req ref) (targetRequest req ref gv), none)
  | failed (kept : Informers) (err : String) (same : ∀ key, kept.lookup key = m.lookup key) :
      StartEffect ref req m (kept, some err)

theorem startInformer_effect (ref : ScaleTargetRef) (req : Request) (start : Start)
    (m : Informers) : StartEffect ref req m (startInformer ref req start m) := by
  unfold startInformer
  cases parsed : parseGroupVersion ref.apiVersion with
  | error text => exact .failed m _ fun _ => rfl
  | ok gv =>
    have effect := add_effect (targetRequest req ref gv) start m
    rw [targetRequest_key] at effect
    dsimp only
    generalize add (targetRequest req ref gv) start m = added at effect ⊢
    cases effect with
    | running found => exact .running found
    | started absent => exact .started gv parsed absent
    | failed kept err same => exact .failed kept _ same

theorem stopPrevious_directory (es : ElastiService) (req : Request)
    (r : ElastiServiceReconciler) : (stopPrevious es req r).directory = r.directory := by
  obtain ⟨crd, -, -, same⟩ | ⟨-, same⟩ := stopPrevious_cases es req r
  · rw [same]
    rfl
  · rw [same]

theorem startOnce_directory (ref : ScaleTargetRef) (req : Request) (start : Start)
    (r : ElastiServiceReconciler) : (startOnce ref req start r).1.directory = r.directory := by
  simp only [startOnce]
  split
  · rfl
  · split <;> rfl

theorem watchScaleTargetRef_directory (es : ElastiService) (req : Request) (start : Start)
    (r : ElastiServiceReconciler) :
    (watchScaleTargetRef es req start r).1.directory = r.directory := by
  simp only [watchScaleTargetRef]
  split
  · rfl
  · rw [startOnce_directory, stopPrevious_directory]

end Starts

/-- A Reconcile of an ElastiService that is not being deleted stops before the watch, fails
    in it, or puts the ElastiService in the directory. -/
inductive LiveEffect [Apimachinery] (req : Request) (es : ElastiService) (start : Start)
    (r : ElastiServiceReconciler) : Outcome → Prop where
  | early (err : ReconcileErr) : LiveEffect req es start r ⟨r, some es, some err⟩
  | unwatched (kept : ElastiServiceReconciler) (text : String)
      (watch : watchScaleTargetRef es req start r = (kept, some text)) :
      LiveEffect req es start r ⟨kept, some { es with finalizer := true }, some (.watch text)⟩
  | added (kept : ElastiServiceReconciler)
      (watch : watchScaleTargetRef es req start r = (kept, none)) :
      LiveEffect req es start r
        ⟨addToDirectory es kept, some { es with finalizer := true }, none⟩

theorem addCRDFinalizer_ok {es marked : ElastiService} {update : Option String}
    (ok : addCRDFinalizer es update = .ok marked) : marked = { es with finalizer := true } := by
  unfold addCRDFinalizer at ok
  split at ok
  · rename_i present
    cases ok
    rw [← present]
  · cases update <;> cases ok
    rfl

section Reconciles
variable [Apimachinery]

theorem reconcile_live (req : Request) {es : ElastiService} (live : es.deleting = false)
    (a : Answers) (r : ElastiServiceReconciler) :
    LiveEffect req es a.start r (reconcile req (some es) a r) := by
  unfold reconcile
  cases a.get with
  | some text => exact .early _
  | none =>
    simp only [live, Bool.false_eq_true, if_false]
    cases marked : addCRDFinalizer es a.update with
    | error text => exact .early _
    | ok withFinalizer =>
      cases addCRDFinalizer_ok marked
      -- the watch reads the namespace and the spec only
      have reads : watchScaleTargetRef { es with finalizer := true } req a.start r =
        watchScaleTargetRef es req a.start r := rfl
      cases watch : watchScaleTargetRef es req a.start r with
      | mk kept err =>
        cases err with
        | none => simpa only [reads, watch] using .added kept watch
        | some text => simpa only [reads, watch] using .unwatched kept text watch

theorem reconcile_live_ok {req : Request} {es : ElastiService} (live : es.deleting = false)
    {a : Answers} {r : ElastiServiceReconciler}
    (ok : (reconcile req (some es) a r).err = none) :
    (reconcile req (some es) a r).object = some { es with finalizer := true } ∧
      (reconcile req (some es) a r).reconciler.directory =
        addCRD (namespacedName es.ns es.spec.service) ⟨es.name, es.spec⟩ r.directory := by
  have effect := reconcile_live req live a r
  generalize reconcile req (some es) a r = done at effect ok ⊢
  cases effect with
  | early err => cases ok
  | unwatched kept text watch => cases ok
  | added kept watch =>
    have same := watchScaleTargetRef_directory es req a.start r
    rw [watch] at same
    exact ⟨rfl, by rw [← same]; rfl⟩

theorem reconcile_finalized {req : Request} {es : ElastiService} (deleting : es.deleting = true)
    (finalizer : es.finalizer = true) {a : Answers} {r : ElastiServiceReconciler}
    (ok : (reconcile req (some es) a r).err = none) :
    reconcile req (some es) a r =
      ⟨finalizeCRD es req r, some { es with finalizer := false }, none⟩ := by
  unfold reconcile at ok ⊢
  cases unread : a.get with
  | some text => simp [unread] at ok
  | none =>
    simp only [unread, deleting, finalizer, if_true, finalizeCRDIfDeleted] at ok ⊢
    by_cases clean : a.finalize.isNil = true
    · cases update : a.update with
      | some text => simp [clean, update] at ok
      | none => simp [clean]
    · simp [clean] at ok

theorem reconcile_gone {req : Request} {es : ElastiService} (deleting : es.deleting = true)
    (gone : es.finalizer = false) {a : Answers} {r : ElastiServiceReconciler}
    (ok : (reconcile req (some es) a r).err = none) :
    reconcile req (some es) a r = ⟨r, some es, none⟩ := by
  unfold reconcile at ok ⊢
  cases unread : a.get with
  | some text => simp [unread] at ok
  | none => simp [deleting, gone, finalizeCRDIfDeleted]

end Reconciles

def fine : Answers := ⟨none, none, ⟨none, none, none, none⟩, .ok⟩

def deployed (service name : String) : ElastiServiceSpec :=
  ⟨⟨"apps/v1", "Deployment", name⟩, service, 1, 900, none⟩

end Reconciler
