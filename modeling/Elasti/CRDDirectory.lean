import Elasti.GuardedRuns
import Elasti.Reconciler
import Elasti.SecondaryIndex

/- The CRD directory against the ElastiServices of the cluster, over every history of
   creations, edits and deletions that are each followed by a Reconcile without error. -/
namespace CRDDirectory
open GuardedRuns V1Alpha1 Reconciler SecondaryIndex

abbrev Objects := AList fun _ : Request => ElastiService

structure World where
  reconciler : ElastiServiceReconciler
  objects : Objects

def start : World := ⟨newReconciler, ∅⟩

inductive Change where
  | create (req : Request) (finalizer : Bool) (spec : ElastiServiceSpec)
  | edit (req : Request) (spec : ElastiServiceSpec)
  | delete (req : Request)

def Change.request : Change → Request
  | .create req _ _ | .edit req _ | .delete req => req

def nameFree : Option ElastiService → Bool
  | none => true
  | some es => es.deleting && !es.finalizer

def changed (objects : Objects) : Change → Option ElastiService
  | .create req finalizer spec =>
    if nameFree (objects.lookup req) then some ⟨req.ns, req.name, false, finalizer, spec⟩ else none
  | .edit req spec => (objects.lookup req).map fun es => { es with spec := spec }
  | .delete req => (objects.lookup req).map fun es => { es with deleting := true }

def setObject (req : Request) (object : Option ElastiService) (objects : Objects) : Objects :=
  match object with
  | none => objects.erase req
  | some es => objects.insert req es

def step [Apimachinery] (w : World) (e : Change × Answers) : Option World :=
  -- a change and the Reconcile that follows it, which has to return without error
  match changed w.objects e.1 with
  | none => none
  | some es =>
    let done := reconcile e.1.request (some es) e.2 w.reconciler
    match done.err with
    | some _ => none
    | none => some ⟨done.reconciler, setObject e.1.request done.object w.objects⟩

def live (w : World) : List ElastiService :=
  (w.objects.entries.map Sigma.snd).filter fun es => !es.deleting

theorem mem_live (w : World) (es : ElastiService) :
    es ∈ live w ↔ ∃ req, w.objects.lookup req = some es ∧ es.deleting = false := by
  unfold live
  rw [List.mem_filter, List.mem_map, Bool.not_eq_true']
  constructor
  · rintro ⟨⟨e, member, rfl⟩, alive⟩
    exact ⟨e.1, AList.mem_lookup_iff.mpr member, alive⟩
  · rintro ⟨req, found, alive⟩
    exact ⟨⟨⟨req, es⟩, AList.mem_lookup_iff.mp found, rfl⟩, alive⟩

section Steps
variable [Apimachinery]

def serviceName (es : ElastiService) : String := namespacedName es.ns es.spec.service

/-- The directory holds the live ElastiServices, and nothing else. -/
def HoldsLive (w : World) : Prop :=
  (∀ es ∈ live w, getCRD (serviceName es) w.reconciler.directory = some ⟨es.name, es.spec⟩) ∧
    ∀ key ∈ w.reconciler.directory.keys, ∃ es ∈ live w, key = serviceName es

instance (w : World) : Decidable (HoldsLive w) := by
  unfold HoldsLive
  infer_instance

/-- A new ElastiService has a service of its own, and an edit keeps the service. -/
def KeepsService (w : World) (e : Change × Answers) : Prop :=
  match e.1 with
  | .create req _ spec => ∀ es ∈ live w, serviceName es ≠ namespacedName req.ns spec.service
  | .edit req spec =>
    ∀ es ∈ w.objects.lookup req, es.deleting = false → spec.service = es.spec.service
  | .delete _ => True

instance (w : World) (e : Change × Answers) : Decidable (KeepsService w e) := by
  unfold KeepsService
  split <;> infer_instance

def Settled (w : World) : Prop :=
  ∀ req es, w.objects.lookup req = some es →
    es.ns = req.ns ∧ es.name = req.name ∧ es.finalizer = !es.deleting

inductive Effect (w : World) : Change × Answers → World → Prop where
  | created (req : Request) (finalizer : Bool) (spec : ElastiServiceSpec) (a : Answers)
      (free : ∀ es, w.objects.lookup req = some es → es.deleting = true)
      (es : ElastiService) (same : es = ⟨req.ns, req.name, false, true, spec⟩)
      (r : ElastiServiceReconciler)
      (directory : r.directory = addCRD (serviceName es) ⟨es.name, es.spec⟩ w.reconciler.directory) :
      Effect w (.create req finalizer spec, a) ⟨r, w.objects.insert req es⟩
  | edited (req : Request) (spec : ElastiServiceSpec) (a : Answers) (old : ElastiService)
      (found : w.objects.lookup req = some old) (alive : old.deleting = false)
      (es : ElastiService) (same : es = { old with spec := spec, finalizer := true })
      (r : ElastiServiceReconciler)
      (directory : r.directory = addCRD (serviceName es) ⟨es.name, es.spec⟩ w.reconciler.directory) :
      Effect w (.edit req spec, a) ⟨r, w.objects.insert req es⟩
  | deleted (req : Request) (a : Answers) (old : ElastiService)
      (found : w.objects.lookup req = some old) (alive : old.deleting = false)
      (r : ElastiServiceReconciler)
      (directory : r.directory = removeCRD (serviceName old) w.reconciler.directory) :
      Effect w (.delete req, a)
        ⟨r, w.objects.insert req { old with deleting := true, finalizer := false }⟩
  | late (e : Change × Answers) (keeps : KeepsService w e) (req : Request) (old : ElastiService)
      (found : w.objects.lookup req = some old) (dead : old.deleting = true)
      (spec : ElastiServiceSpec) :
      Effect w e ⟨w.reconciler, w.objects.insert req { old with spec := spec }⟩

theorem effect_create {w : World} {req : Request} {finalizer : Bool} {spec : ElastiServiceSpec}
    {a : Answers} (free : nameFree (w.objects.lookup req) = true) {es : ElastiService}
    (new : es = ⟨req.ns, req.name, false, finalizer, spec⟩)
    (ok : (reconcile req (some es) a w.reconciler).err = none) :
    Effect w (.create req finalizer spec, a)
      ⟨(reconcile req (some es) a w.reconciler).reconciler,
        setObject req (reconcile req (some es) a w.reconciler).object w.objects⟩ := by
  have alive : es.deleting = false := by rw [new]
  obtain ⟨object, directory⟩ := reconcile_live_ok alive ok
  rw [object]
  refine .created req finalizer spec a ?_ _ ?_ _ directory
  · intro old found
    rw [found] at free
    simp only [nameFree, Bool.and_eq_true] at free
    exact free.1
  · rw [new]

theorem effect_edit {w : World} (settled : Settled w) {req : Request} {spec : ElastiServiceSpec}
    {a : Answers} {old es : ElastiService} (found : w.objects.lookup req = some old)
    (new : es = { old with spec := spec })
    (ok : (reconcile req (some es) a w.reconciler).err = none) :
    Effect w (.edit req spec, a)
      ⟨(reconcile req (some es) a w.reconciler).reconciler,
        setObject req (reconcile req (some es) a w.reconciler).object w.objects⟩ := by
  have kept : es.deleting = old.deleting := by rw [new]
  cases deleting : old.deleting with
  | false =>
    obtain ⟨object, directory⟩ := reconcile_live_ok (kept.trans deleting) ok
    rw [object]
    exact .edited req spec a old found deleting _ (by rw [new]) _ directory
  | true =>
    have gone : es.finalizer = false := by
      rw [new]
      simpa [deleting] using (settled req old found).2.2
    rw [reconcile_gone (kept.trans deleting) gone ok, new]
    refine .late _ ?_ req old found deleting spec
    intro live member alive
    cases found.symm.trans member
    rw [deleting] at alive
    cases alive

theorem effect_delete {w : World} (settled : Settled w) {req : Request} {a : Answers}
    {old es : ElastiService} (found : w.objects.lookup req = some old)
    (new : es = { old with deleting := true })
    (ok : (reconcile req (some es) a w.reconciler).err = none) :
    Effect w (.delete req, a)
      ⟨(reconcile req (some es) a w.reconciler).reconciler,
        setObject req (reconcile req (some es) a w.reconciler).object w.objects⟩ := by
  have marked : es.deleting = true := by rw [new]
  have finalizer : es.finalizer = !old.deleting := by
    rw [new]
    exact (settled req old found).2.2
  cases deleting : old.deleting with
  | false =>
    rw [deleting] at finalizer
    rw [reconcile_finalized marked finalizer ok]
    subst new
    exact .deleted req a old found deleting _ rfl
  | true =>
    rw [deleting] at finalizer
    rw [reconcile_gone marked finalizer ok]
    have same : es = { old with spec := old.spec } := by rw [new, ← deleting]
    rw [same]
    exact .late (.delete req, a) trivial req old found deleting old.spec

theorem step_effect {w t : World} {e : Change × Answers} (settled : Settled w)
    (move : step w e = some t) : Effect w e t := by
  obtain ⟨change, a⟩ := e
  unfold step at move
  dsimp only at move
  split at move
  · cases move
  rename_i es after
  split at move
  · cases move
  rename_i ok
  cases move
  cases change with
  | create req finalizer spec =>
    simp only [changed, Option.ite_none_right_eq_some, Option.some.injEq] at after
    exact effect_create after.1 after.2.symm ok
  | edit req spec =>
    obtain ⟨old, found, new⟩ := Option.map_eq_some_iff.mp after
    exact effect_edit settled found new.symm ok
  | delete req =>
    obtain ⟨old, found, new⟩ := Option.map_eq_some_iff.mp after
    exact effect_delete settled found new.symm ok

end Steps

def liveAt (objects : Objects) (req : Request) : Option ElastiService :=
  (objects.lookup req).filter fun es => !es.deleting

def details (es : ElastiService) : CRDDetails := ⟨es.name, es.spec⟩

def nameOf (es : ElastiService) : Request := ⟨es.ns, es.name⟩

theorem liveAt_iff (objects : Objects) (req : Request) (es : ElastiService) :
    liveAt objects req = some es ↔ objects.lookup req = some es ∧ es.deleting = false := by
  simp [liveAt, Option.filter_eq_some_iff]

theorem liveAt_insert (objects : Objects) (req : Request) (es : ElastiService) :
    liveAt (objects.insert req es) =
      Function.update (liveAt objects) req (if es.deleting then none else some es) := by
  funext other
  rw [Function.update_apply, liveAt, lookup_insert_ite]
  split
  · cases deleting : es.deleting <;> simp [deleting]
  · rfl

theorem holdsLive_iff [Apimachinery] (w : World) :
    HoldsLive w ↔
      Holds serviceName details (liveAt w.objects) (fun key => getCRD key w.reconciler.directory) := by
  -- the directory is an index of the live ElastiServices by their service
  have member : ∀ es, es ∈ live w ↔ ∃ req, liveAt w.objects req = some es := by
    intro es
    simp only [mem_live, liveAt_iff]
  constructor
  · intro holds
    constructor
    · intro req es here
      exact holds.1 es ((member es).mpr ⟨req, here⟩)
    · intro key present
      have listed : key ∈ w.reconciler.directory.keys :=
        AList.lookup_isSome.mp (Option.isSome_iff_ne_none.mpr present)
      obtain ⟨es, alive, same⟩ := holds.2 key listed
      obtain ⟨req, here⟩ := (member es).mp alive
      exact ⟨req, es, here, same.symm⟩
  · intro holds
    constructor
    · intro es alive
      obtain ⟨req, here⟩ := (member es).mp alive
      exact holds.found req es here
    · intro key listed
      have present : getCRD key w.reconciler.directory ≠ none :=
        Option.isSome_iff_ne_none.mp (AList.lookup_isSome.mpr listed)
      obtain ⟨req, es, here, same⟩ := holds.current key present
      exact ⟨es, (member es).mpr ⟨req, here⟩, same.symm⟩

theorem namespacedName_inj [Apimachinery] (ns : String) {a b : String} :
    namespacedName ns a = namespacedName ns b ↔ a = b := by
  constructor
  · exact Apimachinery.name_eq
  · rintro rfl
    rfl

theorem separates [Apimachinery] : Separates serviceName details nameOf := by
  intro es other sameKey sameDetails
  obtain ⟨sameName, sameSpec⟩ := CRDDetails.mk.inj sameDetails
  unfold serviceName at sameKey
  rw [sameSpec] at sameKey
  exact congrArg₂ Request.mk (Apimachinery.ns_eq sameKey) sameName

theorem named_live {w : World} (settled : Settled w) : Named nameOf (liveAt w.objects) := by
  intro req es here
  obtain ⟨ns, name, -⟩ := settled req es ((liveAt_iff w.objects req es).mp here).1
  exact congrArg₂ Request.mk ns name

theorem getCRD_addCRD (key : String) (crd : CRDDetails) (d : Directory) :
    (fun k => getCRD k (addCRD key crd d)) =
      Function.update (fun k => getCRD k d) key (some crd) := by
  funext k
  rw [Function.update_apply]
  exact lookup_insert_ite d key crd k

theorem getCRD_removeCRD (key : String) (d : Directory) :
    (fun k => getCRD k (removeCRD key d)) = Function.update (fun k => getCRD k d) key none := by
  funext k
  rw [Function.update_apply]
  exact lookup_erase_ite d key k

theorem settled_insert {w : World} (settled : Settled w) (r : ElastiServiceReconciler)
    {req : Request} {es : ElastiService} (named : es.ns = req.ns ∧ es.name = req.name)
    (finalizer : es.finalizer = !es.deleting) : Settled ⟨r, w.objects.insert req es⟩ := by
  intro other found here
  rw [lookup_insert_ite] at here
  split at here
  · rename_i same
    cases here
    rw [same]
    exact ⟨named.1, named.2, finalizer⟩
  · exact settled other found here

theorem settled_step [Apimachinery] (w : World) (e : Change × Answers) (t : World)
    (settled : Settled w) (move : step w e = some t) : Settled t := by
  cases step_effect settled move with
  | created req finalizer spec a free es same r directory =>
    subst same
    exact settled_insert settled r ⟨rfl, rfl⟩ rfl
  | edited req spec a old found alive es same r directory =>
    obtain ⟨ns, name, -⟩ := settled req old found
    subst same
    exact settled_insert settled r ⟨ns, name⟩ (by rw [alive]; rfl)
  | deleted req a old found alive r directory =>
    obtain ⟨ns, name, -⟩ := settled req old found
    exact settled_insert settled r ⟨ns, name⟩ rfl
  | late e keeps req old found dead spec =>
    obtain ⟨ns, name, finalizer⟩ := settled req old found
    exact settled_insert settled w.reconciler ⟨ns, name⟩ finalizer

theorem holdsLive_exact [Apimachinery] (w : World) (e : Change × Answers) (t : World)
    (settled : Settled w)
    (holds : HoldsLive w) (move : step w e = some t) : HoldsLive t ↔ KeepsService w e := by
  have named := named_live settled
  rw [holdsLive_iff] at holds
  rw [holdsLive_iff]
  cases step_effect settled move with
  | created req finalizer spec a free es same r directory =>
    have alive : es.deleting = false := by rw [same]
    have empty : liveAt w.objects req = none := by
      rw [Option.eq_none_iff_forall_ne_some]
      intro old here
      obtain ⟨found, live⟩ := (liveAt_iff w.objects req old).mp here
      rw [free old found] at live
      cases live
    have own : nameOf es = req := by rw [same]; rfl
    rw [directory, getCRD_addCRD, liveAt_insert, alive]
    refine (holds_insert_iff separates named holds own empty).trans ?_
    simp only [KeepsService, mem_live, ← liveAt_iff]
    have key : serviceName es = namespacedName req.ns spec.service := by rw [same]; rfl
    rw [key]
    exact ⟨fun fresh old ⟨other, here⟩ => fresh other old here,
      fun fresh other old here => fresh old ⟨other, here⟩⟩
  | edited req spec a old found alive es same r directory =>
    have stays : es.deleting = false := by rw [same]; exact alive
    have place : liveAt w.objects req = some old := (liveAt_iff w.objects req old).mpr ⟨found, alive⟩
    rw [directory, getCRD_addCRD, liveAt_insert, stays]
    refine (holds_replace_iff separates named holds es place).trans ?_
    have keys : serviceName es = serviceName old ↔ spec.service = old.spec.service := by
      rw [same]
      exact namespacedName_inj old.ns
    rw [keys]
    simp [KeepsService, found, alive]
  | deleted req a old found alive r directory =>
    have place : liveAt w.objects req = some old := (liveAt_iff w.objects req old).mpr ⟨found, alive⟩
    rw [directory, getCRD_removeCRD, liveAt_insert]
    exact iff_of_true (holds_erase separates named holds place) trivial
  | late e keeps req old found dead spec =>
    have empty : liveAt w.objects req = none := by
      rw [liveAt, found]
      simp [dead]
    have unchanged : Function.update (liveAt w.objects) req none = liveAt w.objects := by
      rw [← empty, Function.update_eq_self]
    rw [liveAt_insert, if_pos dead, unchanged]
    exact iff_of_true holds keeps

theorem holdsLive_start [Apimachinery] : HoldsLive start :=
  ⟨fun _ alive => absurd alive List.not_mem_nil, fun _ listed => absurd listed List.not_mem_nil⟩

theorem settled_start : Settled start := by
  intro req es here
  cases here

/-- In every history of changes that are each followed by a successful Reconcile: the
    directory holds exactly the live ElastiServices throughout, if and only if no two of them
    ever share a service and no edit changes one's service. -/
theorem directory_exact_iff [Apimachinery] (events : List (Change × Answers)) {t : World}
    (done : run step start events = some t) :
    Always step HoldsLive start events ↔ Meets step KeepsService start events :=
  always_iff_meets settled_step holdsLive_exact events settled_start holdsLive_start done

def web : Request := ⟨"shop", "web-elasti"⟩

def cart : Request := ⟨"shop", "cart-elasti"⟩

def targetEditedOtherDeleted : List (Change × Answers) :=
  [(.create web false (deployed "web" "web"), fine), (.create cart false (deployed "cart" "cart"), fine),
    (.edit web (deployed "web" "web-v2"), fine), (.delete cart, fine)]

theorem services_kept_exact :
    (∃ t, run step start targetEditedOtherDeleted = some t ∧
      t.reconciler.directory.keys = ["shop/web"]) ∧
    Always step HoldsLive start targetEditedOtherDeleted :=
  ⟨⟨_, rfl, by decide +kernel⟩, (directory_exact_iff targetEditedOtherDeleted rfl).mpr
    (meets_of_guardedRun targetEditedOtherDeleted rfl)⟩

/-- An edit of the service leaves the entry of the former service behind. -/
theorem former_service_kept :
    ∃ t, Reach step Unguarded start t ∧ (live t).map serviceName = ["shop/web-v2"] ∧
      getCRD "shop/web" t.reconciler.directory = some ⟨"web-elasti", deployed "web" "web"⟩ ∧
      ¬ HoldsLive t :=
  reaches_of_run
    [(.create web false (deployed "web" "web"), fine), (.edit web (deployed "web-v2" "web"), fine)]
    (by decide +kernel)

end CRDDirectory
