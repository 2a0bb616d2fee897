import Elasti.CRDDirectory
import Elasti.WatchScope

/- The start of the operator: the memory is new, and the ElastiServices that the cluster has are
   reconciled one after the other. What the list shows of an ElastiService may be older than
   what its Reconcile reads. -/
namespace Startup
open GuardedRuns V1Alpha1 Reconciler CRDDirectory
open WatchScope (namespaceInScope)

structure Item where
  es : ElastiService
  answers : Answers

def Item.request (item : Item) : Request := ⟨item.es.ns, item.es.name⟩

def Item.skipped (watch : List String) (item : Item) : Bool :=
  !namespaceInScope watch item.es.ns || item.es.deleting

def settle (es : ElastiService) : ElastiService := { es with finalizer := !es.deleting }

def Kept (old new : Option ElastiService) : Prop := new = old ∨ new = old.map settle

theorem kept_some {object : Option ElastiService} {es : ElastiService}
    (kept : Kept object (some es)) : ∃ old, object = some old ∧ (es = old ∨ es = settle old) := by
  rcases kept with same | same
  · exact ⟨es, same.symm, .inl rfl⟩
  · obtain ⟨old, found, rfl⟩ := Option.map_eq_some_iff.mp same.symm
    exact ⟨old, found, .inr rfl⟩

theorem setObject_lookup (req : Request) (object : Option ElastiService) (objects : Objects)
    (other : Request) :
    (setObject req object objects).lookup other =
      if other = req then object else objects.lookup other := by
  cases object with
  | none => exact SecondaryIndex.lookup_erase_ite objects req other
  | some es => exact SecondaryIndex.lookup_insert_ite objects req es other

theorem nameFree_live {es : ElastiService} (live : es.deleting = false) :
    nameFree (some es) = false := by
  rw [nameFree, live]
  rfl

theorem getCRD_add (key other : String) (crd : CRDDetails) (d : Directory) :
    getCRD other (addCRD key crd d) = if other = key then some crd else getCRD other d :=
  SecondaryIndex.lookup_insert_ite d key crd other

theorem getCRD_remove (key other : String) (d : Directory) :
    getCRD other (removeCRD key d) = if other = key then none else getCRD other d :=
  SecondaryIndex.lookup_erase_ite d key other

section Start
variable [Apimachinery]

def reconcileItem (watch : List String) (s : World × Nat) (item : Item) : World × Nat :=
  -- one turn of the loop. A Reconcile that fails is logged, and not counted.
  if item.skipped watch then s
  else
    let done := reconcile item.request (s.1.objects.lookup item.request) item.answers s.1.reconciler
    (⟨done.reconciler, setObject item.request done.object s.1.objects⟩,
      if done.err.isSome then s.2 else s.2 + 1)

structure Succeeds (es : ElastiService) (a : Answers) : Prop where
  get : a.get = none
  update : es.finalizer = true ∨ a.update = none
  complete : es.spec.scaleTargetRef.name ≠ "" ∧ es.spec.scaleTargetRef.kind ≠ "" ∧
    es.spec.scaleTargetRef.apiVersion ≠ ""
  parses : ∃ gv, parseGroupVersion es.spec.scaleTargetRef.apiVersion = .ok gv
  start : a.start = .ok

theorem settle_reads {es old : ElastiService} (same : es = old ∨ es = settle old) :
    es.deleting = old.deleting ∧ es.ns = old.ns ∧ serviceName es = serviceName old ∧
      details es = details old := by
  rcases same with rfl | rfl
  · exact ⟨rfl, rfl, rfl, rfl⟩
  · exact ⟨rfl, rfl, rfl, rfl⟩

theorem Succeeds.settle {es : ElastiService} {a : Answers} (succeeds : Succeeds es a)
    (live : es.deleting = false) : Succeeds (Startup.settle es) a :=
  { succeeds with update := .inl (by rw [Startup.settle, live]; rfl) }

inductive Touches (object : Option ElastiService) (d : Directory) : Directory → Prop where
  | nothing : Touches object d d
  | adds (es : ElastiService) (found : object = some es) (live : es.deleting = false) :
      Touches object d (addCRD (serviceName es) (details es) d)
  | removes (es : ElastiService) (found : object = some es) (deleting : es.deleting = true)
      (finalizer : es.finalizer = true) : Touches object d (removeCRD (serviceName es) d)

theorem reconcile_touches (req : Request) (object : Option ElastiService) (a : Answers)
    (r : ElastiServiceReconciler) :
    Touches object r.directory (reconcile req object a r).reconciler.directory ∧
      Kept object (reconcile req object a r).object := by
  cases object with
  | none =>
    unfold reconcile
    cases a.get with
    | some text => exact ⟨.nothing, .inl rfl⟩
    | none => exact ⟨.nothing, .inl rfl⟩
  | some es =>
    cases deleting : es.deleting with
    | false =>
      have effect := reconcile_live req deleting a r
      have same := watchScaleTargetRef_directory es req a.start r
      have settled : some { es with finalizer := true } = (some es).map settle := by
        simp [settle, deleting]
      generalize reconcile req (some es) a r = done at effect
      cases effect with
      | early err => exact ⟨.nothing, .inl rfl⟩
      | unwatched kept text watch =>
        rw [watch] at same
        refine ⟨?_, .inr settled⟩
        rw [← same]
        exact .nothing
      | added kept watch =>
        rw [watch] at same
        refine ⟨?_, .inr settled⟩
        rw [← same]
        exact .adds es rfl deleting
    | true =>
      unfold reconcile
      cases a.get with
      | some text => exact ⟨.nothing, .inl rfl⟩
      | none =>
        simp only [deleting, if_true, finalizeCRDIfDeleted]
        split
        · rename_i finalizer
          have removed : Touches (some es) r.directory (finalizeCRD es req r).directory :=
            .removes es rfl deleting finalizer
          split
          · split
            · exact ⟨removed, .inl rfl⟩
            · exact ⟨removed, .inr (by simp [settle, deleting])⟩
          · exact ⟨removed, .inl rfl⟩
        · exact ⟨.nothing, .inl rfl⟩

/-- No two ElastiServices that the API still has are for one service. -/
def OwnServices (objects : Objects) : Prop :=
  ∀ a ∈ objects.entries, ∀ b ∈ objects.entries, nameFree (some a.2) = false →
    nameFree (some b.2) = false → serviceName a.2 = serviceName b.2 → a.1 = b.1

instance (objects : Objects) : Decidable (OwnServices objects) :=
  inferInstanceAs (Decidable (∀ a ∈ objects.entries, ∀ b ∈ objects.entries, _ → _ → _ → _))

theorem OwnServices.same {objects : Objects} (own : OwnServices objects) {req other : Request}
    {a b : ElastiService} (here : objects.lookup req = some a)
    (there : objects.lookup other = some b) (keptA : nameFree (some a) = false)
    (keptB : nameFree (some b) = false) (service : serviceName a = serviceName b) : a = b := by
  have names : req = other := own ⟨req, a⟩ (AList.mem_lookup_iff.mp here) ⟨other, b⟩
    (AList.mem_lookup_iff.mp there) keptA keptB service
  rw [names, there] at here
  exact (Option.some.inj here).symm

/-- The item's turn reads a live ElastiService, and nothing it asks for fails. -/
structure Served (watch : List String) (objects : Objects) (item : Item) (es : ElastiService) :
    Prop where
  turn : item.skipped watch = false
  stored : objects.lookup item.request = some es
  live : es.deleting = false
  succeeds : Succeeds es item.answers

theorem entry_stays {objects : Objects} (own : OwnServices objects) {req other : Request}
    {object : Option ElastiService} (kept : Kept (objects.lookup other) object) {d e : Directory}
    (touches : Touches object d e) {es : ElastiService} (stored : objects.lookup req = some es)
    (live : es.deleting = false) (entry : getCRD (serviceName es) d = some (details es)) :
    getCRD (serviceName es) e = some (details es) := by
  -- the entry of a live ElastiService stays, whichever Reconcile comes next
  cases touches with
  | nothing => exact entry
  | adds read found alive =>
    rw [found] at kept
    obtain ⟨old, there, same⟩ := kept_some kept
    obtain ⟨deleting, -, key, value⟩ := settle_reads same
    rw [deleting] at alive
    rw [getCRD_add, key, value]
    split
    · rename_i service
      rw [own.same stored there (nameFree_live live) (nameFree_live alive) service]
    · exact entry
  | removes read found deleting finalizer =>
    rw [found] at kept
    obtain ⟨old, there, same⟩ := kept_some kept
    have reading : old = read := by
      rcases same with rfl | rfl
      · rfl
      · change old.deleting = true at deleting
        simp [settle, deleting] at finalizer
    subst reading
    rw [getCRD_remove, if_neg]
    · exact entry
    · intro service
      have held : nameFree (some old) = false := by rw [nameFree, finalizer, Bool.not_true, Bool.and_false]
      rw [own.same stored there (nameFree_live live) held service, deleting] at live
      cases live

def restarted (objects : Objects) : World := ⟨newReconciler, objects⟩

end Start

def web : ElastiService := ⟨"shop", "web-elasti", false, true, deployed "web" "web"⟩

def cart : ElastiService := ⟨"shop", "cart-elasti", false, false, deployed "cart" "cart"⟩

def other : ElastiService := ⟨"bank", "vault-elasti", false, true, deployed "vault" "vault"⟩

def stored : Objects :=
  [web, cart, other].foldl (fun objects es => objects.insert (nameOf es) es) ∅

def answered : List Item :=
  [⟨cart, { fine with update := some "conflict" }⟩, ⟨other, fine⟩, ⟨web, fine⟩]

section Restart
variable [Apimachinery]

end Restart

def edited : World := (run step start targetEditedOtherDeleted).getD start

end Startup
