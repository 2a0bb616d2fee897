import Elasti.Notification
import Elasti.Segments
import Elasti.Startup

/- An operator that watches some namespaces only. Users change ElastiServices anywhere in the
   cluster; the controller queues what its event filter lets through, Initialize goes through
   its list at the same time, and the resolver may ask for any service. -/
namespace Confinement
open GuardedRuns V1Alpha1 Reconciler CRDDirectory Startup
open SecondaryIndex (lookup_insert_ite)
open WatchScope (namespaceInScope)
open OperatorRPC (Target)
open Notification (scaleTargetForService)

structure Operator where
  world : World
  queue : List Request

inductive Event where
  | change (c : Change)
  /-- The watch shows something of the ElastiService under the name. -/
  | seen (req : Request)
  /-- A worker takes the name off the queue. -/
  | work (req : Request) (a : Answers)
  /-- A turn of reconcileExistingCRDs. -/
  | turn (item : Item)

def boot (objects : Objects) : Operator := ⟨restarted objects, []⟩

def ValidNamespace (ns : String) : Prop := '/' ∉ ns.toList

instance (ns : String) : Decidable (ValidNamespace ns) := inferInstanceAs (Decidable (¬ _))

def applyChange (c : Change) (objects : Objects) : Option Objects :=
  if ValidNamespace c.request.ns then
    (changed objects c).map fun es => objects.insert c.request es
  else none

def step [Apimachinery] (watch : List String) (s : Operator) : Event → Option Operator
  | .change c =>
    (applyChange c s.world.objects).map fun objects => ⟨⟨s.world.reconciler, objects⟩, s.queue⟩
  | .seen req =>
    -- the predicate of SetupWithManager
    some (if namespaceInScope watch req.ns then ⟨s.world, req :: s.queue⟩ else s)
  | .work req a =>
    if req ∈ s.queue then
      let done := reconcile req (s.world.objects.lookup req) a s.world.reconciler
      -- a Reconcile that fails is queued again
      some ⟨⟨done.reconciler, setObject req done.object s.world.objects⟩,
        if done.err.isSome then s.queue else s.queue.filter (· ≠ req)⟩
    else none
  | .turn item => some ⟨(reconcileItem watch (s.world, 0) item).1, s.queue⟩

/-- The objects as they would be if there was no operator. -/
def userObjects (objects : Objects) (events : List Event) : Objects :=
  events.foldl (fun objects e =>
    match e with
    | .change c => (applyChange c objects).getD objects
    | _ => objects) objects

def Valid (objects : Objects) : Prop :=
  ∀ req es, objects.lookup req = some es → es.ns = req.ns ∧ ValidNamespace req.ns

/-- What the operator holds in memory is of the namespaces it watches. -/
structure Within [Apimachinery] (watch : List String) (r : ElastiServiceReconciler) : Prop where
  directory : ∀ key crd, getCRD key r.directory = some crd → ∃ ns svc,
    key = namespacedName ns svc ∧ ValidNamespace ns ∧ namespaceInScope watch ns = true
  informers : ∀ key target, r.informers.lookup key = some target →
    namespaceInScope watch target.ns = true

structure Confined [Apimachinery] (watch : List String) (s : Operator) : Prop where
  valid : Valid s.world.objects
  queue : ∀ req ∈ s.queue, namespaceInScope watch req.ns = true
  memory : Within watch s.world.reconciler

theorem stopInformer_subset {key k : String} {m : Informers} {target : TargetWatch}
    (found : (stopInformer key m).1.lookup k = some target) : m.lookup k = some target := by
  rw [stopInformer_lookup] at found
  split at found
  · cases found
  · exact found

section Informers
variable [Apimachinery]

theorem stopPrevious_informers {es : ElastiService} {req : Request} {r : ElastiServiceReconciler}
    {key : String} {target : TargetWatch}
    (found : (stopPrevious es req r).informers.lookup key = some target) :
    r.informers.lookup key = some target := by
  obtain ⟨crd, -, -, same⟩ | ⟨-, same⟩ := stopPrevious_cases es req r
  · rw [same] at found
    exact stopInformer_subset found
  · rw [same] at found
    exact found

theorem startOnce_informers {ref : ScaleTargetRef} {req : Request} {start : Start}
    {r : ElastiServiceReconciler} {key : String} {target : TargetWatch}
    (found : (startOnce ref req start r).1.informers.lookup key = some target) :
    r.informers.lookup key = some target ∨ target.ns = req.ns := by
  unfold startOnce at found
  dsimp only at found
  split at found
  · exact .inl found
  · have effect := startInformer_effect ref req start r.informers
    generalize startInformer ref req start r.informers = started at effect found
    cases effect with
    | running present => exact .inl found
    | started gv parsed absent =>
      change (r.informers.insert (targetKey req ref) (targetRequest req ref gv)).lookup key =
        some target at found
      rw [lookup_insert_ite] at found
      split at found
      · cases found
        exact .inr rfl
      · exact .inl found
    | failed kept err same =>
      change kept.lookup key = some target at found
      rw [same] at found
      exact .inl found

theorem watchScaleTargetRef_informers {es : ElastiService} {req : Request} {start : Start}
    {r : ElastiServiceReconciler} {key : String} {target : TargetWatch}
    (found : (watchScaleTargetRef es req start r).1.informers.lookup key = some target) :
    r.informers.lookup key = some target ∨ target.ns = req.ns := by
  unfold watchScaleTargetRef at found
  dsimp only at found
  split at found
  · exact .inl found
  · rcases startOnce_informers found with before | own
    · exact .inl (stopPrevious_informers before)
    · exact .inr own

theorem reconcile_informers {req : Request} {object : Option ElastiService} {a : Answers}
    {r : ElastiServiceReconciler} {key : String} {target : TargetWatch}
    (found : (reconcile req object a r).reconciler.informers.lookup key = some target) :
    r.informers.lookup key = some target ∨ target.ns = req.ns := by
  cases object with
  | none =>
    have same : (reconcile req none a r).reconciler = r := by
      unfold reconcile
      cases a.get <;> rfl
    rw [same] at found
    exact .inl found
  | some es =>
    cases deleting : es.deleting with
    | false =>
      have effect := reconcile_live req deleting a r
      generalize reconcile req (some es) a r = done at effect found
      have watched := @watchScaleTargetRef_informers _ es req a.start r key target
      cases effect with
      | early err => exact .inl found
      | unwatched kept text watch =>
        rw [watch] at watched
        exact watched found
      | added kept watch =>
        rw [watch] at watched
        exact watched found
    | true =>
      refine .inl ?_
      have stopped : ∀ {m : Informers}, m = r.informers ∨ m = stopForCRD req.name req.ns r.informers →
          m.lookup key = some target → r.informers.lookup key = some target := by
        rintro m (rfl | rfl) here
        · exact here
        · rw [stopForCRD_lookup] at here
          split at here
          · cases here
          · exact here
      refine stopped ?_ found
      unfold reconcile
      cases a.get with
      | some text => exact .inl rfl
      | none =>
        simp only [deleting, if_true, finalizeCRDIfDeleted]
        split
        · split
          · split <;> exact .inr rfl
          · exact .inr rfl
        · exact .inl rfl

theorem within_reconcile {watch : List String} {objects : Objects} (valid : Valid objects)
    {r : ElastiServiceReconciler} (within : Within watch r) {req : Request} (a : Answers)
    (inScope : namespaceInScope watch req.ns = true) :
    Within watch (reconcile req (objects.lookup req) a r).reconciler := by
  obtain ⟨touches, -⟩ := reconcile_touches req (objects.lookup req) a r
  constructor
  · intro key crd entry
    generalize (reconcile req (objects.lookup req) a r).reconciler.directory = d at touches entry
    cases touches with
    | nothing => exact within.directory key crd entry
    | adds es found alive =>
      rw [getCRD_add] at entry
      split at entry
      · rename_i service
        obtain ⟨own, plain⟩ := valid req es found
        rw [← own] at plain inScope
        exact ⟨es.ns, es.spec.service, service, plain, inScope⟩
      · exact within.directory key crd entry
    | removes es found deleting finalizer =>
      rw [getCRD_remove] at entry
      split at entry
      · cases entry
      · exact within.directory key crd entry
  · intro key target found
    rcases reconcile_informers found with before | own
    · exact within.informers key target before
    · rw [own]
      exact inScope

end Informers

theorem valid_kept {objects : Objects} (valid : Valid objects) {req : Request}
    {object : Option ElastiService} (kept : Kept (objects.lookup req) object) :
    Valid (setObject req object objects) := by
  intro other es found
  rw [setObject_lookup] at found
  split at found
  · rename_i same
    rw [found] at kept
    obtain ⟨old, stored, reading⟩ := kept_some kept
    rw [same, (settle_reads reading).2.1]
    exact valid req old stored
  · exact valid other es found

theorem valid_change {objects after : Objects} (valid : Valid objects) {c : Change}
    (applied : applyChange c objects = some after) : Valid after := by
  unfold applyChange at applied
  split at applied
  · rename_i plain
    obtain ⟨es, after, rfl⟩ := Option.map_eq_some_iff.mp applied
    have own : es.ns = c.request.ns := by
      cases c with
      | create req finalizer spec =>
        simp only [changed, Option.ite_none_right_eq_some, Option.some.injEq] at after
        rw [← after.2]
        rfl
      | edit req spec =>
        obtain ⟨old, found, rfl⟩ := Option.map_eq_some_iff.mp after
        exact (valid req old found).1
      | delete req =>
        obtain ⟨old, found, rfl⟩ := Option.map_eq_some_iff.mp after
        exact (valid req old found).1
    intro req other found
    rw [lookup_insert_ite] at found
    split at found
    · rename_i same
      cases found
      rw [same]
      exact ⟨own, plain⟩
    · exact valid req other found
  · cases applied

theorem applyChange_lookup {a b : Objects} {c : Change} {req : Request}
    (same : a.lookup req = b.lookup req) {after : Objects} (applied : applyChange c a = some after) :
    after.lookup req = ((applyChange c b).getD b).lookup req := by
  -- what a change leaves under a name depends on what was there before it alone
  unfold applyChange at applied ⊢
  split at applied
  · rename_i plain
    rw [if_pos plain]
    obtain ⟨es, here, rfl⟩ := Option.map_eq_some_iff.mp applied
    by_cases own : req = c.request
    · have agree : changed b c = some es := by
        rw [← here]
        subst own
        cases c <;> simp only [changed, Change.request] at same ⊢ <;> rw [same]
      rw [agree, Option.map_some, Option.getD_some, own, AList.lookup_insert, AList.lookup_insert]
    · rw [AList.lookup_insert_ne own, same]
      cases changed b c with
      | none => rfl
      | some other => exact (AList.lookup_insert_ne own).symm
  · cases applied

/-- The ElastiServices outside the namespaces are as their users have left them. -/
def Untouched (watch : List String) (objects : Objects) (events : List Event) (s : Operator) :
    Prop :=
  ∀ req, namespaceInScope watch req.ns = false →
    s.world.objects.lookup req = (userObjects objects events).lookup req

theorem userObjects_snoc (objects : Objects) (events : List Event) (e : Event) :
    userObjects objects (events ++ [e]) =
      match e with
      | .change c => (applyChange c (userObjects objects events)).getD (userObjects objects events)
      | _ => userObjects objects events := by
  rw [userObjects, List.foldl_append]
  rfl

theorem setObject_other {watch : List String} {req other : Request} {object : Option ElastiService}
    {objects : Objects} (inScope : namespaceInScope watch req.ns = true)
    (outside : namespaceInScope watch other.ns = false) :
    (setObject req object objects).lookup other = objects.lookup other := by
  rw [setObject_lookup, if_neg]
  rintro rfl
  rw [inScope] at outside
  cases outside

theorem confined_reconcile [Apimachinery] {watch : List String} {s : Operator}
    (confined : Confined watch s)
    {req : Request} (inScope : namespaceInScope watch req.ns = true) (a : Answers)
    {queue : List Request} (queued : ∀ other ∈ queue, namespaceInScope watch other.ns = true) :
    Confined watch ⟨⟨(reconcile req (s.world.objects.lookup req) a s.world.reconciler).reconciler,
      setObject req (reconcile req (s.world.objects.lookup req) a s.world.reconciler).object
        s.world.objects⟩, queue⟩ where
  valid := valid_kept confined.valid
    (reconcile_touches req (s.world.objects.lookup req) a s.world.reconciler).2
  queue := queued
  memory := within_reconcile confined.valid confined.memory a inScope

theorem confined_step [Apimachinery] {watch : List String} {objects : Objects} (events : List Event)
    (s : Operator) (e : Event) (t : Operator)
    (inv : Confined watch s ∧ Untouched watch objects events s) (move : step watch s e = some t) :
    Confined watch t ∧ Untouched watch objects (events ++ [e]) t := by
  obtain ⟨confined, untouched⟩ := inv
  cases e with
  | change c =>
    obtain ⟨after, applied, rfl⟩ := Option.map_eq_some_iff.mp move
    refine ⟨⟨valid_change confined.valid applied, confined.queue, confined.memory⟩, ?_⟩
    intro req outside
    rw [userObjects_snoc]
    exact applyChange_lookup (untouched req outside) applied
  | seen req =>
    cases move
    split
    · rename_i inScope
      refine ⟨⟨confined.valid, ?_, confined.memory⟩, fun other outside => ?_⟩
      · intro other member
        rcases List.mem_cons.mp member with rfl | earlier
        · exact inScope
        · exact confined.queue other earlier
      · rw [userObjects_snoc]
        exact untouched other outside
    · refine ⟨confined, fun other outside => ?_⟩
      rw [userObjects_snoc]
      exact untouched other outside
  | work req a =>
    simp only [step, Option.ite_none_right_eq_some, Option.some.injEq] at move
    obtain ⟨member, rfl⟩ := move
    have inScope := confined.queue req member
    refine ⟨confined_reconcile confined inScope a ?_, fun other outside => ?_⟩
    · intro other there
      split at there
      · exact confined.queue other there
      · exact confined.queue other (List.mem_filter.mp there).1
    · rw [userObjects_snoc, ← untouched other outside]
      exact setObject_other inScope outside
  | turn item =>
    cases move
    unfold reconcileItem
    split
    · refine ⟨confined, fun other outside => ?_⟩
      rw [userObjects_snoc]
      exact untouched other outside
    · rename_i turn
      have inScope : namespaceInScope watch item.request.ns = true := by
        simp only [Item.skipped, Bool.or_eq_true, Bool.not_eq_true', not_or, Bool.not_eq_false] at turn
        exact turn.1
      refine ⟨confined_reconcile confined inScope item.answers confined.queue, fun other outside => ?_⟩
      rw [userObjects_snoc, ← untouched other outside]
      exact setObject_other inScope outside

/-- Whatever the users do, and in whichever order events, workers and the turns at start come:
    the ElastiServices outside the watched namespaces are as if there was no operator, no
    informer runs for a target outside, and no request of the resolver for a service outside
    finds something to scale. -/
theorem operator_confined [Apimachinery] (watch : List String) {objects : Objects}
    (valid : Valid objects) (events : List Event) {s : Operator}
    (done : run (step watch) (boot objects) events = some s) :
    (∀ req, namespaceInScope watch req.ns = false →
      s.world.objects.lookup req = (userObjects objects events).lookup req) ∧
    (∀ key target, s.world.reconciler.informers.lookup key = some target →
      namespaceInScope watch target.ns = true) ∧
    ∀ (t : Target) crd, ValidNamespace t.ns →
      scaleTargetForService s.world.reconciler.directory t = .ok crd →
      namespaceInScope watch t.ns = true := by
  have start : Confined watch (boot objects) ∧ Untouched watch objects [] (boot objects) :=
    ⟨⟨valid, fun _ member => absurd member List.not_mem_nil,
      ⟨fun _ _ entry => (by cases entry), fun _ _ found => (by cases found)⟩⟩, fun _ _ => rfl⟩
  obtain ⟨confined, untouched⟩ := run_invariant
    (fun events s => Confined watch s ∧ Untouched watch objects events s) start
    (fun events s e t => confined_step events s e t) events done
  refine ⟨untouched, confined.memory.informers, ?_⟩
  intro t crd plain scaled
  unfold scaleTargetForService at scaled
  split at scaled
  · cases scaled
  · rename_i found entry
    obtain ⟨ns, svc, key, plainNs, inScope⟩ := confined.memory.directory _ found entry
    rw [Apimachinery.slashless_eq plain plainNs key]
    exact inScope

def besideBank : List Event :=
  [.seen (nameOf web), .seen (nameOf other), .work (nameOf web) fine,
    .change (.edit (nameOf other) (deployed "vault" "vault-v2")), .turn ⟨cart, fine⟩,
    .change (.delete (nameOf other)), .seen (nameOf other)]

theorem bank_untouched :
    ∃ s, run (step ["shop"]) (boot stored) besideBank = some s ∧
      s.world.reconciler.directory.keys = ["shop/cart", "shop/web"] ∧
      s.world.objects.lookup (nameOf other) =
        some { other with deleting := true, spec := deployed "vault" "vault-v2" } ∧
      ∀ crd, scaleTargetForService s.world.reconciler.directory ⟨"bank", "vault"⟩ ≠ .ok crd := by
  have valid : Valid stored := by
    have listed : ∀ e ∈ stored.entries, e.2.ns = e.1.ns ∧ ValidNamespace e.1.ns := by decide +kernel
    intro req es found
    exact listed ⟨req, es⟩ (AList.mem_lookup_iff.mp found)
  obtain ⟨untouched, -, scales⟩ := operator_confined ["shop"] valid besideBank rfl
  refine ⟨_, rfl, by decide +kernel, ?_, ?_⟩
  · rw [untouched (nameOf other) (by decide)]
    decide +kernel
  · intro crd scaled
    have inScope := scales ⟨"bank", "vault"⟩ crd (by decide) scaled
    revert inScope
    decide

end Confinement
