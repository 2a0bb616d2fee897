import Elasti.GuardedRuns
import Elasti.Reconciler

/- The informers of one ElastiService's scale target over every history of edits, deletions,
   failed starts and Reconciles. The directory is shared with the other ElastiServices, whose
   entries may come and go at any key. -/
namespace TargetInformers
open GuardedRuns V1Alpha1 Reconciler SecondaryIndex
open InformerManager (getKeyFromRequestWatch)

/-- The verdict is the spec for which a Reconcile has just returned without error, unless the
    ElastiService is being deleted. -/
structure System where
  reconciler : ElastiServiceReconciler
  object : Option ElastiService
  verdict : Option ElastiServiceSpec

def start : System := ⟨newReconciler, none, none⟩

inductive Event where
  | create (finalizer : Bool) (spec : ElastiServiceSpec)
  | edit (spec : ElastiServiceSpec)
  | delete
  | removed
  | elsewhere (key : String) (details : Option CRDDetails)
  | reconcile (a : Answers)

def writeEntry (key : String) (details : Option CRDDetails) (d : Directory) : Directory :=
  match details with
  | some details => addCRD key details d
  | none => removeCRD key d

def verdictOf (object : Option ElastiService) (err : Option ReconcileErr) :
    Option ElastiServiceSpec :=
  match object, err with
  | some es, none => if es.deleting then none else some es.spec
  | _, _ => none

theorem reset_lock (key : String) (r : ElastiServiceReconciler) :
    key ∉ (resetMutexForInformer key r).informerStartLocks := by
  simp [resetMutexForInformer]

section Targets
variable [Apimachinery]

def step (req : Request) (s : System) : Event → Option System
  | .create finalizer spec =>
    match s.object with
    | none => some ⟨s.reconciler, some ⟨req.ns, req.name, false, finalizer, spec⟩, none⟩
    | some _ => none
  | .edit spec => s.object.map fun es => ⟨s.reconciler, some { es with spec := spec }, none⟩
  | .delete => s.object.map fun es => ⟨s.reconciler, some { es with deleting := true }, none⟩
  | .removed =>
    match s.object with
    | none => none
    | some es => if es.deleting && !es.finalizer then some ⟨s.reconciler, none, none⟩ else none
  | .elsewhere key details =>
    some ⟨{ s.reconciler with directory := writeEntry key details s.reconciler.directory },
      s.object, none⟩
  | .reconcile a =>
    let done := reconcile req s.object a s.reconciler
    some ⟨done.reconciler, done.object, verdictOf s.object done.err⟩

def Watches (req : Request) (ref : ScaleTargetRef) (w : TargetWatch) : Prop :=
  parseGroupVersion ref.apiVersion = .ok (w.group, w.version) ∧
    w = targetRequest req ref (w.group, w.version)

instance (req : Request) (ref : ScaleTargetRef) (w : TargetWatch) :
    Decidable (Watches req ref w) :=
  inferInstanceAs (Decidable (_ ∧ _))

def AllWatch (req : Request) (ref : ScaleTargetRef) (m : Informers) : Prop :=
  ∀ e ∈ m.entries, Watches req ref e.2

instance (req : Request) (ref : ScaleTargetRef) (m : Informers) :
    Decidable (AllWatch req ref m) :=
  inferInstanceAs (Decidable (∀ e ∈ m.entries, Watches req ref e.2))

def TargetWatched (req : Request) (s : System) : Prop :=
  ∀ spec ∈ s.verdict,
    s.reconciler.informers.entries.length = 1 ∧
      AllWatch req spec.scaleTargetRef s.reconciler.informers

instance (req : Request) (s : System) : Decidable (TargetWatched req s) := by
  unfold TargetWatched
  infer_instance

def Superseded (req : Request) (es : ElastiService) (d : Directory) (key : String) : Prop :=
  ∃ crd ∈ getCRD (namespacedName es.ns es.spec.service) d,
    Changed es crd ∧ key = targetKey req crd.spec.scaleTargetRef

instance (req : Request) (es : ElastiService) (d : Directory) (key : String) :
    Decidable (Superseded req es d key) := by
  unfold Superseded
  infer_instance

/-- Where a Reconcile returns without error, each informer that was running watched the
    target already, or the directory's entry for the service leads to it. -/
def Accounted (req : Request) (s : System) : Event → Prop
  | .reconcile a =>
    ∀ es ∈ s.object, es.deleting = false →
      (reconcile req s.object a s.reconciler).err = none →
        ∀ e ∈ s.reconciler.informers.entries,
          Watches req es.spec.scaleTargetRef e.2 ∨
            Superseded req es s.reconciler.directory e.1
  | _ => True

instance (req : Request) (s : System) (e : Event) : Decidable (Accounted req s e) := by
  unfold Accounted
  split <;> infer_instance

/-- What holds after every event, whatever the Reconciles returned. -/
structure Tracked (req : Request) (r : ElastiServiceReconciler) : Prop where
  keyed : ∀ key w, r.informers.lookup key = some w → key = getKeyFromRequestWatch w.toRequestWatch
  started : getMutexKeyForTargetRef req ∈ r.informerStartLocks →
    ∃ key, r.informers.lookup key ≠ none

theorem allWatch_iff (req : Request) (ref : ScaleTargetRef) (m : Informers) :
    AllWatch req ref m ↔ ∀ key w, m.lookup key = some w → Watches req ref w := by
  constructor
  · intro all key w found
    exact all ⟨key, w⟩ (AList.mem_lookup_iff.mp found)
  · intro all e member
    exact all e.1 e.2 (AList.mem_lookup_iff.mpr member)

theorem watches_key {req : Request} {ref : ScaleTargetRef} {w : TargetWatch}
    (watches : Watches req ref w) : getKeyFromRequestWatch w.toRequestWatch = targetKey req ref := by
  rw [watches.2, targetRequest_key]

theorem length_of_allWatch {req : Request} {r : ElastiServiceReconciler} {ref : ScaleTargetRef}
    (tracked : Tracked req r) (runs : ∃ key, r.informers.lookup key ≠ none)
    (all : AllWatch req ref r.informers) : r.informers.entries.length = 1 := by
  -- informers under their own keys that watch one target are at most one informer
  have same : r.informers.keys ⊆ [targetKey req ref] := by
    intro key member
    obtain ⟨w, found⟩ := Option.isSome_iff_exists.mp (AList.lookup_isSome.mpr member)
    have own := tracked.keyed key w found
    have watches := (allWatch_iff req ref r.informers).mp all key w found
    rw [own, watches_key watches]
    exact List.mem_singleton_self _
  have few := (r.informers.keys_nodup.subperm same).length_le
  obtain ⟨key, found⟩ := runs
  have member : key ∈ r.informers.keys := AList.lookup_isSome.mp (Option.isSome_iff_ne_none.mpr found)
  have some := List.length_pos_of_mem member
  simp only [AList.keys, List.keys, List.length_map, List.length_singleton] at few some
  omega

theorem tracked_stopPrevious {req : Request} {r : ElastiServiceReconciler} (es : ElastiService)
    (tracked : Tracked req r) : Tracked req (stopPrevious es req r) := by
  obtain ⟨crd, -, -, same⟩ | ⟨-, same⟩ := stopPrevious_cases es req r
  · rw [same]
    constructor
    · intro key w found
      change (stopInformer _ r.informers).1.lookup key = some w at found
      rw [stopInformer_lookup] at found
      split at found
      · cases found
      · exact tracked.keyed key w found
    · intro held
      exact absurd held (reset_lock _ _)
  · rw [same]
    exact tracked

theorem stopPrevious_allWatch (es : ElastiService) (req : Request) (r : ElastiServiceReconciler) :
    AllWatch req es.spec.scaleTargetRef (stopPrevious es req r).informers ↔
      ∀ e ∈ r.informers.entries, Watches req es.spec.scaleTargetRef e.2 ∨
        Superseded req es r.directory e.1 := by
  obtain ⟨crd, listed, changed, same⟩ | ⟨unchanged, same⟩ := stopPrevious_cases es req r
  · have informers : (stopPrevious es req r).informers =
        (stopInformer (targetKey req crd.spec.scaleTargetRef) r.informers).1 := by rw [same]; rfl
    rw [allWatch_iff, informers]
    constructor
    · intro all e member
      by_cases stopped : e.1 = targetKey req crd.spec.scaleTargetRef
      · exact .inr ⟨crd, listed, changed, stopped⟩
      · refine .inl (all e.1 e.2 ?_)
        rw [stopInformer_lookup, if_neg stopped]
        exact AList.mem_lookup_iff.mpr member
    · intro all key w found
      rw [stopInformer_lookup] at found
      split at found
      · cases found
      · rename_i other
        rcases all ⟨key, w⟩ (AList.mem_lookup_iff.mp found) with watches | ⟨old, listedOld, -, key⟩
        · exact watches
        · cases listed.symm.trans listedOld
          exact absurd key other
  · rw [same]
    constructor
    · intro all e member
      exact .inl (all e member)
    · intro all e member
      rcases all e member with watches | ⟨crd, listed, changed, -⟩
      · exact watches
      · exact absurd changed (unchanged crd listed)

theorem allWatch_insert {req : Request} {ref : ScaleTargetRef} {m : Informers} {key : String}
    {w : TargetWatch} (absent : m.lookup key = none) (watches : Watches req ref w) :
    AllWatch req ref (m.insert key w) ↔ AllWatch req ref m := by
  unfold AllWatch
  rw [AList.entries_insert_of_notMem (AList.lookup_eq_none.mp absent), List.forall_mem_cons]
  exact and_iff_right watches

theorem watches_targetRequest {ref : ScaleTargetRef} {gv : String × String}
    (parsed : parseGroupVersion ref.apiVersion = .ok gv) (req : Request) :
    Watches req ref (targetRequest req ref gv) := ⟨parsed, rfl⟩

theorem tracked_insert {req : Request} {r : ElastiServiceReconciler} (tracked : Tracked req r)
    (ref : ScaleTargetRef) (gv : String × String) (key : String) (w : TargetWatch)
    (found : (r.informers.insert (targetKey req ref) (targetRequest req ref gv)).lookup key =
      some w) : key = getKeyFromRequestWatch w.toRequestWatch := by
  rw [lookup_insert_ite] at found
  split at found
  · rename_i own
    cases found
    rw [own, targetRequest_key]
  · exact tracked.keyed key w found

theorem startOnce_ok {req : Request} {r kept : ElastiServiceReconciler} {ref : ScaleTargetRef}
    {start : Start} (tracked : Tracked req r) (ok : startOnce ref req start r = (kept, none)) :
    Tracked req kept ∧ (∃ key, kept.informers.lookup key ≠ none) ∧
      (AllWatch req ref kept.informers ↔ AllWatch req ref r.informers) := by
  simp only [startOnce] at ok
  split at ok
  · rename_i held
    cases ok
    exact ⟨tracked, tracked.started held, Iff.rfl⟩
  · have effect := startInformer_effect ref req start r.informers
    generalize startInformer ref req start r.informers = started at effect ok
    cases effect with
    | running found =>
      cases ok
      exact ⟨⟨tracked.keyed, fun _ => ⟨_, found⟩⟩, ⟨_, found⟩, Iff.rfl⟩
    | started gv parsed absent =>
      cases ok
      have found : (r.informers.insert (targetKey req ref) (targetRequest req ref gv)).lookup
          (targetKey req ref) ≠ none := by
        rw [lookup_insert_ite, if_pos rfl]
        exact Option.some_ne_none _
      exact ⟨⟨tracked_insert tracked ref gv, fun _ => ⟨_, found⟩⟩, ⟨_, found⟩,
        allWatch_insert absent (watches_targetRequest parsed req)⟩
    | failed kept err same => cases ok

theorem startOnce_failed {req : Request} {r kept : ElastiServiceReconciler}
    {ref : ScaleTargetRef} {start : Start} {err : String} (tracked : Tracked req r)
    (failed : startOnce ref req start r = (kept, some err)) : Tracked req kept := by
  simp only [startOnce] at failed
  split at failed
  · cases failed
  · have effect := startInformer_effect ref req start r.informers
    generalize startInformer ref req start r.informers = started at effect failed
    cases effect with
    | running found => cases failed
    | started gv parsed absent => cases failed
    | failed m err same =>
      cases failed
      constructor
      · intro key w found
        exact tracked.keyed key w ((same key).symm.trans found)
      · intro held
        exact absurd held (reset_lock _ _)

theorem watch_ok {req : Request} {r kept : ElastiServiceReconciler} {es : ElastiService}
    {start : Start} (tracked : Tracked req r)
    (ok : watchScaleTargetRef es req start r = (kept, none)) :
    Tracked req kept ∧
      ((kept.informers.entries.length = 1 ∧ AllWatch req es.spec.scaleTargetRef kept.informers) ↔
        ∀ e ∈ r.informers.entries, Watches req es.spec.scaleTargetRef e.2 ∨
          Superseded req es r.directory e.1) := by
  simp only [watchScaleTargetRef] at ok
  split at ok
  · cases ok
  · obtain ⟨trackedKept, runs, all⟩ := startOnce_ok (tracked_stopPrevious es tracked) ok
    refine ⟨trackedKept, ?_⟩
    rw [← stopPrevious_allWatch, ← all]
    constructor
    · intro both
      exact both.2
    · intro watch
      exact ⟨length_of_allWatch trackedKept runs watch, watch⟩

theorem watch_failed {req : Request} {r kept : ElastiServiceReconciler} {es : ElastiService}
    {start : Start} {text : String} (tracked : Tracked req r)
    (failed : watchScaleTargetRef es req start r = (kept, some text)) : Tracked req kept := by
  simp only [watchScaleTargetRef] at failed
  split at failed
  · cases failed
    exact tracked
  · exact startOnce_failed (tracked_stopPrevious es tracked) failed

theorem tracked_finalizeCRD {req : Request} {r : ElastiServiceReconciler} (es : ElastiService)
    (tracked : Tracked req r) : Tracked req (Reconciler.finalizeCRD es req r) := by
  -- StopForCRD only takes informers away
  constructor
  · intro key w found
    have left : (Reconciler.finalizeCRD es req r).informers.lookup key = _ :=
      stopForCRD_lookup req.name req.ns r.informers key
    rw [found] at left
    split at left
    · cases left
    · exact tracked.keyed key w left.symm
  · intro held
    simp [Reconciler.finalizeCRD, resetMutexForInformer] at held

theorem tracked_reconcile {req : Request} {r : ElastiServiceReconciler} (tracked : Tracked req r)
    (object : Option ElastiService) (a : Answers) :
    Tracked req (reconcile req object a r).reconciler := by
  cases object with
  | none =>
    unfold reconcile
    cases a.get <;> exact tracked
  | some es =>
    cases deleting : es.deleting with
    | false =>
      have effect := reconcile_live req deleting a r
      generalize reconcile req (some es) a r = done at effect ⊢
      cases effect with
      | early err => exact tracked
      | unwatched kept text watch => exact watch_failed tracked watch
      | added kept watch =>
        have kept := (watch_ok tracked watch).1
        exact ⟨kept.keyed, kept.started⟩
    | true =>
      have finalized := tracked_finalizeCRD es tracked
      unfold reconcile
      cases a.get with
      | some text => exact tracked
      | none =>
        simp only [deleting, if_true, finalizeCRDIfDeleted]
        split
        · split
          · cases a.update <;> exact finalized
          · exact finalized
        · exact tracked

theorem step_cases {req : Request} {s t : System} {e : Event} (move : step req s e = some t) :
    (∃ a, e = .reconcile a) ∨
      (Accounted req s e ∧ t.verdict = none ∧
        t.reconciler.informers = s.reconciler.informers ∧
        t.reconciler.informerStartLocks = s.reconciler.informerStartLocks) := by
  cases e with
  | create finalizer spec =>
    simp only [step] at move
    split at move <;> cases move
    exact .inr ⟨trivial, rfl, rfl, rfl⟩
  | edit spec =>
    obtain ⟨es, -, rfl⟩ := Option.map_eq_some_iff.mp move
    exact .inr ⟨trivial, rfl, rfl, rfl⟩
  | delete =>
    obtain ⟨es, -, rfl⟩ := Option.map_eq_some_iff.mp move
    exact .inr ⟨trivial, rfl, rfl, rfl⟩
  | removed =>
    simp only [step] at move
    split at move
    · cases move
    · split at move <;> cases move
      exact .inr ⟨trivial, rfl, rfl, rfl⟩
  | elsewhere key details =>
    cases move
    exact .inr ⟨trivial, rfl, rfl, rfl⟩
  | reconcile a => exact .inl ⟨a, rfl⟩

theorem tracked_step {req : Request} (s : System) (e : Event) (t : System)
    (tracked : Tracked req s.reconciler) (move : step req s e = some t) :
    Tracked req t.reconciler := by
  obtain ⟨a, rfl⟩ | ⟨-, -, informers, locks⟩ := step_cases move
  · cases move
    exact tracked_reconcile tracked s.object a
  · constructor
    · rw [informers]
      exact tracked.keyed
    · rw [informers, locks]
      exact tracked.started

theorem reconcile_exact {req : Request} {s : System} (tracked : Tracked req s.reconciler)
    (a : Answers) {t : System} (move : step req s (.reconcile a) = some t) :
    TargetWatched req t ↔ Accounted req s (.reconcile a) := by
  obtain ⟨r, object, verdict⟩ := s
  cases move
  unfold TargetWatched Accounted
  cases object with
  | none => simp [verdictOf]
  | some es =>
    cases deleting : es.deleting with
    | true =>
      have silent : ∀ err, verdictOf (some es) err = none := by
        intro err
        cases err <;> simp [verdictOf, deleting]
      simp [silent, deleting]
    | false =>
      have effect := reconcile_live req deleting a r
      dsimp only
      generalize reconcile req (some es) a r = done at effect ⊢
      cases effect with
      | early err => simp [verdictOf]
      | unwatched kept text watch => simp [verdictOf]
      | added kept watch =>
        have turn := (watch_ok tracked watch).2
        simpa [verdictOf, deleting, addToDirectory] using turn

theorem watched_exact {req : Request} (s : System) (e : Event) (t : System)
    (tracked : Tracked req s.reconciler) (_ : TargetWatched req s)
    (move : step req s e = some t) : TargetWatched req t ↔ Accounted req s e := by
  obtain ⟨a, rfl⟩ | ⟨accounted, silent, -, -⟩ := step_cases move
  · exact reconcile_exact tracked a move
  · simp [TargetWatched, silent, accounted]

theorem tracked_start (req : Request) : Tracked req start.reconciler := by
  constructor
  · intro key w found
    cases found
  · intro held
    cases held

/-- In every history of one ElastiService: each Reconcile that returns without error leaves
    exactly the informer of the current target, if and only if each of them finds no other
    informer running than that one and the one its service's directory entry leads to. -/
theorem target_watched_iff (req : Request) (events : List Event) {t : System}
    (done : run (step req) start events = some t) :
    Always (step req) (TargetWatched req) start events ↔
      Meets (step req) (Accounted req) start events := by
  have silent : TargetWatched req start := by simp [TargetWatched, start]
  exact always_iff_meets tracked_step watched_exact events (tracked_start req) silent done

end Targets

def web : Request := ⟨"shop", "web-elasti"⟩

def targetEdited : List Event :=
  [.create false (deployed "web" "web"), .reconcile fine, .edit (deployed "web" "web-v2"),
    .reconcile { fine with start := .timeout }, .reconcile fine]

theorem edited_target_watched :
    (∃ t, run (step web) start targetEdited = some t ∧ t.verdict = some (deployed "web" "web-v2")) ∧
      Always (step web) (TargetWatched web) start targetEdited :=
  ⟨⟨_, rfl, rfl⟩,
    (target_watched_iff web targetEdited rfl).mpr (meets_of_guardedRun targetEdited rfl)⟩

/-- The service and the target are edited together: the directory has nothing for the new
    service, so the informer of the former target stays and no other is started. -/
theorem former_target_watched :
    ∃ t, Reach (step web) Unguarded start t ∧
      t.verdict = some (deployed "web-v2" "web-v2") ∧
      t.reconciler.informers.keys = [targetKey web (deployed "web" "web").scaleTargetRef] ∧
      ¬ TargetWatched web t :=
  reaches_of_run
    [.create false (deployed "web" "web"), .reconcile fine,
      .edit (deployed "web-v2" "web-v2"), .reconcile fine]
    (by decide +kernel)

end TargetInformers
