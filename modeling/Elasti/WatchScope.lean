import Elasti.GoStrings
import Elasti.ScalingRuns

/- The namespaces the operator is confined to, and one tick of the poll loop over them. -/
namespace WatchScope
open V1Alpha1 ScalingRuns
open GoStrings (isSpace trimSpace Trimmed trimSpace_iff)

def getWatchNamespaces (raw : String) : List String :=
  if raw = "" then []
  else ((raw.toList.splitOn ',').map fun ns => String.ofList (trimSpace ns)).filter (· ≠ "")

/-- The loop of effectiveWatchNamespaces, which keeps the first of equal names. -/
def collect (seen : List String) : List String → List String
  | [] => []
  | ns :: rest =>
    if ns = "" then collect seen rest
    else if ns ∈ seen then collect seen rest
    else ns :: collect (ns :: seen) rest

def effectiveWatchNamespaces (watch alwaysInclude : List String) : List String :=
  if watch.length = 0 then [] else collect [] (watch ++ alwaysInclude)

def namespaceAll : String := ""

/-- What mainWithError passes to the scale handler and to the reconciler: the environment
    variable, or else the flag, with the operator's and the resolver's namespace. -/
def watchNamespaces (raw flag operatorNs resolverNs : String) : List String :=
  let watch := getWatchNamespaces raw
  let watch := if watch.length = 0 ∧ flag ≠ namespaceAll then [flag] else watch
  effectiveWatchNamespaces watch [operatorNs, resolverNs]

def namespaceInScope (watch : List String) (ns : String) : Bool :=
  if watch.length = 0 then true else watch.any (· = ns)

def listNamespaces (watch : List String) : List String :=
  if watch.length = 0 then [namespaceAll] else watch

theorem collect_member (ns : String) (names seen : List String) :
    ns ∈ collect seen names ↔ ns ≠ "" ∧ ns ∈ names ∧ ns ∉ seen := by
  induction names generalizing seen with
  | nil => simp [collect]
  | cons first rest ih =>
    unfold collect
    split
    · rename_i empty
      rw [ih seen, List.mem_cons, empty]
      constructor
      · rintro ⟨named, later, new⟩
        exact ⟨named, .inr later, new⟩
      · rintro ⟨named, here | later, new⟩
        · exact absurd here named
        · exact ⟨named, later, new⟩
    · rename_i named
      split
      · rename_i old
        rw [ih seen, List.mem_cons]
        constructor
        · rintro ⟨named, later, new⟩
          exact ⟨named, .inr later, new⟩
        · rintro ⟨named, rfl | later, new⟩
          · exact absurd old new
          · exact ⟨named, later, new⟩
      · rename_i fresh
        rw [List.mem_cons, ih (first :: seen), List.mem_cons, List.mem_cons, not_or]
        by_cases same : ns = first
        · subst same
          simp [named, fresh]
        · simp [same]

theorem collect_nodup (names seen : List String) : (collect seen names).Nodup := by
  induction names generalizing seen with
  | nil => exact List.nodup_nil
  | cons ns rest ih =>
    unfold collect
    split
    · exact ih seen
    · split
      · exact ih seen
      · refine List.nodup_cons.mpr ⟨?_, ih (ns :: seen)⟩
        intro again
        exact ((collect_member ns rest (ns :: seen)).mp again).2.2 List.mem_cons_self

/-- The variable names a namespace: between two commas it stands alone, with spaces around it
    or none. -/
def Names (raw ns : String) : Prop :=
  ns ≠ "" ∧ Trimmed ns.toList ∧ ∃ before behind, (∀ c ∈ before, isSpace c = true) ∧
    (∀ c ∈ behind, isSpace c = true) ∧ before ++ ns.toList ++ behind ∈ raw.toList.splitOn ','

theorem unnamed_blank (ns : String) : ¬ Names "" ns := by
  rintro ⟨named, -, before, behind, -, -, piece⟩
  have blank : before ++ ns.toList ++ behind = [] := List.mem_singleton.mp piece
  simp only [List.append_eq_nil_iff] at blank
  exact named (String.toList_injective blank.1.2)

theorem getWatchNamespaces_member (raw ns : String) :
    ns ∈ getWatchNamespaces raw ↔ Names raw ns := by
  unfold getWatchNamespaces
  split
  · rename_i blank
    simp [blank, unnamed_blank]
  · simp only [List.mem_filter, List.mem_map, decide_eq_true_eq]
    constructor
    · rintro ⟨⟨piece, split, rfl⟩, named⟩
      have inked : (String.ofList (trimSpace piece)).toList ≠ [] := fun empty =>
        named (String.toList_injective empty)
      obtain ⟨trimmed, before, behind, left, right, whole⟩ :=
        (trimSpace_iff inked).mp String.toList_ofList.symm
      exact ⟨named, trimmed, before, behind, left, right, whole ▸ split⟩
    · rintro ⟨named, trimmed, before, behind, left, right, split⟩
      have inked : ns.toList ≠ [] := fun empty => named (String.toList_injective empty)
      have trims := (trimSpace_iff inked).mpr ⟨trimmed, before, behind, left, right, rfl⟩
      exact ⟨⟨_, split, by rw [trims, String.ofList_toList]⟩, named⟩

/-- What the operator is confined to: the namespaces of the variable, or the flag's where it
    names none, and with either the operator's own and the resolver's. -/
def Watched (raw flag operatorNs resolverNs ns : String) : Prop :=
  ns ≠ "" ∧ (Names raw ns ∨ ((∀ other, ¬ Names raw other) ∧ ns = flag) ∨
    (((∃ other, Names raw other) ∨ flag ≠ "") ∧ (ns = operatorNs ∨ ns = resolverNs)))

theorem effectiveWatchNamespaces_member (ns : String) (watch alwaysInclude : List String) :
    ns ∈ effectiveWatchNamespaces watch alwaysInclude ↔
      watch ≠ [] ∧ ns ≠ "" ∧ (ns ∈ watch ∨ ns ∈ alwaysInclude) := by
  unfold effectiveWatchNamespaces
  split
  · rename_i none
    simp [List.length_eq_zero_iff.mp none]
  · rename_i some_name
    simp [collect_member, List.length_eq_zero_iff.not.mp some_name]

theorem getWatchNamespaces_empty (raw : String) :
    (getWatchNamespaces raw).length = 0 ↔ ∀ ns, ¬ Names raw ns := by
  simp only [List.length_eq_zero_iff, List.eq_nil_iff_forall_not_mem, getWatchNamespaces_member]

theorem watchNamespaces_member (raw flag operatorNs resolverNs ns : String) :
    ns ∈ watchNamespaces raw flag operatorNs resolverNs ↔
      Watched raw flag operatorNs resolverNs ns := by
  simp only [watchNamespaces, effectiveWatchNamespaces_member, List.mem_cons, List.not_mem_nil,
    or_false]
  split
  · rename_i legacy
    have unnamed := (getWatchNamespaces_empty raw).mp legacy.1
    have given : flag ≠ "" := legacy.2
    simp [Watched, unnamed, given]
  · rename_i other
    rw [getWatchNamespaces_member]
    by_cases unnamed : ∀ n, ¬ Names raw n
    · have none := (getWatchNamespaces_empty raw).mpr unnamed
      have nothing : flag = "" := by
        by_contra given
        exact other ⟨none, given⟩
      rw [List.length_eq_zero_iff] at none
      simp only [none, ne_eq, not_true_eq_false, false_and, false_iff]
      rintro ⟨named, inVariable | ⟨-, same⟩ | ⟨⟨n, inVariable⟩ | given, -⟩⟩
      · exact unnamed ns inVariable
      · exact named (same.trans nothing)
      · exact unnamed n inVariable
      · exact given nothing
    · have some_name : getWatchNamespaces raw ≠ [] := fun none =>
        unnamed ((getWatchNamespaces_empty raw).mp (List.length_eq_zero_iff.mpr none))
      have something : ∃ n, Names raw n := by simpa using unnamed
      simp only [Watched, unnamed, something, some_name, ne_eq, not_false_eq_true, true_and,
        false_and, false_or, true_or]

theorem watchNamespaces_nodup (raw flag operatorNs resolverNs : String) :
    (watchNamespaces raw flag operatorNs resolverNs).Nodup := by
  simp only [watchNamespaces, effectiveWatchNamespaces]
  generalize (if (getWatchNamespaces raw).length = 0 ∧ flag ≠ namespaceAll then [flag]
    else getWatchNamespaces raw) = watch
  split
  · exact List.nodup_nil
  · exact collect_nodup (watch ++ [operatorNs, resolverNs]) []

theorem all_not_watched (raw flag operatorNs resolverNs : String) :
    namespaceAll ∉ watchNamespaces raw flag operatorNs resolverNs := fun all =>
  ((watchNamespaces_member raw flag operatorNs resolverNs namespaceAll).mp all).1 rfl

example : watchNamespaces " team-a,,team-b , team-a" "legacy" "elasti" "elasti" =
    ["team-a", "team-b", "elasti"] := by decide +kernel

example : watchNamespaces " , " "legacy" "elasti" "resolver" =
    ["legacy", "elasti", "resolver"] := by decide +kernel

structure Item (α : Type) where
  ns : String
  name : String
  content : α
  deriving DecidableEq, Repr

/-- What the API holds, and which lists fail. An ElastiService has a namespace, and a name
    that no other one of its namespace has. -/
structure Cluster (α : Type) where
  items : List (Item α)
  listErr : String → Option String
  named : ∀ item ∈ items, item.ns ≠ namespaceAll
  distinct : (items.map fun item => (item.ns, item.name)).Nodup

/-- What checkAndScale calls for one ElastiService. The calls change and read a state of
    their own, which may be the cluster's workloads, clocks and metrics. -/
structure Handler (σ α : Type) where
  fromUnstructured : Item α → Except String ElastiService
  calculateScaleDirection : σ → Int → ElastiService → σ × Except String ScaleDirection
  handleScaleToZero : σ → ElastiService → σ × Option String
  handleScaleFromZero : σ → ElastiService → σ × Option String

inductive Action (α : Type) where
  | visit (item : Item α)
  | calculateScaleDirection (cooldownPeriod : Int) (es : ElastiService)
  | handleScaleToZero (es : ElastiService)
  | handleScaleFromZero (es : ElastiService)
  | log (message : String) (err : String)

structure Tick (σ α : Type) where
  state : σ
  actions : List (Action α)

variable {σ α : Type}

def Tick.did (t : Tick σ α) (state : σ) (actions : List (Action α)) : Tick σ α :=
  ⟨state, t.actions ++ actions⟩

def logErr (message : String) : Option String → List (Action α)
  | none => []
  | some err => [.log message err]

def visitItem (h : Handler σ α) (t : Tick σ α) (item : Item α) : Tick σ α :=
  match h.fromUnstructured item with
  | .error err =>
    t.did t.state [.visit item, .log "failed to convert unstructured to ElastiService" err]
  | .ok es =>
    let cooldownPeriod := resolveCooldownPeriod es.spec
    let decided := h.calculateScaleDirection t.state cooldownPeriod es
    let t := t.did decided.1 [.visit item, .calculateScaleDirection cooldownPeriod es]
    match decided.2 with
    | .error err => t.did t.state [.log "failed to calculate scale direction" err]
    | .ok .noScale => t
    | .ok .scaleDown =>
      let done := h.handleScaleToZero t.state es
      t.did done.1 (.handleScaleToZero es :: logErr "failed to scale target to zero" done.2)
    | .ok .scaleUp =>
      let done := h.handleScaleFromZero t.state es
      t.did done.1 (.handleScaleFromZero es :: logErr "failed to scale target from zero" done.2)

def list (c : Cluster α) (ns : String) : Except String (List (Item α)) :=
  match c.listErr ns with
  | some err => .error err
  | none => .ok (c.items.filter fun item => ns = namespaceAll || item.ns = ns)

structure ListErr where
  ns : String
  err : String
  deriving DecidableEq, Repr

def visitNamespace (h : Handler σ α) (c : Cluster α) (t : Tick σ α × List ListErr) (ns : String) :
    Tick σ α × List ListErr :=
  match list c ns with
  | .error err => (t.1, t.2 ++ [⟨ns, err⟩])
  | .ok items => (items.foldl (visitItem h) t.1, t.2)

def checkAndScale (h : Handler σ α) (c : Cluster α) (watch : List String) (state : σ) :
    Tick σ α × Option (List ListErr) :=
  -- the error joins the failed lists
  let done := (listNamespaces watch).foldl (visitNamespace h c) (⟨state, []⟩, [])
  (done.1, if done.2.length > 0 then some done.2 else none)

def Action.visited : Action α → Option (Item α)
  | .visit item => some item
  | _ => none

def Action.decided : Action α → Option ElastiService
  | .calculateScaleDirection _ es => some es
  | _ => none

def Tick.visited (t : Tick σ α) : List (Item α) := t.actions.filterMap Action.visited

def Tick.decided (t : Tick σ α) : List ElastiService := t.actions.filterMap Action.decided

theorem logErr_quiet (message : String) (err : Option String) :
    (logErr message err : List (Action α)).filterMap Action.visited = [] ∧
      (logErr message err : List (Action α)).filterMap Action.decided = [] := by
  cases err <;> exact ⟨rfl, rfl⟩

theorem did_visited (t : Tick σ α) (state : σ) (actions : List (Action α)) :
    (t.did state actions).visited = t.visited ++ actions.filterMap Action.visited :=
  List.filterMap_append

theorem did_decided (t : Tick σ α) (state : σ) (actions : List (Action α)) :
    (t.did state actions).decided = t.decided ++ actions.filterMap Action.decided :=
  List.filterMap_append

theorem did_did (t : Tick σ α) (s u : σ) (first second : List (Action α)) :
    (t.did s first).did u second = t.did u (first ++ second) := by
  simp [Tick.did]

theorem visitItem_actions (h : Handler σ α) (t : Tick σ α) (item : Item α) :
    ∃ state rest, visitItem h t item = t.did state (.visit item :: rest) ∧
      rest.filterMap Action.visited = [] ∧
      rest.filterMap Action.decided = (h.fromUnstructured item).toOption.toList := by
  unfold visitItem
  cases h.fromUnstructured item with
  | error err => exact ⟨_, _, rfl, rfl, rfl⟩
  | ok es =>
    dsimp only
    cases (h.calculateScaleDirection t.state (resolveCooldownPeriod es.spec) es).2 with
    | error err => exact ⟨_, _, did_did t _ _ _ _, rfl, rfl⟩
    | ok direction =>
      cases direction with
      | noScale => exact ⟨_, _, rfl, rfl, rfl⟩
      | scaleDown =>
        have quiet := logErr_quiet (α := α) "failed to scale target to zero"
          (h.handleScaleToZero (h.calculateScaleDirection t.state
            (resolveCooldownPeriod es.spec) es).1 es).2
        exact ⟨_, _, did_did t _ _ _ _, quiet.1, congrArg (es :: ·) quiet.2⟩
      | scaleUp =>
        have quiet := logErr_quiet (α := α) "failed to scale target from zero"
          (h.handleScaleFromZero (h.calculateScaleDirection t.state
            (resolveCooldownPeriod es.spec) es).1 es).2
        exact ⟨_, _, did_did t _ _ _ _, quiet.1, congrArg (es :: ·) quiet.2⟩

theorem visitItem_spec (h : Handler σ α) (t : Tick σ α) (item : Item α) :
    (visitItem h t item).visited = t.visited ++ [item] ∧
      (visitItem h t item).decided = t.decided ++ (h.fromUnstructured item).toOption.toList := by
  obtain ⟨state, rest, same, visits, decisions⟩ := visitItem_actions h t item
  rw [same, did_visited, did_decided]
  constructor
  · simp only [List.filterMap_cons, Action.visited, visits]
  · simp only [List.filterMap_cons, Action.decided, decisions]

theorem visitItems_spec (h : Handler σ α) (items : List (Item α)) (t : Tick σ α) :
    (items.foldl (visitItem h) t).visited = t.visited ++ items ∧
      (items.foldl (visitItem h) t).decided =
        t.decided ++ items.filterMap fun item => (h.fromUnstructured item).toOption := by
  induction items generalizing t with
  | nil => simp
  | cons item rest ih =>
    obtain ⟨visits, decisions⟩ := visitItem_spec h t item
    obtain ⟨restVisits, restDecisions⟩ := ih (visitItem h t item)
    rw [List.foldl_cons, restVisits, restDecisions, visits, decisions]
    constructor
    · simp
    · rw [List.filterMap_cons]
      cases (h.fromUnstructured item).toOption <;> simp

def listed (c : Cluster α) (ns : String) : List (Item α) :=
  match list c ns with
  | .error _ => []
  | .ok items => items

theorem listed_membership (c : Cluster α) (ns : String) (item : Item α) :
    item ∈ listed c ns ↔
      item ∈ c.items ∧ c.listErr ns = none ∧ (ns = namespaceAll ∨ item.ns = ns) := by
  unfold listed list
  cases c.listErr ns <;> simp

theorem visitNamespace_spec (h : Handler σ α) (c : Cluster α) (t : Tick σ α × List ListErr)
    (ns : String) :
    (visitNamespace h c t ns).1.visited = t.1.visited ++ listed c ns ∧
      (visitNamespace h c t ns).1.decided = t.1.decided ++
        (listed c ns).filterMap (fun item => (h.fromUnstructured item).toOption) ∧
      ((visitNamespace h c t ns).2 = [] ↔ t.2 = [] ∧ c.listErr ns = none) := by
  unfold visitNamespace listed list
  cases c.listErr ns with
  | some err => simp
  | none =>
    obtain ⟨visits, decisions⟩ := visitItems_spec h
      (c.items.filter fun item => ns = namespaceAll || item.ns = ns) t.1
    exact ⟨visits, decisions, by simp⟩

theorem visitNamespaces_spec (h : Handler σ α) (c : Cluster α) (names : List String)
    (t : Tick σ α × List ListErr) :
    (names.foldl (visitNamespace h c) t).1.visited = t.1.visited ++ names.flatMap (listed c) ∧
      (names.foldl (visitNamespace h c) t).1.decided = t.1.decided ++
        (names.flatMap (listed c)).filterMap (fun item => (h.fromUnstructured item).toOption) ∧
      ((names.foldl (visitNamespace h c) t).2 = [] ↔
        t.2 = [] ∧ ∀ ns ∈ names, c.listErr ns = none) := by
  induction names generalizing t with
  | nil => simp
  | cons ns rest ih =>
    obtain ⟨visits, decisions, errors⟩ := ih (visitNamespace h c t ns)
    obtain ⟨nsVisits, nsDecisions, nsErrors⟩ := visitNamespace_spec h c t ns
    rw [List.foldl_cons, visits, decisions, errors, nsVisits, nsDecisions, nsErrors]
    constructor
    · simp
    constructor
    · simp
    · rw [List.forall_mem_cons, and_assoc]

theorem listed_nodup (c : Cluster α) (ns : String) : (listed c ns).Nodup := by
  have items : c.items.Nodup := c.distinct.of_map
  unfold listed list
  cases c.listErr ns with
  | some err => exact List.nodup_nil
  | none => exact items.filter _

theorem flatMap_listed_nodup (c : Cluster α) {names : List String} (unique : names.Nodup)
    (named : namespaceAll ∉ names) :
    (names.flatMap (listed c)).Nodup := by
  rw [List.nodup_flatMap]
  constructor
  · intro ns here
    exact listed_nodup c ns
  · refine unique.imp_of_mem ?_
    intro a b hereA hereB different item inA inB
    have ofA := ((listed_membership c a item).mp inA).2.2
    have ofB := ((listed_membership c b item).mp inB).2.2
    rcases ofA with all | ofA
    · exact named (all ▸ hereA)
    rcases ofB with all | ofB
    · exact named (all ▸ hereB)
    exact different (ofA.symm.trans ofB)

theorem listNamespaces_nodup (c : Cluster α) {watch : List String} (unique : watch.Nodup)
    (named : namespaceAll ∉ watch) :
    ((listNamespaces watch).flatMap (listed c)).Nodup := by
  unfold listNamespaces
  split
  · simpa using listed_nodup c namespaceAll
  · exact flatMap_listed_nodup c unique named

/-- The lists the tick asks for cover the reconciler's scope and no more. -/
theorem listed_inScope_iff {watch : List String} (named : namespaceAll ∉ watch) (ns : String)
    (succeeded : String → Prop) :
    (∃ asked ∈ listNamespaces watch, succeeded asked ∧ (asked = namespaceAll ∨ ns = asked)) ↔
      namespaceInScope watch ns = true ∧
        succeeded (if watch = [] then namespaceAll else ns) := by
  by_cases everything : watch = []
  · subst everything
    simp [listNamespaces, namespaceInScope]
  · have confined : ¬ watch.length = 0 := fun none => everything (List.length_eq_zero_iff.mp none)
    simp only [listNamespaces, namespaceInScope, if_neg confined, if_neg everything]
    constructor
    · rintro ⟨asked, watched, ok, all | rfl⟩
      · exact absurd (all ▸ watched) named
      · exact ⟨by simpa using watched, ok⟩
    · rintro ⟨watched, ok⟩
      exact ⟨ns, by simpa using watched, ok, .inr rfl⟩

theorem checkAndScale_spec (h : Handler σ α) (c : Cluster α) (watch : List String) (state : σ) :
    (checkAndScale h c watch state).1.visited = (listNamespaces watch).flatMap (listed c) ∧
      (checkAndScale h c watch state).1.decided =
        ((listNamespaces watch).flatMap (listed c)).filterMap
          (fun item => (h.fromUnstructured item).toOption) ∧
      ((checkAndScale h c watch state).2 = none ↔
        ∀ ns ∈ listNamespaces watch, c.listErr ns = none) := by
  obtain ⟨visits, decisions, errors⟩ :=
    visitNamespaces_spec h c (listNamespaces watch) (⟨state, []⟩, [])
  have unvisited : (⟨state, []⟩ : Tick σ α).visited = [] := rfl
  have undecided : (⟨state, []⟩ : Tick σ α).decided = [] := rfl
  rw [unvisited, List.nil_append] at visits
  rw [undecided, List.nil_append] at decisions
  refine ⟨visits, decisions, ?_⟩
  simpa only [checkAndScale, gt_iff_lt, List.length_pos_iff, ite_eq_right_iff, reduceCtorEq,
    imp_false, ne_eq, not_not, true_and] using errors

theorem mem_listNamespaces_iff (c : Cluster α) {watch : List String} (named : namespaceAll ∉ watch)
    (item : Item α) :
    item ∈ (listNamespaces watch).flatMap (listed c) ↔ item ∈ c.items ∧
      namespaceInScope watch item.ns = true ∧
      c.listErr (if watch = [] then namespaceAll else item.ns) = none := by
  have cover := listed_inScope_iff named item.ns (fun asked => c.listErr asked = none)
  simp only [List.mem_flatMap, listed_membership]
  constructor
  · rintro ⟨asked, listed, here, succeeded, holds⟩
    exact ⟨here, cover.mp ⟨asked, listed, succeeded, holds⟩⟩
  · rintro ⟨here, scope⟩
    obtain ⟨asked, listed, succeeded, holds⟩ := cover.mpr scope
    exact ⟨asked, listed, here, succeeded, holds⟩

/-- One tick over the namespaces mainWithError computes. -/
theorem tick_visits_scope (raw flag operatorNs resolverNs : String) (h : Handler σ α)
    (c : Cluster α) (state : σ) :
    let watch := watchNamespaces raw flag operatorNs resolverNs
    let done := checkAndScale h c watch state
    (∀ ns, ns ∈ watch ↔ Watched raw flag operatorNs resolverNs ns) ∧
      done.1.visited.Nodup ∧
      (∀ item, item ∈ done.1.visited ↔ item ∈ c.items ∧
        namespaceInScope watch item.ns = true ∧
        c.listErr (if watch = [] then namespaceAll else item.ns) = none) ∧
      done.1.decided =
        done.1.visited.filterMap (fun item => (h.fromUnstructured item).toOption) ∧
      (done.2.isSome ↔
        if watch = [] then (c.listErr namespaceAll).isSome
        else ∃ ns ∈ watch, (c.listErr ns).isSome) := by
  intro watch done
  have unique := watchNamespaces_nodup raw flag operatorNs resolverNs
  have named : namespaceAll ∉ watch := all_not_watched raw flag operatorNs resolverNs
  obtain ⟨visits, decisions, errors⟩ := checkAndScale_spec h c watch state
  refine ⟨watchNamespaces_member raw flag operatorNs resolverNs, ?_, ?_, ?_, ?_⟩
  · rw [visits]
    exact listNamespaces_nodup c unique named
  · intro item
    rw [visits]
    exact mem_listNamespaces_iff c named item
  · rw [visits]
    exact decisions
  · rw [Option.isSome_iff_ne_none, ne_eq, errors]
    by_cases everything : watch = []
    · simp [everything, listNamespaces, Option.isSome_iff_ne_none]
    · simp [everything, listNamespaces, Option.isSome_iff_ne_none]

end WatchScope
