import Elasti.InformerSteps

/- Which informers run, and who knows of them. An informer runs from the step of Add that
   starts it until its stop channel is closed. -/
namespace InformerLeaks
open GuardedRuns ThreadPool InformerManager

def Runs (m : Manager) (l : Maker) (key : String) (ch : Nat) : Prop :=
  addKey l.call = some key ∧ l.made = some ch ∧ m.closes ch = 0

def inProgress : Call → Bool
  | .add _ (.returned _) => false
  | .add _ _ => true
  | _ => false

def OneRunning (c : Makers) : Prop :=
  ∀ (i j : Nat) l n key ch d, c.threads[i]? = some l → c.threads[j]? = some n →
    Runs c.shared l key ch → Runs c.shared n key d → i = j

def Recorded (c : Makers) : Prop :=
  ∀ l ∈ c.threads, ∀ key ch, Runs c.shared l key ch →
    c.shared.informers key = some ch ∨ inProgress l.call = true

def Cleaned (c : Makers) : Prop :=
  ∀ l ∈ c.threads, ∀ req text ch, l.call = .add req (.returned (some text)) → l.made = some ch →
    c.shared.closes ch ≠ 0 ∧ ∀ key, c.shared.informers key ≠ some ch

def StopsOwn (c : Makers) : Prop :=
  ∀ l ∈ c.threads, ∀ req ch, l.call = .add req (.close ch) → l.made = some ch

/-- When an Add starts its informer, the map has no entry of its key and no other Add of the
    key is between its lookup and its return. When it stores it, no call is between its
    decision to stop the key's informer and its delete of the entry. -/
def Uncrossed (c : Makers) : Move → Prop
  | .thread i a =>
    ∀ l ∈ c.threads[i]?,
      (∀ key ∈ starts l.call a, c.shared.informers key = none ∧
        ∀ n ∈ c.threads.eraseIdx i, adding n.call ≠ some key) ∧
      ∀ key ∈ stores l.call a, ∀ n ∈ c.threads, ∀ p ∈ pending n.call, p.1 ≠ key
  | .world _ => True

instance (c : Makers) (e : Move) : Decidable (Uncrossed c e) :=
  match e with
  | .thread i a => by
    dsimp only [Uncrossed]
    infer_instance
  | .world _ => .isTrue trivial

def MadeAs (m : Manager) (l : Maker) : Prop :=
  match l.call with
  | .add _ (.store ch) | .add _ (.sync ch) | .add _ (.close ch) => l.made = some ch
  | .add _ .delete | .add _ (.returned (some _)) => ∀ ch ∈ l.made, m.closes ch ≠ 0
  | .add _ (.returned none) => True
  | _ => l.made = none

theorem madeAs_kept {m n : Manager} (closed : ∀ ch, m.closes ch ≠ 0 → n.closes ch ≠ 0) {l : Maker}
    (before : MadeAs m l) : MadeAs n l := by
  unfold MadeAs at before ⊢
  split at before
  any_goals exact before
  all_goals exact fun ch made => closed ch (before ch made)

theorem madeAs_unstarted {m : Manager} {req : RequestWatch} {pc : AddPc} {made : Option Nat}
    (first : unstarted pc = true) : MadeAs m ⟨.add req pc, made⟩ ↔ made = none := by
  cases pc with
  | load | verify | enable => exact Iff.rfl
  | _ => cases first

theorem madeAs_stop {m : Manager} {l : Call} {made : Option Nat} (stop : addKey l = none) :
    MadeAs m ⟨l, made⟩ ↔ made = none := by
  cases l with
  | add => cases stop
  | _ => exact Iff.rfl

theorem madeAs_own {m n : Manager} {l : Maker} {k : Call} {a : Answer} (before : MadeAs m l)
    (effect : Effect m l.call a n k) : MadeAs n ⟨k, madeAfter m l a⟩ := by
  obtain ⟨call, made⟩ := l
  dsimp only at effect
  cases effect with
  | early req pc next _ first after still =>
    have none_made : made = none := (madeAs_unstarted first).mp before
    rw [madeAfter_same still, none_made]
    rcases after with later | ⟨err, rfl⟩
    · exact (madeAs_unstarted later).mpr rfl
    · cases err with
      | none => trivial
      | some text =>
        intro ch impossible
        cases impossible
  | enable => rfl
  | store | unsynced => exact before
  | synced => trivial
  | close req ch =>
    have own : made = some ch := before
    intro d mine
    rw [madeAfter_same rfl, own] at mine
    cases mine
    rw [close_closes, if_pos rfl]
    exact Nat.succ_ne_zero _
  | delete => exact before
  | stop _ _ _ _ stopping stopped =>
    rw [madeAfter_same (starts_stop a stopping)]
    exact (madeAs_stop stopped).mpr ((madeAs_stop stopping).mp before)

def Published (threads : List Maker) (ch : Nat) : Prop :=
  ∃ l ∈ threads, l.made = some ch ∧ published l.call = true

/-- What holds of the informers in every run. An informer is its Add's alone until the Add has
    stored it: what is in the map, closed or about to be closed has been stored. -/
structure Traced (c : Makers) : Prop where
  below : ∀ l ∈ c.threads, ∀ ch ∈ l.made, ch < c.shared.next
  distinct : ∀ (i j : Nat) l n ch, c.threads[i]? = some l → c.threads[j]? = some n →
    l.made = some ch → n.made = some ch → i = j
  stage : ∀ l ∈ c.threads, MadeAs c.shared l
  entry : ∀ key ch, c.shared.informers key = some ch →
    ∃ l ∈ c.threads, addKey l.call = some key ∧ l.made = some ch ∧ published l.call = true
  known : ∀ l ∈ c.threads, ∀ key ch, (key, some ch) ∈ pending l.call → Published c.threads ch
  closed : ∀ ch, c.shared.closes ch ≠ 0 → Published c.threads ch
  removed : ∀ l ∈ c.threads, ∀ req text ch, l.call = .add req (.returned (some text)) →
    l.made = some ch → ∀ key, c.shared.informers key ≠ some ch

theorem Traced.maker {c : Makers} (traced : Traced c) {l o : Maker} {ch : Nat}
    (here : l ∈ c.threads) (member : o ∈ c.threads) (mine : l.made = some ch)
    (theirs : o.made = some ch) : o = l := by
  obtain ⟨i, at_i⟩ := List.mem_iff_getElem?.mp here
  obtain ⟨j, at_j⟩ := List.mem_iff_getElem?.mp member
  rw [traced.distinct j i o l ch at_j at_i theirs mine, at_i] at at_j
  exact (Option.some.inj at_j).symm

section Traced
variable {c : Makers} {i : Nat} {l : Maker} {a : Answer} {n : Manager} {k : Call}

theorem publisher_kept (here : c.threads[i]? = some l) (effect : Effect c.shared l.call a n k)
    {o : Maker} (member : o ∈ c.threads) (stored : published o.call = true) :
    ∃ p ∈ c.threads.set i ⟨k, madeAfter c.shared l a⟩,
      addKey p.call = addKey o.call ∧ p.made = o.made ∧ published p.call = true := by
  rcases mover_or_stays here member with rfl | stays
  · exact ⟨_, set_here here, effect_addKey effect, madeAfter_same (starts_published a stored),
      effect_published effect stored⟩
  · exact ⟨o, stays, rfl, rfl, stored⟩

theorem published_kept (here : c.threads[i]? = some l) (effect : Effect c.shared l.call a n k)
    {ch : Nat} (before : Published c.threads ch) :
    Published (c.threads.set i ⟨k, madeAfter c.shared l a⟩) ch := by
  obtain ⟨o, member, made, stored⟩ := before
  obtain ⟨p, later, -, same, still⟩ := publisher_kept here effect member stored
  exact ⟨p, later, same.trans made, still⟩

variable (traced : Traced c) (here : c.threads[i]? = some l)
include traced here

theorem distinct_step (j r : Nat) (o q : Maker) (ch : Nat)
    (at_j : (c.threads.set i ⟨k, madeAfter c.shared l a⟩)[j]? = some o)
    (at_r : (c.threads.set i ⟨k, madeAfter c.shared l a⟩)[r]? = some q)
    (first : o.made = some ch) (second : q.made = some ch) : j = r := by
  -- nobody else has made what the mover has made
  have alone : ∀ (s : Nat) p, s ≠ i → c.threads[s]? = some p → p.made = some ch →
      madeAfter c.shared l a ≠ some ch := by
    intro s p away at_s theirs mine
    cases begun : starts l.call a with
    | none =>
      rw [madeAfter_same begun] at mine
      exact away (traced.distinct s i p l ch at_s here theirs mine)
    | some key =>
      rw [(madeAfter_new begun).1] at mine
      cases mine
      exact absurd (traced.below p (List.mem_of_getElem? at_s) _ theirs) (lt_irrefl _)
  exact unique_set (fun p => p.made = some ch) (fun s t p q => traced.distinct s t p q ch) alone
    at_j at_r first second

variable (effect : Effect c.shared l.call a n k)
include effect

theorem below_step : ∀ o ∈ c.threads.set i ⟨k, madeAfter c.shared l a⟩, ∀ ch ∈ o.made,
    ch < n.next := by
  have more := effect_next effect
  have old : ∀ o ∈ c.threads, ∀ ch ∈ o.made, ch < n.next :=
    fun o member ch made => lt_of_lt_of_le (traced.below o member ch made) more
  intro o member ch made
  rcases List.mem_or_eq_of_mem_set member with other | rfl
  · exact old o other ch made
  · cases begun : starts l.call a with
    | none =>
      rw [madeAfter_same begun] at made
      exact old l (List.mem_of_getElem? here) ch made
    | some key =>
      obtain ⟨rfl, -⟩ := effect_starts effect begun
      rw [(madeAfter_new begun).1] at made
      cases made
      exact Nat.lt_succ_self _

theorem stage_step : ∀ o ∈ c.threads.set i ⟨k, madeAfter c.shared l a⟩, MadeAs n o := by
  intro o member
  rcases List.mem_or_eq_of_mem_set member with other | rfl
  · exact madeAs_kept (fun ch => still_closed effect) (traced.stage o other)
  · exact madeAs_own (traced.stage l (List.mem_of_getElem? here)) effect

theorem entry_step (key : String) (ch : Nat) (held : n.informers key = some ch) :
    ∃ o ∈ c.threads.set i ⟨k, madeAfter c.shared l a⟩,
      addKey o.call = some key ∧ o.made = some ch ∧ published o.call = true := by
  rcases effect_informers effect held with old | ⟨req, at_store, rfl, rfl⟩
  · obtain ⟨o, member, keyed, made, stored⟩ := traced.entry key ch old
    obtain ⟨p, later, sameKey, sameMade, still⟩ := publisher_kept here effect member stored
    exact ⟨p, later, sameKey.trans keyed, sameMade.trans made, still⟩
  · have made := stage_step traced here effect _ (set_here here)
    exact ⟨_, set_here here, rfl, made, rfl⟩

theorem known_step : ∀ o ∈ c.threads.set i ⟨k, madeAfter c.shared l a⟩, ∀ key ch,
    (key, some ch) ∈ pending o.call →
      Published (c.threads.set i ⟨k, madeAfter c.shared l a⟩) ch := by
  intro o member key ch mine
  rcases List.mem_or_eq_of_mem_set member with other | rfl
  · exact published_kept here effect (traced.known o other key ch mine)
  · have mover := List.mem_of_getElem? here
    rcases effect_pending effect mine with before | ⟨q, d, same, held | ⟨req, at_sync, -⟩⟩ |
      ⟨q, d, closed, -⟩
    · exact published_kept here effect (traced.known l mover key ch before)
    · cases same
      obtain ⟨o, member, -, made, stored⟩ := traced.entry key ch held
      exact published_kept here effect ⟨o, member, made, stored⟩
    · cases same
      have made := traced.stage l mover
      rw [MadeAs, at_sync] at made
      exact published_kept here effect ⟨l, mover, made, by rw [at_sync]; rfl⟩
    · cases closed

theorem closed_step (ch : Nat) (closed : n.closes ch ≠ 0) :
    Published (c.threads.set i ⟨k, madeAfter c.shared l a⟩) ch := by
  rcases effect_closes effect ch with same | ⟨⟨key, mine⟩, -⟩
  · exact published_kept here effect (traced.closed ch (same ▸ closed))
  · exact published_kept here effect (traced.known l (List.mem_of_getElem? here) key ch mine)

theorem removed_own {req : RequestWatch} {text : String}
    (failed : k = .add req (.returned (some text)))
    {ch : Nat} (made : madeAfter c.shared l a = some ch) (key : String) :
    n.informers key ≠ some ch := by
  -- the delete at the end of a failed Add takes its informer out of the map, since nobody else
  -- has stored it
  subst failed
  have mover := List.mem_of_getElem? here
  have stage := traced.stage l mover
  rcases effect_fails effect with ⟨pc, at_pc, first, still⟩ | ⟨at_delete, rfl, rfl⟩
  · obtain ⟨call, mine⟩ := l
    cases at_pc
    rw [madeAfter_same still, (madeAs_unstarted first).mp stage] at made
    cases made
  · intro held
    obtain ⟨other, before⟩ := delete_held held
    obtain ⟨p, member, keyed, theirs, -⟩ := traced.entry key ch before
    rw [madeAfter_same (by rw [at_delete]; rfl)] at made
    rw [traced.maker mover member made theirs, at_delete] at keyed
    exact other (Option.some.inj keyed).symm

theorem removed_step : ∀ o ∈ c.threads.set i ⟨k, madeAfter c.shared l a⟩, ∀ req text ch,
    o.call = .add req (.returned (some text)) → o.made = some ch →
      ∀ key, n.informers key ≠ some ch := by
  intro o member req text ch failed made key
  rcases set_member member with rfl | ⟨j, away, at_j⟩
  · exact removed_own traced here effect failed made key
  · intro held
    rcases effect_informers effect held with old | ⟨_, at_store, -, -⟩
    · exact traced.removed o (List.mem_of_getElem? at_j) req text ch failed made key old
    · have mine := traced.stage l (List.mem_of_getElem? here)
      rw [MadeAs, at_store] at mine
      exact away (traced.distinct j i o l ch at_j here made mine)

theorem traced_step : Traced ⟨n, c.threads.set i ⟨k, madeAfter c.shared l a⟩⟩ where
  below := below_step traced here effect
  distinct := distinct_step traced here
  stage := stage_step traced here effect
  entry := entry_step traced here effect
  known := known_step traced here effect
  closed := closed_step traced here effect
  removed := removed_step traced here effect

end Traced

/-- What holds while no two calls cross. An Add that has started its informer is the only one
    of its key until it returns; an entry that a call is to delete is of the channel it closes
    first or of one that is closed. -/
structure Tidy (c : Makers) : Prop where
  alone : ∀ (i j : Nat) l n key, c.threads[i]? = some l → c.threads[j]? = some n →
    started l.call = some key → started n.call = some key → i = j
  vacant : ∀ l ∈ c.threads, ∀ req ch, l.call = .add req (.store ch) →
    c.shared.informers (getKeyFromRequestWatch req) = none
  synced : ∀ l ∈ c.threads, ∀ req ch, l.call = .add req (.sync ch) →
    ∀ d ∈ c.shared.informers (getKeyFromRequestWatch req), d = ch
  stopped : ∀ l ∈ c.threads, ∀ p ∈ pending l.call, ∀ d ∈ c.shared.informers p.1,
    p.2 = some d ∨ c.shared.closes d ≠ 0
  held : ∀ l ∈ c.threads, ∀ key ch, Runs c.shared l key ch →
    c.shared.informers key = some ch ∨ ∃ req, l.call = .add req (.store ch)

theorem one_running {c : Makers} (traced : Traced c) (tidy : Tidy c) : OneRunning c := by
  -- two running informers of a key would both be in its entry, or one of them would be about to
  -- be stored where there is an entry or another is about to be stored
  intro i j l n key ch d at_i at_j first second
  have here := List.mem_of_getElem? at_i
  have there := List.mem_of_getElem? at_j
  have keyed {o : Maker} {q : String} {e : Nat} {req : RequestWatch}
      (runs : Runs c.shared o q e) (at_store : o.call = .add req (.store e)) :
      getKeyFromRequestWatch req = q := by
    have own := runs.1
    rw [at_store] at own
    exact Option.some.inj own
  rcases tidy.held l here key ch first with mine | ⟨req, at_store⟩
  · rcases tidy.held n there key d second with theirs | ⟨req, at_store⟩
    · rw [mine] at theirs
      cases theirs
      exact traced.distinct i j l n ch at_i at_j first.2.1 second.2.1
    · have empty := tidy.vacant n there req d at_store
      rw [keyed second at_store, mine] at empty
      cases empty
  · rcases tidy.held n there key d second with theirs | ⟨req', then_store⟩
    · have empty := tidy.vacant l here req ch at_store
      rw [keyed first at_store, theirs] at empty
      cases empty
    · refine tidy.alone i j l n key at_i at_j ?_ ?_
      · rw [at_store, ← keyed first at_store]
        rfl
      · rw [then_store, ← keyed second then_store]
        rfl

theorem other_not_started {c : Makers} (tidy : Tidy c) {i j : Nat} {l o : Maker}
    (here : c.threads[i]? = some l) {req : RequestWatch} {d : Nat}
    (at_store : l.call = .add req (.store d)) (away : j ≠ i) (at_j : c.threads[j]? = some o) :
    started o.call ≠ some (getKeyFromRequestWatch req) := by
  intro theirs
  have mine : started l.call = some (getKeyFromRequestWatch req) := by
    rw [at_store]
    rfl
  exact away (tidy.alone j i o l _ at_j here theirs mine)

section Tidy
variable {c : Makers} {i : Nat} {l : Maker} {a : Answer} {n : Manager} {k : Call}
  (effect : Effect c.shared l.call a n k)
include effect

theorem runs_other {o : Maker} {key : String} {ch : Nat} (runs : Runs n o key ch) :
    Runs c.shared o key ch := by
  obtain ⟨keyed, made, opened⟩ := runs
  refine ⟨keyed, made, ?_⟩
  by_contra closed
  exact still_closed effect closed opened

theorem runs_own {key : String} {ch : Nat} (runs : Runs n ⟨k, madeAfter c.shared l a⟩ key ch) :
    Runs c.shared l key ch ∨ starts l.call a = some key := by
  obtain ⟨keyed, made, opened⟩ := runs
  have before : addKey l.call = some key := (effect_addKey effect).symm.trans keyed
  cases begun : starts l.call a with
  | none =>
    have mine : l.made = some ch := (madeAfter_same begun).symm.trans made
    exact .inl (runs_other effect ⟨before, mine, opened⟩)
  | some started =>
    right
    rw [← before]
    exact (madeAfter_new (m := c.shared) begun).2.symm

variable (tidy : Tidy c) (here : c.threads[i]? = some l)
include tidy here

theorem synced_step : ∀ o ∈ c.threads.set i ⟨k, madeAfter c.shared l a⟩, ∀ req ch,
    o.call = .add req (.sync ch) → ∀ d ∈ n.informers (getKeyFromRequestWatch req), d = ch := by
  intro o member req ch at_sync d entry
  rcases set_member member with rfl | ⟨j, away, at_j⟩
  · dsimp only at at_sync
    subst at_sync
    have before := effect_at_sync effect
    rw [before] at effect
    obtain ⟨-, rfl, -⟩ := effect_store effect
    simpa [Manager.store, eq_comm] using entry
  · rcases effect_informers effect entry with old | ⟨req', before, -, same⟩
    · exact tidy.synced o (List.mem_of_getElem? at_j) req ch at_sync d old
    · refine absurd ?_ (other_not_started tidy here before away at_j)
      rw [at_sync, ← same]
      rfl

theorem entry_stays {o : Maker} {key : String} {ch : Nat}
    (runs : Runs c.shared o key ch) (held : c.shared.informers key = some ch) :
    n.informers key = some ch := by
  have mover := List.mem_of_getElem? here
  rcases effect_entry effect held with stays | gone | ⟨req, d, at_store, rfl⟩
  · exact stays
  · rcases tidy.stopped l mover _ gone ch held with impossible | closed
    · cases impossible
    · exact absurd runs.2.2 closed
  · rw [tidy.vacant l mover req d at_store] at held
    cases held

theorem held_step : ∀ o ∈ c.threads.set i ⟨k, madeAfter c.shared l a⟩, ∀ key ch, Runs n o key ch →
    n.informers key = some ch ∨ ∃ req, o.call = .add req (.store ch) := by
  intro o member key ch runs
  rcases List.mem_or_eq_of_mem_set member with other | rfl
  · have before := runs_other effect runs
    rcases tidy.held o other key ch before with held | at_store
    · exact .inl (entry_stays effect tidy here before held)
    · exact .inr at_store
  · rcases runs_own effect runs with ran | begun
    · left
      rcases tidy.held l (List.mem_of_getElem? here) key ch ran with held | ⟨req, at_store⟩
      · exact entry_stays effect tidy here ran held
      · have keyed := ran.1
        rw [at_store] at effect keyed
        rw [(effect_store effect).2.1, ← Option.some.inj keyed]
        simp [Manager.store]
    · obtain ⟨-, req, at_store⟩ := effect_starts effect begun
      have made := runs.2.1
      rw [(madeAfter_new begun).1] at made
      cases made
      exact .inr ⟨req, at_store⟩

variable (meets : Uncrossed c (.thread i a))
include meets

theorem alone_step (j r : Nat) (o q : Maker) (key : String)
    (at_j : (c.threads.set i ⟨k, madeAfter c.shared l a⟩)[j]? = some o)
    (at_r : (c.threads.set i ⟨k, madeAfter c.shared l a⟩)[r]? = some q)
    (first : started o.call = some key) (second : started q.call = some key) : j = r := by
  refine unique_set (fun p => started p.call = some key)
    (fun s t p q => tidy.alone s t p q key) ?_ at_j at_r first second
  intro s p away at_s theirs mine
  rcases effect_started effect mine with before | begun
  · exact away (tidy.alone s i p l key at_s here theirs before)
  · refine ((meets l here).1 key begun).2 p ?_ (started_adding theirs)
    exact List.mem_eraseIdx_iff_getElem?.mpr ⟨s, away, at_s⟩

theorem vacant_step : ∀ o ∈ c.threads.set i ⟨k, madeAfter c.shared l a⟩, ∀ req ch,
    o.call = .add req (.store ch) → n.informers (getKeyFromRequestWatch req) = none := by
  intro o member req ch at_store
  cases entry : n.informers (getKeyFromRequestWatch req) with
  | none => rfl
  | some d =>
    exfalso
    rcases effect_informers effect entry with old | ⟨req', before, after, same⟩
    · rcases set_member member with rfl | ⟨j, -, at_j⟩
      · dsimp only at at_store
        subst at_store
        have empty := ((meets l here).1 _ (effect_at_store effect)).1
        rw [old] at empty
        cases empty
      · have empty := tidy.vacant o (List.mem_of_getElem? at_j) req ch at_store
        rw [old] at empty
        cases empty
    · rcases set_member member with rfl | ⟨j, away, at_j⟩
      · rw [after] at at_store
        cases at_store
      · refine other_not_started tidy here before away at_j ?_
        rw [at_store, ← same]
        rfl

theorem stopped_step : ∀ o ∈ c.threads.set i ⟨k, madeAfter c.shared l a⟩, ∀ p ∈ pending o.call,
    ∀ d ∈ n.informers p.1, p.2 = some d ∨ n.closes d ≠ 0 := by
  intro o member p mine d entry
  have kept {q : Maker} (known : q ∈ c.threads) (was : p ∈ pending q.call)
      (old : c.shared.informers p.1 = some d) : p.2 = some d ∨ n.closes d ≠ 0 :=
    (tidy.stopped q known p was d old).imp id (still_closed effect)
  rcases effect_informers effect entry with old | ⟨req, before, after, same⟩
  · rcases List.mem_or_eq_of_mem_set member with other | rfl
    · exact kept other mine old
    · have mover := List.mem_of_getElem? here
      rcases effect_pending effect mine with was | ⟨key, ch, rfl, held | ⟨req, at_sync, rfl⟩⟩ |
        ⟨key, ch, rfl, was, rfl⟩
      · exact kept mover was old
      · rw [held] at old
        exact .inl old
      · exact .inl (congrArg some (tidy.synced l mover req ch at_sync d old).symm)
      · right
        rcases tidy.stopped l mover _ was d old with own | closed
        · cases own
          rw [close_closes, if_pos rfl]
          exact Nat.succ_ne_zero _
        · exact still_closed effect closed
  · -- nothing of the key is pending when an Add stores it
    rw [before] at effect
    obtain ⟨rfl, -, -⟩ := effect_store effect
    have none_pending := (meets l here).2 (getKeyFromRequestWatch req) (by rw [before]; rfl)
    rcases List.mem_or_eq_of_mem_set member with other | rfl
    · exact absurd same (none_pending o other p mine)
    · dsimp only at mine
      rw [after] at mine
      cases mine

theorem tidy_step : Tidy ⟨n, c.threads.set i ⟨k, madeAfter c.shared l a⟩⟩ where
  alone := alone_step effect tidy here meets
  vacant := vacant_step effect tidy here meets
  synced := synced_step effect tidy here
  stopped := stopped_step effect tidy here meets
  held := held_step effect tidy here

end Tidy

theorem traced_keep {c d : Makers} {e : Move} (traced : Traced c)
    (move : makersStep c e = some d) : Traced d := by
  cases e with
  | thread i a =>
    obtain ⟨l, n, k, here, effect, rfl⟩ := makersStep_effect move
    exact traced_step traced here effect
  | world e => exact e.elim

theorem tidy_keep {c d : Makers} {e : Move} (tidy : Tidy c) (meets : Uncrossed c e)
    (move : makersStep c e = some d) : Tidy d := by
  cases e with
  | thread i a =>
    obtain ⟨l, n, k, here, effect, rfl⟩ := makersStep_effect move
    exact tidy_step effect tidy here meets
  | world e => exact e.elim

section Start
variable {calls : List Call} (begun : ∀ l ∈ calls, fresh l = true)

theorem made_start {l : Maker} (member : l ∈ (makers calls).threads) : l.made = none := by
  obtain ⟨call, -, rfl⟩ := List.mem_map.mp member
  rfl

include begun

theorem idle_start {l : Maker} (member : l ∈ (makers calls).threads) :
    MadeAs newManager l ∧ pending l.call = [] ∧ started l.call = none := by
  obtain ⟨call, found, rfl⟩ := List.mem_map.mp member
  have first := begun call found
  unfold fresh at first
  split at first <;> first | exact ⟨rfl, rfl, rfl⟩ | cases first

theorem traced_start : Traced (makers calls) := by
  constructor
  · intro l member ch made
    rw [made_start member] at made
    cases made
  · intro i j l n ch at_i _ made
    rw [made_start (List.mem_of_getElem? at_i)] at made
    cases made
  · intro l member
    exact (idle_start begun member).1
  · intro key ch held
    cases held
  · intro l member key ch mine
    rw [(idle_start begun member).2.1] at mine
    cases mine
  · intro ch closed
    exact absurd rfl closed
  · intro l _ req text ch _ _ key held
    cases held

theorem tidy_start : Tidy (makers calls) := by
  constructor
  · intro i j l n key at_i _ first
    rw [(idle_start begun (List.mem_of_getElem? at_i)).2.2] at first
    cases first
  · intro l _ req ch _
    rfl
  · intro l _ req ch _ d held
    cases held
  · intro l _ p _ d held
    cases held
  · intro l member key ch runs
    have made := runs.2.1
    rw [made_start member] at made
    cases made

end Start

theorem cleaned {c : Makers} (traced : Traced c) : Cleaned c := by
  intro l member req text ch failed made
  have stage := traced.stage l member
  rw [MadeAs, failed] at stage
  exact ⟨stage ch made, traced.removed l member req text ch failed made⟩

theorem stopsOwn {c : Makers} (traced : Traced c) : StopsOwn c := by
  intro l member req ch at_close
  have stage := traced.stage l member
  rw [MadeAs, at_close] at stage
  exact stage

theorem recorded {c : Makers} (tidy : Tidy c) : Recorded c := by
  intro l member key ch runs
  rcases tidy.held l member key ch runs with held | ⟨req, at_store⟩
  · exact .inl held
  · right
    rw [at_store]
    rfl

/-- Calls on a manager without informers run one informer of each key at a time, which is in
    the map or belongs to an Add in progress, and a failed Add leaves nothing behind, when no
    call crosses the start or the store of an Add. -/
theorem informers_tidy (calls : List Call) (begun : ∀ l ∈ calls, fresh l = true) (c : Makers)
    (reach : Reach makersStep Uncrossed (makers calls) c) :
    OneRunning c ∧ Recorded c ∧ Cleaned c ∧ StopsOwn c := by
  have both := reach_invariant (fun c => Traced c ∧ Tidy c) ⟨traced_start begun, tidy_start begun⟩
    (fun _ _ _ inv meets move => ⟨traced_keep inv.1 move, tidy_keep inv.2 meets move⟩) reach
  obtain ⟨traced, tidy⟩ := both
  exact ⟨one_running traced tidy, recorded tidy, cleaned traced, stopsOwn traced⟩

def addsAndStop : List Call :=
  [.add cartService .load, .add cartService .load,
    .stopInformer (getKeyFromRequestWatch cartService) .load, .add cartService .load]

def failThenSucceed : List Move :=
  untilSync ++ [.thread 0 .timeout, .thread 0 .ok, .thread 1 .ok, .thread 0 .ok] ++
    List.replicate 4 (.thread 3 .ok) ++ [.thread 2 .ok, .thread 3 .ok]

theorem failed_add_then_another :
    ∃ c, Reach makersStep Uncrossed (makers addsAndStop) c ∧
      c.threads.map Maker.made = [some 0, none, none, some 1] ∧
      c.threads.map (fun l => pending l.call) =
        [[], [], [(getKeyFromRequestWatch cartService, some 1)], []] ∧
      c.shared.closes 0 = 1 ∧ c.shared.closes 1 = 0 ∧
      OneRunning c ∧ Recorded c ∧ Cleaned c ∧ StopsOwn c := by
  have ends : ∃ c, Reach makersStep Uncrossed (makers addsAndStop) c ∧
      c.threads.map Maker.made = [some 0, none, none, some 1] ∧
      c.threads.map (fun l => pending l.call) =
        [[], [], [(getKeyFromRequestWatch cartService, some 1)], []] ∧
      c.shared.closes 0 = 1 ∧ c.shared.closes 1 = 0 :=
    ⟨_, reach_of_guardedRun failThenSucceed rfl, by decide +kernel⟩
  obtain ⟨c, reach, made, waits, first, second⟩ := ends
  exact ⟨c, reach, made, waits, first, second,
    informers_tidy addsAndStop (by decide) c reach⟩

def twoAdds : List Call := [.add cartService .load, .add cartService .load]

def sideBySide : List Move :=
  (List.replicate 5 [.thread 0 .ok, .thread 1 .ok]).flatten

/-- Both Adds find no informer of the key and start one. Both run, and the first, whose entry
    is stored over, can no longer be stopped. -/
theorem two_adds_leak :
    ∃ c, Reach makersStep Unguarded (makers twoAdds) c ∧ ¬ OneRunning c ∧ ¬ Recorded c := by
  have ends : ∃ c, Reach makersStep Unguarded (makers twoAdds) c ∧
      c.threads = [⟨.add cartService (.returned none), some 0⟩,
        ⟨.add cartService (.returned none), some 1⟩] ∧
      c.shared.closes 0 = 0 ∧ c.shared.closes 1 = 0 ∧
      c.shared.informers (getKeyFromRequestWatch cartService) = some 1 :=
    reaches_of_run sideBySide (by decide +kernel)
  obtain ⟨c, reach, threads, first, second, held⟩ := ends
  refine ⟨c, reach, ?_, ?_⟩
  · intro one
    have same := one 0 1 _ _ _ 0 1 (by rw [threads]; rfl) (by rw [threads]; rfl) ⟨rfl, rfl, first⟩
      ⟨rfl, rfl, second⟩
    cases same
  · intro all
    rcases all _ (by rw [threads]; exact List.mem_cons_self) _ 0 ⟨rfl, rfl, first⟩ with here | busy
    · rw [held] at here
      cases here
    · cases busy

end InformerLeaks
