/-
# State.View — what a root durably says, and its files

A `View` is the abstract state of a root: the chain of decisions that became active, the
decision that waits for its time and the distribution state.  A commit of the owner takes
a view to the `next` one in a single step.

On the disk this is many steps over two trees and two pointers.  `Kept` says which disks
stand for a view; the pointer to the active decision may be one decision behind, and then
the journal is what says which one is active.  The theorems connect the two levels:

* `write_meets`: a commit goes from the files of a view to those of the next view, and
  wherever it stops the files stand for one of the two;
* `openState_meets`: opening reads exactly the view that the files stand for.
-/
import Ardents.State.Owner

namespace Ardents.State

open Lib Program

set_option autoImplicit false

structure View where
  chain : List Decision
  pending : Option Decision
  journal : DistributionState

/-- The name of the newest decision of a chain. -/
def newestName (chain : List Decision) : Option Digest := chain.head?.map (·.epoch.digest)

namespace View

/-- A root on which nothing was decided. -/
def fresh : View := ⟨[], none, DistributionState.zero⟩

/-- The active Epoch. -/
def head (view : View) : Option EpochEnvelope := view.chain.head?.map Decision.epoch

/-- What a commit makes of a view. -/
def next (view : View) : Request → View
  | .nothing => view
  | .control state => { view with journal := state }
  | .active decision state => ⟨decision :: view.chain, none, activated state decision⟩
  | .staged decision state => ⟨view.chain, some decision, state⟩

/-- The owner that shows a view. -/
def owner (view : View) (plan : SourcePlan) (now : Time) : NetworkState :=
  { plan, now, current := view.chain.head?, pending := view.pending, distribution := view.journal
    wave := none }

end View

/-- A decision that follows the active Epoch, and is not taken for it. -/
structure EpochPolicy.Follows (policy : EpochPolicy) (head : Option EpochEnvelope) (decision : Decision) :
    Prop where
  verified : policy.Verified decision
  extends_ : Extends head decision.epoch
  apart : ∀ epoch, head = some epoch → decision.epoch.digest ≠ epoch.digest

structure View.Valid (policy : EpochPolicy) (view : View) : Prop where
  linked : policy.Linked view.chain
  floor : view.journal.epochFloor = (view.head.map EpochEnvelope.number).getD 0
  digest : view.journal.epochDigest = (view.head.map EpochEnvelope.digest).getD Digest.zero
  time : ∀ epoch, view.head = some epoch → epoch.validFrom ≤ view.journal.trustedTimeFloor
  follows : ∀ waiting, view.pending = some waiting → policy.Follows view.head waiting
  pendingDigest : view.journal.pendingDigest = (view.pending.map (·.epoch.digest)).getD Digest.zero
  pendingValidFrom : ∀ waiting, view.pending = some waiting →
    view.journal.pendingValidFrom = waiting.epoch.validFrom

/-- The journal holds the distribution state of a view. -/
def Written (policy : EpochPolicy) (tree : ControlTree) (view : View) : Prop :=
  Unpointed tree ∧ view = View.fresh ∨
    Settled tree (policy.distributionDigest (encodeDistributionState view.journal))
      (encodeDistributionState view.journal)

/-- The generations hold the decisions of a view. -/
structure Holding (tree : StateTree) (view : View) : Prop where
  chain : ∀ decision ∈ view.chain, tree.generations.find decision.epoch.digest = some decision.stored
  pending : ∀ waiting, view.pending = some waiting →
    tree.generations.find waiting.epoch.digest = some waiting.stored

/-- The files stand for a view. -/
structure Kept (policy : EpochPolicy) (disk : Disk) (view : View) : Prop where
  valid : view.Valid policy
  holding : Holding disk.state view
  staging : disk.state.staging.length ≤ 1
  temporaries : disk.state.temporaries.length ≤ 1
  pointer : disk.state.current = newestName view.chain ∨ disk.state.current = newestName view.chain.tail
  written : Written policy disk.control view

/-- The files between two commits of a process. -/
structure Synced (policy : EpochPolicy) (disk : Disk) (view : View) : Prop where
  kept : Kept policy disk view
  pointer : disk.state.current = newestName view.chain
  state : Clean disk.state
  control : Clean disk.control
  unborn : disk.control.current = none → disk.control.generations.size = 0

section Files

variable {policy : EpochPolicy} {disk : Disk} {view : View}

theorem valid_fresh : View.fresh.Valid policy :=
  ⟨trivial, rfl, rfl, nofun, nofun, rfl, nofun⟩

theorem synced_empty : Synced policy Disk.empty View.fresh where
  kept := ⟨valid_fresh, ⟨nofun, nofun⟩, by decide, by decide, .inl rfl,
    .inl ⟨⟨rfl, by decide, by decide, by decide⟩, rfl⟩⟩
  pointer := rfl
  state := ⟨rfl, rfl⟩
  control := ⟨rfl, rfl⟩
  unborn := fun _ => rfl

/-! ## Generations -/

/-- No generation is lost. -/
def Grows (tree tree' : StateTree) : Prop :=
  ∀ name generation, tree.generations.find name = some generation →
    tree'.generations.find name = some generation

variable {tree : StateTree} {decision : Decision} {rest : List Decision} {current : Option Decision}

theorem Holding.grows {tree' : StateTree} (holding : Holding tree view) (grows : Grows tree tree') :
    Holding tree' view :=
  ⟨fun decision among => grows _ _ (holding.chain decision among),
    fun waiting waits => grows _ _ (holding.pending waiting waits)⟩

theorem Kept.grows (kept : Kept policy disk view) (grows : Grows disk.state tree)
    (staging : tree.staging.length ≤ 1) (temporaries : tree.temporaries.length ≤ 1)
    (current : tree.current = disk.state.current) : Kept policy { disk with state := tree } view :=
  ⟨kept.valid, kept.holding.grows grows, staging, temporaries, current.symm ▸ kept.pointer, kept.written⟩

theorem Kept.litter (kept : Kept policy disk view) (clean : Clean disk.state)
    (grows : Grows disk.state tree) (staging : tree.staging = disk.state.staging)
    (temporaries : tree.temporaries = disk.state.temporaries) (current : tree.current = disk.state.current)
    {point : StateTree} (litter : tree.Litter point) : Kept policy { disk with state := point } view := by
  obtain ⟨parts, pointers, more, short, rfl⟩ := litter
  rw [staging, clean.1] at more
  rw [temporaries, clean.2] at short
  exact kept.grows grows more short current

variable {name : Digest} {plan : SourcePlan} {now : Time}

theorem grows_published {generation : StoredGeneration}
    (good : ∀ existing, tree.generations.find name = some existing → existing = generation) :
    Grows tree (tree.published name generation) := by
  intro other found held
  change (tree.generations.put name generation).find other = _
  rw [Table.find_put]
  split
  · next same =>
    subst same
    rw [good found held]
  · exact held

/-- What a verified decision is stored as is within the bounds of a generation. -/
theorem commitState_eq (verified : policy.Verified decision) (activate : Bool) :
    persistDecision decision activate =
      onState (Generations.commit decision.epoch.digest decision.stored ⟨none, none⟩
        (writeStateGeneration decision.stored) Staging.generation activate .generationDisagrees) := by
  obtain ⟨some_, short⟩ := policy.framed verified.parsed
  obtain ⟨few, bounds⟩ := policy.bounded verified.genuine
  unfold persistDecision commitState
  rw [if_neg, if_neg]
  · simp only [Decision.stored, List.any_eq_true, Bool.or_eq_true, List.isEmpty_iff, decide_eq_true_eq,
      not_exists, not_and, not_or, not_lt]
    exact fun input among => bounds input among
  change ¬ (decision.epochBytes.isEmpty || decide (maximumEpochBytes < decision.epochBytes.length) ||
    decide (64 < decision.inputs.length)) = true
  simp only [Bool.or_eq_true, List.isEmpty_iff, decide_eq_true_eq, not_or, not_lt]
  exact ⟨⟨some_, short⟩, few⟩

/-- A decision is stored, and nothing points to it. -/
theorem persist_meets (synced : Synced policy disk view) (verified : policy.Verified decision) :
    Meets (persistDecision decision false) disk (fun point => Kept policy point view)
      (fun _ after => Synced policy after view ∧
        after.state.generations.find decision.epoch.digest = some decision.stored)
      (fun _ after => after = disk ∧ ∃ existing, disk.state.generations.find decision.epoch.digest = some existing ∧
        existing ≠ decision.stored) := by
  rw [commitState_eq verified]
  by_cases good : ∀ existing, disk.state.generations.find decision.epoch.digest = some existing →
      existing = decision.stored
  · have grows := grows_published good
    refine ((Generations.commit_meets (built_generation _) good).imp ?_ ?_ (fun _ _ => False.elim)).inside
    · rintro point (litter | litter | ⟨active, -⟩)
      · exact synced.kept.litter synced.state (fun _ _ => id) rfl rfl rfl litter
      · exact synced.kept.litter synced.state grows rfl rfl rfl litter
      · cases active
    rintro _ _ rfl
    refine ⟨⟨?_, synced.pointer, synced.state, synced.control, synced.unborn⟩, ?_⟩
    · exact synced.kept.grows grows synced.kept.staging synced.kept.temporaries rfl
    · change (disk.state.generations.put _ _).find _ = _
      rw [Table.find_put, if_pos rfl]
  · obtain ⟨existing, found, differs⟩ : ∃ existing,
        disk.state.generations.find decision.epoch.digest = some existing ∧ existing ≠ decision.stored := by
      simpa only [not_forall, exists_prop] using good
    refine ((Generations.commit_disagrees found differs).imp ?_ (fun _ _ => False.elim) ?_).inside
    · rintro point litter
      exact synced.kept.litter synced.state (fun _ _ => id) rfl rfl rfl litter
    · rintro _ _ ⟨-, rfl⟩
      exact ⟨rfl, existing, found, differs⟩

/-! ## The journal -/

theorem Kept.journal {tree : ControlTree} (kept : Kept policy disk view) (written : Written policy tree view) :
    Kept policy { disk with control := tree } view :=
  ⟨kept.valid, kept.holding, kept.staging, kept.temporaries, kept.pointer, written⟩

/-- A distribution state that can be committed: it is not too long, and its name is not the
one of another current state. -/
def Fits (policy : EpochPolicy) (view : View) (state : DistributionState) : Prop :=
  (encodeDistributionState state).length ≤ 4096 ∧
    (policy.distributionDigest (encodeDistributionState state) =
      policy.distributionDigest (encodeDistributionState view.journal) → state = view.journal)

/-- A distribution state is committed: the view changes with the pointer of the journal. -/
theorem commitDistribution_meets {view' : View} (synced : Synced policy disk view)
    (valid : view'.Valid policy) (holding : Holding disk.state view')
    (pointer : disk.state.current = newestName view'.chain ∨ disk.state.current = newestName view'.chain.tail) :
    Meets (policy.commitDistribution view'.journal) disk
      (fun point => Kept policy point view ∨ Kept policy point view')
      (fun _ after => Kept policy after view' ∧ after.state = disk.state ∧ Clean after.control ∧
        after.control.current ≠ none)
      (fun _ after => Synced policy after view ∧ ¬ Fits policy view view'.journal) := by
  have after (tree : ControlTree)
      (settled : Settled tree (policy.distributionDigest (encodeDistributionState view'.journal))
        (encodeDistributionState view'.journal)) : Kept policy { disk with control := tree } view' :=
    ⟨valid, holding, synced.kept.staging, synced.kept.temporaries, pointer, .inr settled⟩
  unfold EpochPolicy.commitDistribution commitControl
  split
  · next long =>
    refine meets_refuse ⟨synced, fun fits => ?_⟩
    have size := length_encode view'.journal
    simp only [Bool.or_eq_true, List.isEmpty_iff, decide_eq_true_eq] at long
    rcases long with empty_ | long
    · rw [empty_, List.length_nil] at size
      omega
    · exact absurd fits.1 (by omega)
  rcases synced.kept.written with ⟨unpointed, new⟩ | settled
  · have unborn := synced.unborn unpointed.current
    refine ((writeControl_meets_unborn unpointed unborn synced.control).imp ?_ ?_ (fun _ _ => False.elim)).inside
    · rintro point (unpointed | settled)
      · exact .inl (synced.kept.journal (.inl ⟨unpointed, new⟩))
      · exact .inr (after point settled)
    · rintro _ tree ⟨settled, clean⟩
      exact ⟨after tree settled, rfl, clean, by simp [settled.current]⟩
  · refine ((writeControl_meets settled synced.control).imp ?_ ?_ ?_).inside
    · rintro point (kept | changed)
      · exact .inl (synced.kept.journal (.inr kept))
      · exact .inr (after point changed)
    · rintro _ tree ⟨settled, clean⟩
      exact ⟨after tree settled, rfl, clean, by simp [settled.current]⟩
    rintro _ tree ⟨kept, clean, same, differs⟩
    refine ⟨⟨synced.kept.journal (.inr kept), synced.pointer, synced.state, clean, fun none_ => ?_⟩,
      fun fits => differs (by rw [fits.2 same])⟩
    rw [kept.current] at none_
    cases none_

/-- The pointer follows the journal. -/
theorem follow_meets (kept : Kept policy disk view) (newest : view.chain = decision :: rest)
    (state : Clean disk.state) (control : Clean disk.control) (written : disk.control.current ≠ none) :
    Meets (persistDecision decision true) disk
      (fun point => Kept policy point view ∧ point.state.generations = disk.state.generations ∧
        point.control = disk.control ∧
        (point.state.current = disk.state.current ∨ point.state.current ≠ none))
      (fun _ after => Synced policy after view ∧ after.state.generations = disk.state.generations)
      (fun _ _ => False) := by
  have linked := kept.valid.linked
  have held := kept.holding.chain
  rw [newest] at linked held
  have found := held decision List.mem_cons_self
  have same : disk.state.published decision.epoch.digest decision.stored = disk.state := by
    rw [Generations.published, Table.put_same found]
  have pointed : Kept policy { disk with state := { disk.state with
      current := some decision.epoch.digest } } view :=
    ⟨kept.valid, kept.holding.grows fun _ _ => id, kept.staging, kept.temporaries,
      .inl (by rw [newest]; rfl), kept.written⟩
  rw [commitState_eq linked.1]
  refine ((Generations.commit_meets (built_generation _) fun existing there => ?_).imp ?_ ?_
    (fun _ _ => id)).inside
  · rw [found] at there
    exact (Option.some.inj there).symm
  · rw [same]
    rintro point (litter | litter | ⟨-, rfl⟩)
    · exact ⟨kept.litter state (fun _ _ => id) rfl rfl rfl litter, litter.generations, rfl, .inl litter.current⟩
    · exact ⟨kept.litter state (fun _ _ => id) rfl rfl rfl litter, litter.generations, rfl, .inl litter.current⟩
    · exact ⟨pointed, rfl, rfl, .inr (by rintro ⟨⟩)⟩
  · rw [same]
    rintro _ _ rfl
    exact ⟨⟨pointed, by rw [newest]; rfl, state, control, fun none_ => absurd none_ written⟩, rfl⟩

/-! ## Commits -/

/-- A request of an owner that shows the view. -/
structure View.Allows (view : View) (policy : EpochPolicy) (request : Request) : Prop where
  valid : (view.next request).Valid policy
  epochFloor : view.journal.epochFloor ≤ (view.next request).journal.epochFloor
  timeFloor : view.journal.trustedTimeFloor ≤ (view.next request).journal.trustedTimeFloor
  conflicting : view.journal.conflicting = true → (view.next request).journal.conflicting = true
  calm : (view.next request).journal.conflicting = true →
    view.journal.conflicting = true ∨ (view.next request).chain = view.chain

/-- A request that is not refused: what it stores is not there with other bytes, and its
distribution state can be committed. -/
structure Writable (policy : EpochPolicy) (disk : Disk) (view : View) (request : Request) : Prop where
  generation : ∀ decision state, request = .active decision state ∨ request = .staged decision state →
    ∀ existing, disk.state.generations.find decision.epoch.digest = some existing → existing = decision.stored
  journal : ∀ state, request.handed = some state → Fits policy view state

/-- **A commit.**  Wherever it stops, the files stand for the view before or for the next
one, and a refused commit changes nothing. -/
theorem write_meets {request : Request} (synced : Synced policy disk view)
    (allowed : view.Allows policy request) : Meets (policy.write request) disk
      (fun point => Kept policy point view ∨ Kept policy point (view.next request))
      (fun _ after => Synced policy after (view.next request))
      (fun _ after => Synced policy after view ∧ ¬ Writable policy disk view request) := by
  cases request with
  | nothing => exact meets_pure synced
  | control state =>
    have valid : View.Valid policy { view with journal := state } := allowed.valid
    refine (commitDistribution_meets synced valid
      ⟨synced.kept.holding.chain, synced.kept.holding.pending⟩ (.inl synced.pointer)).imp
      (fun _ => id) ?_
      (fun _ _ refused => ⟨refused.1, fun writable => refused.2 (writable.journal state rfl)⟩)
    rintro _ after ⟨kept, same, clean, written⟩
    exact ⟨kept, same ▸ synced.pointer, same ▸ synced.state, clean, fun none_ => absurd none_ written⟩
  | active decision state =>
    have valid : View.Valid policy ⟨decision :: view.chain, none, activated state decision⟩ := allowed.valid
    refine meets_bind ((persist_meets synced valid.linked.1).imp (fun _ => .inl) (fun _ _ => id) ?_) ?_
    · rintro _ _ ⟨rfl, existing, there, differs⟩
      exact ⟨synced, fun writable => differs (writable.generation decision state (.inl rfl) existing there)⟩
    rintro _ stored ⟨synced, found⟩
    have holding : Holding stored.state ⟨decision :: view.chain, none, activated state decision⟩ := by
      refine ⟨fun other among => ?_, fun _ waits => by cases waits⟩
      rcases List.mem_cons.1 among with rfl | earlier
      · exact found
      · exact synced.kept.holding.chain other earlier
    have lagging : stored.state.current = newestName (decision :: view.chain).tail := synced.pointer
    have commits := commitDistribution_meets synced valid holding (.inr lagging)
    refine meets_bind (commits.imp (fun _ => id) (fun _ _ => id)
      (fun _ _ refused => ⟨refused.1, fun writable => refused.2 (writable.journal _ rfl)⟩)) ?_
    rintro _ committed ⟨kept, still, clean, written⟩
    exact (follow_meets kept rfl (still ▸ synced.state) clean written).imp (fun _ on => .inr on.1)
      (fun _ _ => And.left) (fun _ _ => False.elim)
  | staged decision state =>
    have valid : View.Valid policy ⟨view.chain, some decision, state⟩ := allowed.valid
    have follows := valid.follows decision rfl
    refine meets_bind ((persist_meets synced follows.verified).imp (fun _ => .inl) (fun _ _ => id) ?_) ?_
    · rintro _ _ ⟨rfl, existing, there, differs⟩
      exact ⟨synced, fun writable => differs (writable.generation decision state (.inr rfl) existing there)⟩
    rintro _ stored ⟨synced, found⟩
    have holding : Holding stored.state ⟨view.chain, some decision, state⟩ := by
      refine ⟨synced.kept.holding.chain, ?_⟩
      rintro _ ⟨⟩
      exact found
    refine (commitDistribution_meets synced valid holding (.inl synced.pointer)).imp
      (fun _ => id) ?_
      (fun _ _ refused => ⟨refused.1, fun writable => refused.2 (writable.journal _ rfl)⟩)
    rintro _ after ⟨kept, still, clean, written⟩
    exact ⟨kept, still ▸ synced.pointer, still ▸ synced.state, clean, fun none_ => absurd none_ written⟩

/-! ## Opening -/

/-- There is a pointer once there are generations, in the root and in the journal. -/
structure Firm (disk : Disk) : Prop where
  pointed : disk.state.current = none → disk.state.generations.size = 0
  unborn : disk.control.current = none → disk.control.generations.size = 0

/-- What opening needs beyond the files of a view. -/
structure Sturdy (disk : Disk) (view : View) : Prop extends Firm disk where
  few : disk.state.generations.size ≤ maximumStateGenerations
  readable : view.journal.Valid

/-- The files on the way stand for the view, and are as firm as before. -/
def Standing (policy : EpochPolicy) (disk : Disk) (view : View) (point : Disk) : Prop :=
  Kept policy point view ∧ (Firm disk → Firm point)

/-- Opening refuses files that are not sturdy. -/
def Refused (policy : EpochPolicy) (disk : Disk) (view : View) (after : Disk) : Prop :=
  Standing policy disk view after ∧ ¬ Sturdy disk view

theorem Standing.trans {middle point : Disk} (first : Standing policy disk view middle)
    (second : Standing policy middle view point) : Standing policy disk view point :=
  ⟨second.1, fun firm => second.2 (first.2 firm)⟩

theorem Written.bounds {tree : ControlTree} (written : Written policy tree view) :
    tree.generations.size ≤ 2 ∧ tree.staging.length ≤ 1 ∧ tree.temporaries.length ≤ 1 := by
  rcases written with ⟨unpointed, -⟩ | settled
  · exact ⟨unpointed.few.trans one_le_two, unpointed.staging, unpointed.temporaries⟩
  · exact ⟨settled.few, settled.staging, settled.temporaries⟩

/-- Nothing is added to what interrupted writes left. -/
theorem Written.shorter {tree : ControlTree} (written : Written policy tree view)
    {staging : List (Option (List UInt8))} {temporaries : List (Option Digest)}
    (fewer : staging.length ≤ tree.staging.length) (shorter : temporaries.length ≤ tree.temporaries.length) :
    Written policy { tree with staging, temporaries } view := by
  rcases written with ⟨unpointed, new⟩ | settled
  · exact .inl ⟨⟨unpointed.current, unpointed.few, fewer.trans unpointed.staging,
      shorter.trans unpointed.temporaries⟩, new⟩
  · exact .inr ⟨settled.current, settled.found, settled.few, fewer.trans settled.staging,
      shorter.trans settled.temporaries⟩

theorem rootEntries_le (kept : Kept policy disk view) : rootEntries disk.state ≤ 128 := by
  have short := kept.temporaries
  have one : disk.state.current.toList.length ≤ 1 := by cases disk.state.current <;> simp
  unfold rootEntries
  omega

/-- The pointer leads to the newest decision of its chain. -/
theorem loadCurrent_eq {part : List Decision} (linked : policy.Linked part)
    (held : ∀ decision ∈ part, tree.generations.find decision.epoch.digest = some decision.stored)
    (pointer : tree.current = newestName part) (loaded : policy.loadCurrent tree = .ok current) :
    current = part.head? := by
  obtain ⟨name, pointed, loaded⟩ := except_bind_eq_ok.1 loaded
  have same : name = newestName part := by
    unfold loadState at pointed
    split at pointed
    · cases pointed
    split at pointed
    · cases pointed
    split at pointed
    · next none_ =>
      cases pointed
      rw [← pointer, none_]
    next some_ =>
    split at pointed
    · cases pointed
    · cases pointed
      rw [← pointer, some_]
  subst same
  cases part with
  | nil =>
    simp only [newestName, List.head?_nil, Option.map_none] at loaded
    split at loaded
    · cases loaded
    · cases loaded
      rfl
  | cons decision rest =>
    have short := linked.number.2
    have chain : policy.loadGenerationChain tree.generations 64 decision.epoch.digest = .ok decision :=
      linked.load held (by omega)
    simp only [newestName, List.head?_cons, Option.map_some, chain] at loaded
    obtain ⟨found, same, loaded⟩ := except_bind_eq_ok.1 loaded
    cases same
    split at loaded
    · cases loaded
    · cases loaded
      rfl

theorem number_lt {prior : Decision} (linked : policy.Linked (decision :: prior :: rest)) :
    prior.epoch.number < decision.epoch.number := by
  have newest := linked.number
  have before := linked.2.2.number
  rw [UInt64.lt_iff_toNat_lt, newest.1, before.1]
  simp

theorem behind_synced (valid : view.Valid policy) :
    EpochPolicy.behind view.chain.head? view.journal = false := by
  have floor := valid.floor
  have digest := valid.digest
  unfold View.head at floor digest
  cases chain : view.chain with
  | nil =>
    rw [chain] at floor
    simp [EpochPolicy.behind, floor]
  | cons decision rest =>
    rw [chain] at floor digest
    simp [EpochPolicy.behind, floor, digest, UInt64.lt_irrefl]

theorem behind_lagging (valid : view.Valid policy) (newest : view.chain = decision :: rest) :
    EpochPolicy.behind rest.head? view.journal = true := by
  have floor := valid.floor
  have linked := valid.linked
  rw [View.head, newest] at floor
  rw [newest] at linked
  have positive := policy.number_ne linked.1.parsed
  cases rest with
  | nil => simp [EpochPolicy.behind, floor, positive]
  | cons prior rest => simp [EpochPolicy.behind, floor, positive, number_lt linked]

/-- A journal that says nothing belongs to a root on which nothing was decided. -/
theorem loadControl_none {tree : ControlTree} (written : Written policy tree view)
    (loaded : loadControl tree = .ok none) : view = View.fresh ∧ tree.current = none ∧ tree.generations.size = 0 := by
  rcases written with ⟨unpointed, new⟩ | settled
  · unfold loadControl at loaded
    rw [unpointed.current] at loaded
    dsimp only at loaded
    split at loaded
    · cases loaded
    next empty_ => exact ⟨new, unpointed.current, by omega⟩
  · unfold loadControl at loaded
    rw [settled.current] at loaded
    dsimp only at loaded
    rw [settled.found] at loaded
    dsimp only at loaded
    split at loaded <;> cases loaded

theorem loadControl_some {tree : ControlTree} {raw : List UInt8}
    (written : Written policy tree view) (loaded : loadControl tree = .ok (some (name, raw))) :
    raw = encodeDistributionState view.journal ∧ name = policy.distributionDigest raw ∧ tree.current ≠ none := by
  rcases written with ⟨unpointed, -⟩ | settled
  · unfold loadControl at loaded
    rw [unpointed.current] at loaded
    dsimp only at loaded
    split at loaded <;> cases loaded
  unfold loadControl at loaded
  rw [settled.current] at loaded
  dsimp only at loaded
  rw [settled.found] at loaded
  dsimp only at loaded
  split at loaded
  · cases loaded
  · cases loaded
    exact ⟨rfl, rfl, by simp [settled.current]⟩

/-- The decision that waits is found again. -/
theorem recoverPendingState_eq {transition : Transition}
    (valid : view.Valid policy) (holding : Holding tree view)
    (recovered : policy.recoverPendingState tree { view.owner plan now with pending := none } = .ok transition) :
    transition.request = .nothing ∧ transition.after = view.owner plan now := by
  have pendingDigest := valid.pendingDigest
  unfold EpochPolicy.recoverPendingState at recovered
  dsimp only [View.owner] at recovered
  cases waits : view.pending with
  | none =>
    simp only [waits, Option.map_none, Option.getD_none] at pendingDigest
    rw [if_pos pendingDigest] at recovered
    cases recovered
    exact ⟨rfl, by rw [View.owner, waits]; rfl⟩
  | some waiting =>
    have follows := valid.follows waiting waits
    simp only [waits, Option.map_some, Option.getD_some] at pendingDigest
    rw [pendingDigest, if_neg (policy.digest_ne follows.verified.parsed)] at recovered
    cases newest : view.chain.head? with
    | none =>
      rw [newest] at recovered
      cases recovered
    | some active =>
      have head : view.head = some active.epoch := by rw [View.head, newest]; rfl
      have loads : policy.loadGeneration waiting.stored (some active.epoch) = .ok waiting :=
        EpochPolicy.loadGeneration_eq_ok.2 ⟨follows.verified, rfl, head ▸ follows.extends_⟩
      rw [newest] at recovered
      dsimp only at recovered
      rw [if_neg (follows.apart active.epoch head)] at recovered
      obtain ⟨_, -, recovered⟩ := except_bind_eq_ok.1 recovered
      rw [holding.pending waiting waits] at recovered
      dsimp only at recovered
      rw [loads] at recovered
      obtain ⟨found, same, recovered⟩ := except_bind_eq_ok.1 recovered
      cases same
      split at recovered
      · cases recovered
      · cases recovered
        exact ⟨rfl, by rw [View.owner, waits, newest]; rfl⟩

/-- Files without a pointer that is behind are as firm as before. -/
theorem Firm.synced {after : Disk} (firm : Firm disk) (kept : Kept policy disk view)
    (synced : Synced policy after view) (same : after.state.generations = disk.state.generations) :
    Firm after := by
  refine ⟨fun none_ => ?_, synced.unborn⟩
  -- without a newest decision the pointer was not there before, either
  rw [synced.pointer] at none_
  have chain : view.chain = [] := by
    cases chain : view.chain with
    | nil => rfl
    | cons decision rest =>
      rw [chain] at none_
      cases none_
  rw [same]
  refine firm.pointed (kept.pointer.elim (fun pointer => ?_) fun pointer => ?_) <;> rw [pointer, chain] <;> rfl

section Kept

variable (kept : Kept policy disk view)

include kept

theorem cleanupOwnedStaging_meets : Meets (onState cleanupOwnedStaging) disk (Standing policy disk view)
      (fun _ after => after = { disk with state := { disk.state with staging := [], temporaries := [] } })
      (fun _ after => Refused policy disk view after) := by
  have standing (staging : List Staging) (temporaries : List (Option Digest))
      (fewer : staging.length ≤ disk.state.staging.length)
      (shorter : temporaries.length ≤ disk.state.temporaries.length) :
      Standing policy disk view { disk with state := { disk.state with staging, temporaries } } :=
    ⟨kept.grows (fun _ _ => id) (fewer.trans kept.staging) (shorter.trans kept.temporaries) rfl,
      fun firm => ⟨firm.pointed, firm.unborn⟩⟩
  refine Meets.inside (Generations.sweep_meets standing ?_ ?_ rfl)
  · intro many
    exact absurd many (Nat.not_lt.2 (rootEntries_le kept))
  · intro many
    refine ⟨standing _ [] (Nat.le_refl _) (Nat.zero_le _), fun sturdy => ?_⟩
    have few := sturdy.few
    have staging := kept.staging
    unfold maximumStateGenerations at few
    omega

theorem prepareControl_meets : Meets (onControl prepareControl) disk (Standing policy disk view)
      (fun _ after => Standing policy disk view after ∧
        after = { disk with control := { disk.control with staging := [], temporaries := [] } })
      (fun _ after => Refused policy disk view after) := by
  obtain ⟨few, one, short⟩ := kept.written.bounds
  have standing (staging : List (Option (List UInt8))) (temporaries : List (Option Digest))
      (fewer : staging.length ≤ disk.control.staging.length)
      (shorter : temporaries.length ≤ disk.control.temporaries.length) :
      Standing policy disk view { disk with control := { disk.control with staging, temporaries } } :=
    ⟨kept.journal (kept.written.shorter fewer shorter), fun firm => ⟨firm.pointed, firm.unborn⟩⟩
  have pointer : disk.control.current.toList.length ≤ 1 := by cases disk.control.current <;> simp
  refine Meets.inside (Generations.sweep_meets standing ?_ ?_ ⟨standing [] [] (Nat.zero_le _) (Nat.zero_le _), rfl⟩)
  all_goals
    simp only [maximumControlGenerations]
    omega

/-- What interrupted writes left is removed. -/
theorem openDurableRoot_meets : Meets openDurableRoot disk (Standing policy disk view)
      (fun _ after => Standing policy disk view after ∧ Clean after.state ∧ Clean after.control ∧
        after.state.generations = disk.state.generations)
      (fun _ after => Refused policy disk view after) := by
  refine meets_bind (cleanupOwnedStaging_meets kept) ?_
  rintro _ _ rfl
  have probed (temporaries : List (Option Digest)) (short : temporaries.length ≤ 1) :
      Standing policy disk view { disk with state := { disk.state with staging := [], temporaries } } :=
    ⟨kept.grows (fun _ _ => id) (Nat.zero_le _) short rfl, fun firm => ⟨firm.pointed, firm.unborn⟩⟩
  refine meets_effect_bind (probed [none] (Nat.le_refl _)) ?_
  refine meets_effect_bind (probed [] (Nat.zero_le _)) ?_
  have standing := probed [] (Nat.zero_le _)
  refine (prepareControl_meets standing.1).imp (fun _ => standing.trans) ?_ ?_
  · rintro _ after ⟨prepared, rfl⟩
    exact ⟨standing.trans prepared, ⟨rfl, rfl⟩, ⟨rfl, rfl⟩, rfl⟩
  · rintro _ after ⟨prepared, unsturdy⟩
    refine ⟨standing.trans prepared, fun sturdy => unsturdy ⟨standing.2 sturdy.toFirm, sturdy.few, sturdy.readable⟩⟩

/-- The generations can be listed. -/
theorem loadState_ok (state : Clean disk.state) (sturdy : Sturdy disk view) :
    loadState disk.state = .ok disk.state.current := by
  unfold loadState
  rw [if_neg (by have := sturdy.few; simp only [state.1, List.length_nil]; omega), state.1]
  cases current : disk.state.current with
  | none => rfl
  | some name =>
    have held (part : List Decision) (pointer : disk.state.current = newestName part)
        (within : ∀ decision ∈ part, decision ∈ view.chain) :
        (disk.state.generations.find name).isNone = false := by
      obtain ⟨decision, newest, rfl⟩ := Option.map_eq_some_iff.1 (pointer.symm.trans current)
      rw [kept.holding.chain decision (within decision (List.mem_of_head? newest))]
      rfl
    have found : (disk.state.generations.find name).isNone = false :=
      kept.pointer.elim (fun pointer => held view.chain pointer fun _ => id)
        fun pointer => held view.chain.tail pointer fun _ => List.mem_of_mem_tail
    simp [found]

/-- A sturdy root has a current decision, or none at all. -/
theorem loadCurrent_ok (state : Clean disk.state) (sturdy : Sturdy disk view) :
    ∃ current, policy.loadCurrent disk.state = .ok current := by
  have lists := loadState_ok kept state sturdy
  have reads (part : List Decision) (linked : policy.Linked part)
      (held : ∀ decision ∈ part, disk.state.generations.find decision.epoch.digest = some decision.stored)
      (pointer : disk.state.current = newestName part) :
      ∃ current, policy.loadCurrent disk.state = .ok current := by
    rw [pointer] at lists
    cases part with
    | nil =>
      refine ⟨none, except_bind_eq_ok.2 ⟨none, lists, ?_⟩⟩
      exact if_neg fun some_ => some_ (sturdy.pointed pointer)
    | cons decision rest =>
      have short := linked.number.2
      refine ⟨some decision, except_bind_eq_ok.2 ⟨some decision.epoch.digest, lists, ?_⟩⟩
      exact except_bind_eq_ok.2 ⟨decision, linked.load held (by omega), if_neg (not_not.2 rfl)⟩
  rcases kept.pointer with synced | lagging
  · exact reads view.chain kept.valid.linked kept.holding.chain synced
  refine reads view.chain.tail ?_ (fun decision among => ?_) lagging
  · have linked := kept.valid.linked
    cases chain : view.chain with
    | nil => trivial
    | cons decision rest =>
      rw [chain] at linked
      exact linked.2.2
  · exact kept.holding.chain decision (List.mem_of_mem_tail among)

/-- The decision that the journal names becomes current. -/
theorem recoverDistributionActive_meets (newest : view.chain = decision :: rest)
    (state : Clean disk.state) (control : Clean disk.control)
    (written : disk.control.current ≠ none) :
    Meets (policy.recoverDistributionActive view.journal) disk (Standing policy disk view)
      (fun found after => found = decision ∧ Synced policy after view ∧
        after.state.generations = disk.state.generations)
      (fun _ after => Refused policy disk view after) := by
  have linked := kept.valid.linked
  have held := kept.holding.chain
  have floor := kept.valid.floor
  have digest := kept.valid.digest
  rw [newest] at linked held
  simp only [View.head, newest, List.head?_cons, Option.map_some, Option.getD_some] at floor digest
  have short := linked.number.2
  have chain : policy.loadGenerationChain disk.state.generations 64 view.journal.epochDigest =
      .ok decision := by
    rw [digest]
    exact linked.load held (by omega)
  refine meets_look_bind ?_
  refine meets_lift_bind (fun _ _ => ?_) fun refusal unlisted => ⟨⟨kept, id⟩, fun sturdy => ?_⟩
  · refine meets_lift_bind (fun found loaded => ?_) fun refusal unread => ?_
    · rw [chain] at loaded
      cases loaded
      rw [if_neg (by simp [floor, digest])]
      refine meets_bind ((follow_meets kept newest state control written).imp ?_
        (fun _ _ => id) (fun _ _ => False.elim)) fun _ _ followed => ?_
      · rintro point ⟨kept, same, journal, pointer⟩
        refine ⟨kept, fun firm => ⟨fun none_ => ?_, journal ▸ firm.unborn⟩⟩
        rw [same]
        exact firm.pointed ((pointer.resolve_right (not_not.2 none_)).symm.trans none_)
      exact meets_pure ⟨rfl, followed⟩
    · rw [chain] at unread
      cases unread
  · rw [loadState_ok kept state sturdy] at unlisted
    cases unlisted

/-- The active decision is the newest of the chain, also when the pointer is behind. -/
theorem followJournal_meets (loaded : policy.loadCurrent disk.state = .ok current)
    (state : Clean disk.state) (control : Clean disk.control)
    (written : disk.control.current ≠ none) :
    Meets (policy.followJournal current view.journal) disk (Standing policy disk view)
      (fun found after => found = view.chain.head? ∧ Synced policy after view ∧
        after.state.generations = disk.state.generations)
      (fun _ after => Refused policy disk view after) := by
  unfold EpochPolicy.followJournal
  by_cases synced : disk.state.current = newestName view.chain
  · obtain rfl := loadCurrent_eq kept.valid.linked kept.holding.chain synced loaded
    rw [behind_synced kept.valid]
    exact meets_pure ⟨rfl, ⟨kept, synced, state, control, fun none_ => absurd none_ written⟩, rfl⟩
  have lagging := kept.pointer.resolve_left synced
  cases newest : view.chain with
  | nil =>
    rw [newest] at lagging synced
    exact absurd lagging synced
  | cons decision rest =>
    rw [newest] at lagging
    have linked := kept.valid.linked
    have held := kept.holding.chain
    rw [newest] at linked held
    obtain rfl := loadCurrent_eq linked.2.2
      (fun other among => held other (List.mem_cons_of_mem _ among)) lagging loaded
    rw [behind_lagging kept.valid newest, if_pos rfl]
    refine meets_bind (recoverDistributionActive_meets kept newest state control written) ?_
    rintro _ after ⟨rfl, followed⟩
    exact meets_pure ⟨rfl, followed⟩

theorem loadControl_ok (control : Clean disk.control) (sturdy : Sturdy disk view) :
    ∃ found, loadControl disk.control = .ok found := by
  unfold loadControl
  rcases kept.written with ⟨unpointed, -⟩ | settled
  · have unborn := sturdy.unborn unpointed.current
    rw [unpointed.current]
    exact ⟨none, if_neg (by simp [unborn, control.1])⟩
  have few := sturdy.readable.header.history
  rw [settled.current]
  dsimp only
  rw [settled.found]
  exact ⟨_, if_neg (by rw [length_encode]; omega)⟩

theorem loadDistributionState_meets (loaded : policy.loadCurrent disk.state = .ok current)
    (state : Clean disk.state) (control : Clean disk.control) :
    Meets (policy.loadDistributionState current) disk (Standing policy disk view)
      (fun found after => found = (view.chain.head?, view.journal) ∧ Synced policy after view ∧
        after.state.generations = disk.state.generations)
      (fun _ after => Refused policy disk view after) := by
  refine meets_look_bind ?_
  refine meets_lift_bind (fun journal read => ?_) fun refusal unread => ⟨⟨kept, id⟩, fun sturdy => ?_⟩
  swap
  · obtain ⟨found, read⟩ := loadControl_ok kept control sturdy
    rw [read] at unread
    cases unread
  cases journal with
  | none =>
    obtain ⟨rfl, none_, unborn⟩ := loadControl_none kept.written read
    have pointer : disk.state.current = newestName [] := kept.pointer.elim id id
    obtain rfl := loadCurrent_eq kept.valid.linked kept.holding.chain pointer loaded
    exact meets_pure ⟨rfl, ⟨kept, pointer, state, control, fun _ => unborn⟩, rfl⟩
  | some found =>
    obtain ⟨name, raw⟩ := found
    obtain ⟨rfl, named, written⟩ := loadControl_some kept.written read
    dsimp only
    split
    · next undecoded =>
      refine meets_refuse ⟨⟨kept, id⟩, fun sturdy => ?_⟩
      rw [decodeDistributionState_eq_ok.2 ⟨rfl, sturdy.readable⟩] at undecoded
      cases undecoded
    next journal decoded =>
    obtain rfl := decode_encode decoded
    rw [if_neg (not_not.2 named.symm)]
    refine meets_bind (followJournal_meets kept loaded state control written) ?_
    rintro _ after ⟨rfl, followed⟩
    rw [if_neg]
    · exact meets_pure ⟨rfl, followed⟩
    have floor := kept.valid.floor
    unfold View.head at floor
    cases newest : view.chain.head? with
    | none => simp
    | some active =>
      rw [newest] at floor
      simp [floor, UInt64.lt_irrefl]

theorem recoverPendingState_ok (state : Clean disk.state)
    (sturdy : Sturdy disk view) (synced : disk.state.current = newestName view.chain) :
    ∃ transition, policy.recoverPendingState disk.state { view.owner plan now with pending := none } =
      .ok transition := by
  have pendingDigest := kept.valid.pendingDigest
  unfold EpochPolicy.recoverPendingState
  dsimp only [View.owner]
  cases waits : view.pending with
  | none =>
    simp only [waits, Option.map_none, Option.getD_none] at pendingDigest
    exact ⟨_, if_pos pendingDigest⟩
  | some waiting =>
    have follows := kept.valid.follows waiting waits
    simp only [waits, Option.map_some, Option.getD_some] at pendingDigest
    rw [pendingDigest, if_neg (policy.digest_ne follows.verified.parsed)]
    cases newest : view.chain.head? with
    | none =>
      have unpointed : disk.state.current = none := by rw [synced, newestName, newest]; rfl
      have held := kept.holding.pending waiting waits
      rw [find_of_size (sturdy.pointed unpointed)] at held
      cases held
    | some active =>
      have head : view.head = some active.epoch := by rw [View.head, newest]; rfl
      have loads : policy.loadGeneration waiting.stored (some active.epoch) = .ok waiting :=
        EpochPolicy.loadGeneration_eq_ok.2 ⟨follows.verified, rfl, head ▸ follows.extends_⟩
      dsimp only
      rw [if_neg (follows.apart active.epoch head), loadState_ok kept state sturdy,
        kept.holding.pending waiting waits]
      dsimp only
      rw [loads, kept.valid.pendingValidFrom waiting waits]
      exact ⟨_, except_bind_eq_ok.2 ⟨_, rfl, except_bind_eq_ok.2 ⟨waiting, rfl, if_neg (not_not.2 rfl)⟩⟩⟩

/-- What opening finds before it looks for a pending decision. -/
theorem loadOwner_meets (plan : SourcePlan) (now : Time) :
    Meets (policy.loadOwner plan now) disk (Standing policy disk view)
      (fun owner after => owner = { view.owner plan now with pending := none } ∧ Synced policy after view ∧
        (Firm disk → Firm after) ∧ after.state.generations = disk.state.generations)
      (fun _ after => Refused policy disk view after) := by
  refine meets_bind (openDurableRoot_meets kept) ?_
  rintro _ opened ⟨standing, state, control, same⟩
  have sturdier (sturdy : Sturdy disk view) : Sturdy opened view :=
    ⟨standing.2 sturdy.toFirm, same ▸ sturdy.few, sturdy.readable⟩
  refine meets_look_bind ?_
  refine meets_lift_bind (fun current loaded => ?_) fun refusal unread => ⟨standing, fun sturdy => ?_⟩
  · refine meets_bind ((loadDistributionState_meets standing.1 loaded state control).imp
      (fun _ => standing.trans) (fun _ _ => id)
      fun _ after refused => ⟨standing.trans refused.1, fun sturdy => refused.2 (sturdier sturdy)⟩) ?_
    rintro _ after ⟨rfl, synced, still⟩
    exact meets_pure ⟨rfl, synced, fun firm => (standing.2 firm).synced standing.1 synced still,
      still.trans same⟩
  · obtain ⟨current, loaded⟩ := loadCurrent_ok standing.1 state (sturdier sturdy)
    rw [loaded] at unread
    cases unread

/-- **Opening.**  The owner shows the view that the files stand for, and the pointer is
not behind any more; wherever opening stops or refuses, the files stand for that view. -/
theorem openState_meets (plan : SourcePlan) (now : Time) :
    Meets (policy.openState plan now) disk (Standing policy disk view)
      (fun owner after => owner = view.owner plan now ∧ Synced policy after view ∧
        (Firm disk → Firm after) ∧ after.state.generations = disk.state.generations)
      (fun _ after => Refused policy disk view after) := by
  refine meets_bind (loadOwner_meets kept plan now) ?_
  rintro _ loaded ⟨rfl, synced, firmer, same⟩
  refine meets_look_bind ?_
  refine meets_lift_bind (fun transition recovered => ?_)
    fun refusal unread => ⟨⟨synced.kept, firmer⟩, fun sturdy => ?_⟩
  · obtain ⟨request, after⟩ := recoverPendingState_eq synced.kept.valid synced.kept.holding recovered
    rw [request, after]
    exact meets_pure ⟨rfl, synced, firmer, same⟩
  have sturdier : Sturdy loaded view := ⟨firmer sturdy.toFirm, same ▸ sturdy.few, sturdy.readable⟩
  obtain ⟨transition, recovered⟩ :=
    recoverPendingState_ok synced.kept synced.state sturdier synced.pointer
  rw [recovered] at unread
  cases unread

end Kept

end Files

end Ardents.State
