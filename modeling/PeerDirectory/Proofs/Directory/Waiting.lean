import PeerDirectory.Proofs.Directory.Shape

/-!
Every operation on a directory is made of single changes. What no single change breaks, no call
breaks, whoever calls meanwhile. So whoever waits for ever waits to the end, and the log only grows.
-/

namespace PeerDirectory

variable {φ σ γ τ υ : Type}

inductive PartitionStore.Step [PartitionStore σ] : σ → σ → Prop
  | startup (store : σ) : Step store (PartitionStore.startup store).2
  | shutdown (store : σ) : Step store (PartitionStore.shutdown store)
  | insert (store : σ) (key : Hash) (entry : Entry) :
      Step store (PartitionStore.insert store key entry).2

namespace Directory

inductive Change [PartitionStore σ] [StoreFactory φ σ] (surroundings : Surroundings φ σ γ) :
    Directory φ σ γ → Directory φ σ γ → Prop
  | react (directory moment) : Change surroundings directory (surroundings.react moment directory)
  | wait (directory) : Change surroundings directory directory.wait
  | note (directory event) : Change surroundings directory (directory.note event)
  | adjust (directory clients policy closed seedPeers live metrics) : Change surroundings directory
      { directory with clients, policy, closed, seedPeers, live, metrics }
  | build (directory id) : Change surroundings directory
      { directory with
        factory := (StoreFactory.make directory.factory id).2
        partitions := directory.partitions.add id
          ⟨(StoreFactory.make directory.factory id).1, .creating, false⟩ }
  | setLifecycle (directory handle stage) : Change surroundings directory
      (directory.setLifecycle handle stage)
  | setLocked (directory handle locked) : Change surroundings directory
      (directory.setLocked handle locked)
  | setStore {directory handle store after} : directory.store? handle = some store →
      PartitionStore.Step store after → Change surroundings directory (directory.setStore handle after)

end Directory

def Surroundings.Keeping [PartitionStore σ] [StoreFactory φ σ] (surroundings : Surroundings φ σ γ)
    (holds : Directory φ σ γ → Prop) : Prop :=
  ∀ ⦃before after⦄, Directory.Change surroundings before after → holds before → holds after

def Surroundings.Patient (surroundings : Surroundings φ σ γ) : Prop :=
  ∀ moment directory, directory.stuck = true → (surroundings.react moment directory).stuck = true

theorem Surroundings.patient_quiet (turns : Nat) :
    (Surroundings.quiet turns : Surroundings φ σ γ).Patient :=
  fun _ _ stuck => stuck

namespace Directory

variable [PartitionStore σ] [StoreFactory φ σ] {surroundings : Surroundings φ σ γ}
  {holds : Directory φ σ γ → Prop} {directory : Directory φ σ γ} {client : Hash} {handle : Handle}

/-! ## What no single change breaks -/

theorem kept_publish (clients : Clients) (closed : Bool)
    (keeping : surroundings.Keeping holds) (held : holds directory) :
    holds (publish { directory with clients, closed } surroundings) := by
  have set := keeping (.adjust directory clients directory.policy closed directory.seedPeers
    directory.live (directory.metrics.set .clientPartitions clients.size)) held
  exact keeping (.react _ .gauge) set

theorem kept_count (metric : Metric) (amount : Nat) (keeping : surroundings.Keeping holds)
    (held : holds directory) : holds (directory.count metric amount) :=
  keeping (.adjust directory directory.clients directory.policy directory.closed
    directory.seedPeers directory.live (directory.metrics.add metric amount)) held

theorem kept_unregister (client : Hash) (handle : Handle) (keeping : surroundings.Keeping holds)
    (held : holds directory) : holds (directory.unregister surroundings client handle) := by
  unfold unregister
  split
  · exact kept_publish (directory.clients.erase client) directory.closed keeping held
  · exact held

theorem kept_build (id : PartitionId) (keeping : surroundings.Keeping holds)
    (held : holds directory) : holds (directory.build surroundings id).2 :=
  keeping (.build _ id) (keeping (.react directory (.create id)) held)

theorem kept_register (client : Hash) (keeping : surroundings.Keeping holds)
    (held : holds directory) : holds (directory.register surroundings client).2 := by
  have built := kept_build (.client client) keeping held
  simp only [register]
  split
  · exact keeping (.note _ _) (kept_count .races 1 keeping built)
  · exact kept_publish _ (directory.build surroundings (.client client)).2.closed keeping built

theorem kept_seek (keeping : surroundings.Keeping holds) (held : holds directory) :
    holds (directory.seek surroundings client).2 := by
  unfold seek
  split
  · exact held
  · exact kept_register client keeping held

omit [StoreFactory φ σ] in
theorem log_startStore (surroundings : Surroundings φ σ γ) (directory : Directory φ σ γ)
    (handle : Handle) : (directory.startStore surroundings handle).2.log =
      (surroundings.react (.startup handle.id) directory).log := by
  simp only [startStore]
  split <;> rfl

theorem kept_startStore_of_reacted (keeping : surroundings.Keeping holds)
    (reacted : holds (surroundings.react (.startup handle.id) directory)) :
    holds (directory.startStore surroundings handle).2 := by
  simp only [startStore]
  split
  · exact reacted
  · rename_i store present
    exact keeping (.setStore present (.startup store)) reacted

theorem kept_startStore (keeping : surroundings.Keeping holds) (held : holds directory) :
    holds (directory.startStore surroundings handle).2 :=
  kept_startStore_of_reacted keeping (keeping (.react directory (.startup handle.id)) held)

theorem kept_stopStore (handle : Handle) (keeping : surroundings.Keeping holds)
    (held : holds directory) : holds (directory.stopStore handle) := by
  unfold stopStore
  split
  · exact held
  · rename_i store present
    exact keeping (.setStore present (.shutdown store)) held

theorem kept_insert (handle : Handle) (key : Hash) (entry : Entry)
    (keeping : surroundings.Keeping holds) (held : holds directory) :
    holds (directory.insert handle key entry).2 := by
  unfold insert
  split
  · exact held
  · rename_i store present
    exact keeping (.setStore present (.insert store key entry)) held

theorem kept_seedPeers (keeping : surroundings.Keeping holds) (peers : List Hash)
    {sofar : Nat × Directory φ σ γ} (held : holds sofar.2) :
    holds (peers.foldl (seedPeer handle) sofar).2 := by
  induction peers generalizing sofar with
  | nil => exact held
  | cons peer rest ih =>
    apply ih
    simp only [seedPeer]
    split
    · exact held
    · split
      · exact kept_insert handle _ _ keeping held
      · exact keeping (.note _ _) (kept_insert handle _ _ keeping held)

theorem kept_seed (handle : Handle) (keeping : surroundings.Keeping holds)
    (held : holds directory) : holds (directory.seed handle) := by
  simp only [seed]
  split
  · exact held
  · split
    · exact keeping (.note _ _) (kept_count .seedingSkipped 1 keeping held)
    · refine keeping (.note _ _) (kept_count .seededPeers _ keeping ?_)
      exact kept_seedPeers keeping _ held

theorem kept_giveUp (client : Hash) (handle : Handle) (keeping : surroundings.Keeping holds)
    (held : holds directory) : holds (directory.giveUp surroundings client handle) :=
  keeping (.setLifecycle _ handle .shutDown) (kept_unregister client handle keeping held)

theorem kept_goLive (handle : Handle) (keeping : surroundings.Keeping holds)
    (held : holds directory) : holds (directory.goLive handle) := by
  have ready := keeping (.setLifecycle _ handle .ready) (kept_seed handle keeping held)
  exact keeping (.note _ _) (kept_count _ 1 keeping ready)

theorem kept_bringUp_of_started (client : Hash) (keeping : surroundings.Keeping holds)
    (opened : directory.closed = false)
    (started : holds (directory.startStore surroundings handle).2) :
    holds (directory.bringUp surroundings client handle).2 := by
  simp only [bringUp_eq, opened, Bool.false_eq_true, if_false]
  split
  · exact keeping (.note _ _) (kept_giveUp client handle keeping started)
  · exact kept_goLive handle keeping started

theorem kept_bringUp (keeping : surroundings.Keeping holds) (held : holds directory) :
    holds (directory.bringUp surroundings client handle).2 := by
  cases closed : directory.closed with
  | true =>
    simp only [bringUp_eq, closed, if_true]
    exact kept_giveUp client handle keeping held
  | false => exact kept_bringUp_of_started client keeping closed (kept_startStore keeping held)

theorem kept_startClient (client : Hash) (handle : Handle) (keeping : surroundings.Keeping holds)
    (held : holds directory) : holds (directory.startClient surroundings client handle).2 := by
  unfold startClient
  cases directory.partition? handle with
  | none => exact held
  | some partition =>
    dsimp only
    split
    · exact keeping (.wait directory) held
    · cases partition.lifecycle with
      | ready => exact held
      | shutDown => exact held
      | creating =>
        have locked := keeping (.setLocked directory handle true) held
        exact keeping (.setLocked _ handle false) (kept_bringUp keeping locked)

theorem kept_stop (handle : Handle) (keeping : surroundings.Keeping holds)
    (held : holds directory) : holds (directory.stop handle).2 := by
  unfold stop
  cases directory.partition? handle with
  | none => exact held
  | some partition =>
    dsimp only
    split
    · exact keeping (.wait directory) held
    · cases partition.lifecycle with
      | shutDown => exact held
      | creating => exact keeping (.setLifecycle directory handle .shutDown) held
      | ready =>
        exact keeping (.setLifecycle _ handle .shutDown) (kept_stopStore handle keeping held)

theorem kept_stopCounted {count : Nat} (keeping : surroundings.Keeping holds)
    (held : holds directory) : holds (stopCounted (count, directory) handle).2 := by
  have stopped := kept_stop handle keeping held
  simp only [stopCounted]
  split
  · exact keeping (.note _ _) (kept_count _ 1 keeping stopped)
  · exact stopped

theorem kept_stopAll (handles : List Handle) {count : Nat} (keeping : surroundings.Keeping holds)
    (held : holds directory) : holds (handles.foldl stopCounted (count, directory)).2 := by
  induction handles generalizing count directory with
  | nil => exact held
  | cons handle rest ih => exact ih (kept_stopCounted keeping held)

theorem kept_removeClient (keeping : surroundings.Keeping holds) (held : holds directory) :
    holds (directory.removeClient surroundings client).2 := by
  unfold removeClient
  cases directory.tracked? client with
  | none => exact keeping (.note _ _) held
  | some handle =>
    have stopped := kept_stop handle keeping (kept_unregister client handle keeping held)
    dsimp only
    split
    · exact keeping (.note _ _) (kept_count _ 1 keeping stopped)
    · exact stopped

theorem kept_shutdown (keeping : surroundings.Keeping holds) (held : holds directory) :
    holds (directory.shutdown surroundings) :=
  keeping (.note _ _) (kept_stopAll _ keeping (kept_publish ∅ true keeping held))

theorem kept_setIsolation (enabled : Bool) (keeping : surroundings.Keeping holds)
    (held : holds directory) : holds (directory.setIsolation enabled) := by
  have changed := keeping (.adjust directory directory.clients (directory.policy.set enabled).2
    directory.closed directory.seedPeers directory.live directory.metrics) held
  simp only [setIsolation]
  split
  · exact changed
  · exact keeping (.note _ _) changed

theorem kept_findLease (key : Hash) (keeping : surroundings.Keeping holds)
    (held : holds directory) : holds (directory.findLease key).2 := by
  rw [findLease_after]
  exact kept_count _ 1 keeping held

theorem kept_attend_of_started (keeping : surroundings.Keeping holds) {looks : Nat}
    {found : Handle × Directory φ σ γ} (unready : found.2.isReady found.1 = false)
    (started : holds (found.2.startClient surroundings client found.1).2)
    (later : ∀ directory, holds directory →
      holds (clientWithin surroundings client looks directory).2) :
    holds (attend surroundings client looks found).2 := by
  simp only [attend, unready, Bool.false_eq_true, if_false]
  split
  · exact started
  · exact started
  · exact later _ (kept_unregister client found.1 keeping started)

theorem kept_attend (keeping : surroundings.Keeping holds) {looks : Nat}
    {found : Handle × Directory φ σ γ} (held : holds found.2)
    (later : ∀ directory, holds directory →
      holds (clientWithin surroundings client looks directory).2) :
    holds (attend surroundings client looks found).2 := by
  cases ready : found.2.isReady found.1 with
  | true =>
    simp only [attend, ready, if_true]
    exact held
  | false =>
    exact kept_attend_of_started keeping ready (kept_startClient client found.1 keeping held) later

theorem kept_clientWithin (client : Hash) (keeping : surroundings.Keeping holds) (looks : Nat)
    (directory : Directory φ σ γ) (held : holds directory) :
    holds (clientWithin surroundings client looks directory).2 := by
  induction looks generalizing directory with
  | zero => exact keeping (.wait directory) held
  | succ looks ih =>
    rw [clientWithin_succ]
    split
    · exact held
    · exact kept_attend keeping (kept_seek keeping held) ih

theorem kept_resolve (keeping : surroundings.Keeping holds) (held : holds directory)
    (id : Option PartitionId) : holds (directory.resolve surroundings id).2 := by
  match id with
  | none => exact held
  | some (.wellKnown role) => exact held
  | some (.client client) =>
    simp only [resolve]
    split
    · exact kept_clientWithin client keeping _ _ held
    · exact held

theorem kept_startWellKnown (role : WellKnown) (keeping : surroundings.Keeping holds)
    (held : holds directory) : holds (directory.startWellKnown surroundings role).2 := by
  have begun := kept_build (.wellKnown role) keeping held
  simp only [startWellKnown]
  generalize directory.build surroundings (.wellKnown role) = built at *
  have locked := keeping (.setLocked built.2 built.1 true) begun
  have started := @kept_startStore _ _ _ _ _ _ _ _ built.1 keeping locked
  split
  · exact keeping (.setLocked _ _ false) started
  · have ready := keeping (.setLifecycle _ built.1 .ready) started
    have unlocked := keeping (.setLocked _ built.1 false) ready
    exact keeping (.note _ _) (kept_count _ 1 keeping unlocked)

theorem kept_stopBuilt (handles : List Handle) (keeping : surroundings.Keeping holds)
    (held : holds directory) :
    holds (handles.foldl (fun directory handle => (directory.stop handle).2) directory) := by
  induction handles generalizing directory with
  | nil => exact held
  | cons handle rest ih => exact ih (kept_stop handle keeping held)

theorem kept_startAll {sofar : List Handle} {roles : List WellKnown}
    (keeping : surroundings.Keeping holds) (held : holds directory) :
    holds (startAll surroundings sofar roles directory).2 := by
  induction roles generalizing sofar directory with
  | nil => exact held
  | cons role rest ih =>
    have started := kept_startWellKnown role keeping held
    simp only [startAll]
    split
    · exact ih started
    · exact kept_stopBuilt sofar keeping started

theorem kept_start (settings : Settings) (keeping : surroundings.Keeping holds)
    (held : holds directory) : holds (directory.start surroundings settings).2 := by
  simp only [start]
  split
  · exact held
  · have all := @kept_startAll _ _ _ _ _ _ _ directory [] WellKnown.all keeping held
    split
    · exact all
    · exact keeping (.note _ _) (keeping (.adjust _ _ ⟨settings.isolation⟩ _
        settings.seedPeers.toNat _ _) all)

/-- What is not broken behind a directory's back. -/
structure Untouched [Backdoor φ σ τ υ] (holds : Directory φ σ γ → Prop) : Prop where
  tune : ∀ {directory : Directory φ σ γ} (tuning : τ), holds directory →
    holds { directory with factory := Backdoor.tune σ tuning directory.factory }
  touch : ∀ {directory : Directory φ σ γ} {handle store} (change : υ),
    directory.store? handle = some store → holds directory →
      holds (directory.setStore handle (Backdoor.touch φ change store).2)

theorem kept_perform [Backdoor φ σ τ υ] (keeping : surroundings.Keeping holds)
    (untouched : Untouched holds) (held : holds directory) (call : Call τ υ) :
    holds (directory.perform surroundings call).2 := by
  cases call with
  | resolve id => exact kept_resolve keeping held id
  | clientPartition id =>
    cases id with
    | none => exact held
    | some id => exact kept_resolve keeping held (some id)
  | removeClient client => exact kept_removeClient keeping held
  | setIsolation enabled => exact kept_setIsolation enabled keeping held
  | shutdown => exact kept_shutdown keeping held
  | findLease key => exact kept_findLease key keeping held
  | ask question => exact held
  | insert handle key entry => exact kept_insert handle key entry keeping held
  | session client opened =>
    exact keeping (.adjust directory directory.clients directory.policy directory.closed
      directory.seedPeers _ directory.metrics) held
  | tune tuning => exact untouched.tune tuning held
  | touch handle change =>
    simp only [perform, touchStore]
    split
    · exact held
    · rename_i store present
      exact untouched.touch change present held
  | startStore handle => exact kept_startStore keeping held
  | stopStore handle => exact kept_stopStore handle keeping held

/-! ## Waiting for ever, and the log -/

abbrev Holds (holds : Bool → List LogEvent → γ → Prop) (directory : Directory φ σ γ) : Prop :=
  holds directory.stuck directory.log directory.outside

theorem keeping_of_holds {holds : Bool → List LogEvent → γ → Prop}
    (wait : ∀ {stuck log outside}, holds stuck log outside → holds true log outside)
    (note : ∀ {stuck log outside}, holds stuck log outside → ∀ event,
      holds stuck (event :: log) outside)
    (react : ∀ moment (directory : Directory φ σ γ), directory.Holds holds →
      (surroundings.react moment directory).Holds holds) :
    surroundings.Keeping (Holds holds) := by
  intro before after change held
  cases change with
  | react moment => exact react moment before held
  | wait => exact wait held
  | note event => exact note held event
  | adjust => exact held
  | build => exact held
  | setLifecycle => exact held
  | setLocked => exact held
  | setStore => exact held

omit [PartitionStore σ] [StoreFactory φ σ] in
theorem untouched_holds [Backdoor φ σ τ υ] {holds : Bool → List LogEvent → γ → Prop} :
    Untouched (Holds holds : Directory φ σ γ → Prop) :=
  ⟨fun _ held => held, fun _ _ held => held⟩

theorem keeping_outside (turns : Nat) (holds : γ → Prop) :
    (Surroundings.quiet turns : Surroundings φ σ γ).Keeping fun directory =>
      holds directory.outside :=
  @keeping_of_holds _ _ _ _ _ (.quiet turns) (fun _ _ outside => holds outside) (fun held => held)
    (fun held _ => held) fun _ _ held => held

theorem keeping_log (base : List LogEvent)
    (react : ∀ moment (directory : Directory φ σ γ), base <:+ directory.log →
      base <:+ (surroundings.react moment directory).log) :
    surroundings.Keeping fun directory => base <:+ directory.log :=
  @keeping_of_holds _ _ _ _ _ surroundings (fun _ log _ => base <:+ log) (fun grown => grown)
    (fun grown event => grown.trans (List.suffix_cons event _)) react

theorem keeping_stuck (patient : surroundings.Patient) :
    surroundings.Keeping fun directory => directory.stuck = true :=
  @keeping_of_holds _ _ _ _ _ surroundings (fun stuck _ _ => stuck = true) (fun _ => rfl)
    (fun stuck _ => stuck) patient

omit [PartitionStore σ] [StoreFactory φ σ] in
theorem stuck_eq_of_shape {a b : Directory φ σ γ} (same : a.shape = b.shape) :
    a.stuck = b.stuck :=
  congrArg Shape.stuck same

omit [PartitionStore σ] [StoreFactory φ σ] in
theorem unstuck_of_later {a b : Directory φ σ γ} (unstuck : b.stuck = false)
    (later : a.stuck = true → b.stuck = true) : a.stuck = false := by
  cases stuck : a.stuck with
  | false => rfl
  | true => exact (later stuck).symm.trans unstuck

theorem stuck_unregister (client : Hash) (handle : Handle) (patient : surroundings.Patient)
    (stuck : directory.stuck = true) :
    (directory.unregister surroundings client handle).stuck = true :=
  kept_unregister client handle (keeping_stuck patient) stuck

theorem stuck_register (client : Hash) (patient : surroundings.Patient)
    (stuck : directory.stuck = true) :
    (directory.register surroundings client).2.stuck = true :=
  kept_register client (keeping_stuck patient) stuck

theorem stuck_startStore (patient : surroundings.Patient) (stuck : directory.stuck = true) :
    (directory.startStore surroundings handle).2.stuck = true :=
  kept_startStore (keeping_stuck patient) stuck

theorem stuck_bringUp_of_started (client : Hash) (patient : surroundings.Patient)
    (opened : directory.closed = false)
    (started : (directory.startStore surroundings handle).2.stuck = true) :
    (directory.bringUp surroundings client handle).2.stuck = true :=
  kept_bringUp_of_started client (keeping_stuck patient) opened started

theorem stuck_bringUp (patient : surroundings.Patient) (stuck : directory.stuck = true) :
    (directory.bringUp surroundings client handle).2.stuck = true :=
  kept_bringUp (keeping_stuck patient) stuck

theorem stuck_stopAll (handles : List Handle) {count : Nat} (stuck : directory.stuck = true) :
    (handles.foldl stopCounted (count, directory)).2.stuck = true :=
  kept_stopAll handles (keeping_stuck (Surroundings.patient_quiet 0)) stuck

theorem stuck_attend (patient : surroundings.Patient) {looks : Nat}
    {found : Handle × Directory φ σ γ} (stuck : found.2.stuck = true)
    (later : ∀ directory, directory.stuck = true →
      (clientWithin surroundings client looks directory).2.stuck = true) :
    (attend surroundings client looks found).2.stuck = true :=
  kept_attend (keeping_stuck patient) stuck later

theorem stuck_clientWithin (client : Hash) (patient : surroundings.Patient) (looks : Nat)
    (directory : Directory φ σ γ) (stuck : directory.stuck = true) :
    (clientWithin surroundings client looks directory).2.stuck = true :=
  kept_clientWithin client (keeping_stuck patient) looks directory stuck

theorem stuck_perform [Backdoor φ σ τ υ] (patient : surroundings.Patient)
    (stuck : directory.stuck = true) (call : Call τ υ) :
    (directory.perform surroundings call).2.stuck = true :=
  kept_perform (keeping_stuck patient) ⟨fun _ stuck => stuck, fun _ _ stuck => stuck⟩ stuck call

end Directory

end PeerDirectory
