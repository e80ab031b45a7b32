import Testbed.Proofs.Engine.Conduct
import Testbed.Proofs.Universe.Creation
import Testbed.Proofs.Universe.Deployment
/-!
# Which calls a universe lets in

A universe is asked to be deployed, to be shut down and to be destroyed, in any order and as often
as anybody likes. Whether it lets a call in is settled by its state, and that by the calls that were
made before (`Stands`): a deployment has to be the first call, nothing but attempts to deploy may
come before a shutdown, and a destruction is only kept out by an earlier one. Whatever the calls
come to, the state moves forward, and one that is kept out changes nothing (`session_orderly`).
-/

namespace Testbed

/-- How far a universe is in its life. -/
def UniverseState.rank : UniverseState → Nat
  | .empty => 0
  | .provisioning => 1
  | .deploying => 2
  | .bootstrapped => 3
  | .shutDown => 4
  | .destroyed => 5

namespace Universe

/-- What is asked of a universe as a whole. -/
inductive Demand where
  | deploy
  | shutDown
  | destroy
  deriving DecidableEq

namespace Demand

/-- What a refusal calls it. -/
def text : Demand → String
  | .deploy => "deploy"
  | .shutDown => "shut down"
  | .destroy => "destroy"

/-- The check of the state that comes before everything else. -/
def accept (u : Universe) : Demand → Except Error Universe
  | .deploy => u.beginDeploy
  | .shutDown => u.beginTeardown .shutDown "shut down"
  | .destroy => u.beginTeardown .destroyed "destroy"

def perform (u : Universe) : Demand → Work (UniverseOutcome (Option TeardownSummary))
  | .deploy => (fun o => (o.1.map fun _ => none, o.2)) <$> u.deploy
  | .shutDown => (fun o => (o.1.map some, o.2)) <$> u.shutDown
  | .destroy => (fun o => (o.1.map some, o.2)) <$> u.destroy

/-- What may have been asked before a demand that is let in. -/
def Timely (past : List Demand) : Demand → Prop
  | .deploy => past = []
  | .shutDown => ∀ d ∈ past, d = .deploy
  | .destroy => .destroy ∉ past

/-- The states in which a demand is let in. -/
def Opens (s : UniverseState) : Demand → Prop
  | .deploy => s = .empty
  | .shutDown => s ≠ .shutDown ∧ s ≠ .destroyed
  | .destroy => s ≠ .destroyed

/-- The state that a demand sets as it is let in. -/
def start (u : Universe) : Demand → UniverseState
  | .deploy => u.firstState
  | .shutDown => .shutDown
  | .destroy => .destroyed

/-- The states in which a demand that started in one may leave a universe. -/
def Ends (first s : UniverseState) : Demand → Prop
  | .deploy => first.rank ≤ s.rank ∧ s.rank ≤ UniverseState.bootstrapped.rank
  | .shutDown | .destroy => s = first

end Demand

/-- One call that was made to its end. -/
structure Dealing where
  demand : Demand
  before : Universe
  events : List (Event outside)
  answer : Except Error (Option TeardownSummary)
  after : Universe

namespace Dealing

/-- The call got past the check of the state. -/
def Admitted (d : Dealing) : Prop := ∃ u, d.demand.accept d.before = .ok u

/-- The call was told in which state the universe is, and did nothing. -/
structure Refused (d : Dealing) : Prop where
  answer : d.answer = .error (.invalidState d.before.state.text d.demand.text)
  events : d.events = []
  after : d.after = d.before

end Dealing

section

variable {σ : Type}

def dealing (peers : Peers outside σ) (demand : Demand) (u : Universe) (m : Moment σ) : Dealing :=
  let o := (demand.perform u).run peers m
  ⟨demand, u, (demand.perform u).trace peers m, o.1.1, o.1.2⟩

/-- Makes calls one after the other. -/
def session (peers : Peers outside σ) : List Demand → Universe → Moment σ → List Dealing
  | [], _, _ => []
  | demand :: rest, u, m =>
    let o := (demand.perform u).run peers m
    dealing peers demand u m :: session peers rest o.1.2 o.2

end

/-- How a universe deals with calls, given what was asked of it before. -/
structure Orderly (past : List Demand) (u : Universe) (ds : List Dealing) : Prop where
  forward : (u.state :: ds.map (·.after.state)).Pairwise fun s t => s.rank ≤ t.rank
  admitted : ∀ earlier d later, ds = earlier ++ d :: later →
    (d.Admitted ↔ d.demand.Timely (past ++ earlier.map (·.demand)))
  /-- A call that is let in sets a later state at once, and never goes back behind it. -/
  progress : ∀ d ∈ ds, ∀ v, d.demand.accept d.before = .ok v →
    d.before.state.rank < v.state.rank ∧ v.state.rank ≤ d.after.state.rank
  teardowns : ∀ d ∈ ds, d.demand ≠ .deploy → d.Admitted → ∃ summary, d.answer = .ok (some summary)
  refused : ∀ d ∈ ds, ¬d.Admitted → d.Refused

variable {past : List Demand} {demand : Demand} {u : Universe} {s t : UniverseState}
  {es : List (Event outside)}

/-! ## The state after a call -/

theorem firstState_rank : 0 < u.firstState.rank ∧
    u.firstState.rank ≤ UniverseState.deploying.rank := by
  unfold firstState
  cases u.environment with
  | docker => decide
  | vm vm => exact ⟨Nat.zero_lt_one, Nat.le_succ 1⟩

theorem deploy_ends (untouched : u.state = .empty) {o : UniverseOutcome Unit}
    (leads : u.deploy.Leads es o) : Demand.deploy.Ends u.firstState o.2.state := by
  have early := (@firstState_rank u).2
  have last : UniverseState.deploying.rank ≤ UniverseState.bootstrapped.rank := by decide
  rw [deploy_eq untouched] at leads
  obtain ⟨_, _, ⟨r, v⟩, -, prepared, leads⟩ := Procedure.leads_bind.1 leads
  have ready : Demand.deploy.Ends u.firstState v.state := by
    rcases prepareEnvironment_state prepared with ⟨-, deploying⟩ | ⟨-, same⟩
    · change v.state = .deploying at deploying
      rw [deploying]
      exact ⟨early, last⟩
    · change v.state = u.firstState at same
      rw [same]
      exact ⟨Nat.le_refl _, Nat.le_trans early last⟩
  cases r with
  | error e =>
    rw [(Procedure.leads_pure.1 leads).2]
    exact ready
  | ok _ =>
    obtain ⟨r, w, deployed, rfl⟩ := populate_leads leads
    cases r with
    | ok _ => exact ⟨Nat.le_trans early last, Nat.le_refl _⟩
    | error e =>
      have kept := congrArg Universe.state (deployClusters_rest deployed)
      change w.state = v.state at kept
      rwa [← kept] at ready

theorem tearDown_state {act : Cluster Physical → Work (TeardownSummary × Cluster Physical)}
    {summary : TeardownSummary} {rest : List (Cluster Physical)} {o : TeardownSummary × Universe}
    (leads : (u.tearDown act summary rest).Leads es o) : o.2.state = u.state := by
  induction rest generalizing u es summary with
  | nil => rw [(Procedure.leads_pure.1 leads).2]
  | cons c rest ih =>
    obtain ⟨_, _, ⟨s, c'⟩, -, -, leads⟩ := Procedure.leads_bind.1 leads
    have kept := ih leads
    exact kept

/-! ## One call -/

theorem beginTeardown_admits {next : UniverseState} {operation : String} :
    (∃ v, u.beginTeardown next operation = .ok v) ↔ ¬(u.state = next ∨ u.state = .destroyed) := by
  unfold beginTeardown
  by_cases refused : u.state = next ∨ u.state = .destroyed
  · simp [refused]
  · simp [refused]

theorem beginTeardown_error {next : UniverseState} {operation : String} {e : Error}
    (kept : u.beginTeardown next operation = .error e) : e = u.refusal operation := by
  unfold beginTeardown at kept
  split at kept
  · exact (Except.error.inj kept).symm
  · cases kept

theorem beginTeardown_ok {next : UniverseState} {operation : String} {v : Universe}
    (admitted : u.beginTeardown next operation = .ok v) : v.state = next := by
  unfold beginTeardown at admitted
  split at admitted
  · cases admitted
  · rw [← Except.ok.inj admitted]

theorem accept_iff : (∃ v, demand.accept u = .ok v) ↔ demand.Opens u.state := by
  cases demand with
  | deploy =>
    unfold Demand.accept Demand.Opens beginDeploy
    by_cases untouched : u.state = .empty <;> simp [untouched]
  | shutDown => exact beginTeardown_admits.trans not_or
  | destroy => exact beginTeardown_admits.trans (by rw [or_self]; rfl)

theorem accept_start {v : Universe} (admitted : demand.accept u = .ok v) :
    v.state = demand.start u := by
  cases demand with
  | deploy =>
    change u.beginDeploy = .ok v at admitted
    unfold beginDeploy at admitted
    split at admitted
    · rw [← Except.ok.inj admitted]
      rfl
    · cases admitted
  | shutDown => exact beginTeardown_ok admitted
  | destroy => exact beginTeardown_ok admitted

theorem accept_error {e : Error} (kept : demand.accept u = .error e) :
    e = u.refusal demand.text := by
  cases demand with
  | deploy =>
    change u.beginDeploy = .error e at kept
    unfold beginDeploy at kept
    split at kept
    · cases kept
    · exact (Except.error.inj kept).symm
  | shutDown => exact beginTeardown_error kept
  | destroy => exact beginTeardown_error kept

/-- A call that is kept out fails at once. -/
theorem perform_refused {e : Error} (kept : demand.accept u = .error e) :
    demand.perform u = pure (.error e, u) := by
  cases demand with
  | deploy =>
    change u.beginDeploy = .error e at kept
    unfold Demand.perform deploy
    rw [kept]
    rfl
  | shutDown =>
    change u.beginTeardown .shutDown "shut down" = .error e at kept
    unfold Demand.perform shutDown
    rw [kept]
    rfl
  | destroy =>
    change u.beginTeardown .destroyed "destroy" = .error e at kept
    unfold Demand.perform destroy
    rw [kept]
    rfl

/-- A call that is let in leaves its mark on the state, and a teardown succeeds. -/
theorem perform_admitted (opens : demand.Opens u.state)
    {o : UniverseOutcome (Option TeardownSummary)} (leads : (demand.perform u).Leads es o) :
    demand.Ends (demand.start u) o.2.state ∧
      (demand ≠ .deploy → ∃ summary, o.1 = .ok (some summary)) := by
  cases demand with
  | deploy =>
    obtain ⟨result, deployed, rfl⟩ := Procedure.leads_map.1 leads
    exact ⟨deploy_ends opens deployed, fun other => absurd rfl other⟩
  | shutDown =>
    have accepted : u.beginTeardown .shutDown "shut down" = .ok { u with state := .shutDown } :=
      if_neg (not_or.2 opens)
    obtain ⟨result, ended, rfl⟩ := Procedure.leads_map.1 leads
    unfold shutDown at ended
    rw [accepted] at ended
    obtain ⟨_, _, ⟨summary, v⟩, -, torn, ended⟩ := Procedure.leads_bind.1 ended
    rw [(Procedure.leads_pure.1 ended).2]
    exact ⟨tearDown_state torn, fun _ => ⟨summary, rfl⟩⟩
  | destroy =>
    have accepted : u.beginTeardown .destroyed "destroy" = .ok { u with state := .destroyed } :=
      if_neg (by rwa [or_self])
    obtain ⟨result, ended, rfl⟩ := Procedure.leads_map.1 leads
    unfold destroy at ended
    rw [accepted] at ended
    obtain ⟨_, _, ⟨summary, v⟩, -, torn, ended⟩ := Procedure.leads_bind.1 ended
    obtain ⟨_, _, _, -, -, ended⟩ := Procedure.leads_bind.1 ended
    rw [(Procedure.leads_pure.1 ended).2]
    exact ⟨tearDown_state torn, fun _ => ⟨summary, rfl⟩⟩

/-! ## What the state tells of the past -/

/-- What a state tells of the calls that were made. -/
structure Stands (past : List Demand) (s : UniverseState) : Prop where
  untouched : s = .empty ↔ past = []
  down : s = .shutDown ∨ s = .destroyed ↔ ∃ d ∈ past, d ≠ .deploy
  gone : s = .destroyed ↔ .destroy ∈ past

theorem stands_nil : Stands [] .empty := by
  constructor <;> simp

theorem Stands.timely (stands : Stands past s) : demand.Opens s ↔ demand.Timely past := by
  cases demand with
  | deploy => exact stands.untouched
  | shutDown =>
    unfold Demand.Opens Demand.Timely
    rw [← not_or, stands.down]
    simp
  | destroy => exact not_congr stands.gone

/-- A call that is let in is remembered by the state it leads to. -/
theorem Stands.admitted (stands : Stands past u.state) (opens : demand.Opens u.state)
    (ends : demand.Ends (demand.start u) t) : Stands (past ++ [demand]) t := by
  have before := stands.timely.1 opens
  cases demand with
  | deploy =>
    subst before
    obtain ⟨least, most⟩ := ends
    have touched : 0 < t.rank := Nat.lt_of_lt_of_le firstState_rank.1 least
    cases t with
    | empty => contradiction
    | provisioning | deploying | bootstrapped => constructor <;> simp
    | shutDown | destroyed => exact absurd most (by decide)
  | shutDown =>
    subst ends
    have none : Demand.destroy ∉ past := fun mem => nomatch before _ mem
    constructor <;> simp [none, Demand.start]
  | destroy =>
    subst ends
    constructor <;> simp [Demand.start]

/-- A call that is kept out tells nothing that the state does not show. -/
theorem Stands.refused (stands : Stands past s) (kept : ¬demand.Opens s) :
    Stands (past ++ [demand]) s := by
  cases demand with
  | deploy =>
    have touched : s ≠ .empty := kept
    constructor
    · simp [touched]
    · simpa using stands.down
    · simpa using stands.gone
  | shutDown =>
    have ended : s = .shutDown ∨ s = .destroyed := by
      simpa [Demand.Opens, Classical.or_iff_not_imp_left] using kept
    have touched : s ≠ .empty := by
      rcases ended with rfl | rfl <;> decide
    constructor
    · simp [touched]
    · simp [ended]
    · simpa using stands.gone
  | destroy =>
    have gone : s = .destroyed := Classical.not_not.1 kept
    subst gone
    constructor <;> simp

theorem start_rank (opens : demand.Opens u.state) : u.state.rank < (demand.start u).rank := by
  cases demand with
  | deploy =>
    have untouched : u.state = .empty := opens
    rw [untouched]
    exact firstState_rank.1
  | shutDown =>
    obtain ⟨notDown, notGone⟩ := opens
    change _ < UniverseState.shutDown.rank
    cases state : u.state with
    | empty | provisioning | deploying | bootstrapped => decide
    | shutDown => exact absurd state notDown
    | destroyed => exact absurd state notGone
  | destroy =>
    change _ < UniverseState.destroyed.rank
    cases state : u.state with
    | empty | provisioning | deploying | bootstrapped | shutDown => decide
    | destroyed => exact absurd state opens

theorem ends_rank {first : UniverseState} (ends : demand.Ends first t) : first.rank ≤ t.rank := by
  cases demand with
  | deploy => exact ends.1
  | shutDown | destroy =>
    have same : t = first := ends
    exact Nat.le_of_eq (congrArg UniverseState.rank same.symm)

/-! ## Any number of calls -/

section

variable {σ : Type} {peers : Peers outside σ} {demands : List Demand} {m : Moment σ}

theorem dealing_admitted : (dealing peers demand u m).Admitted ↔ demand.Opens u.state :=
  accept_iff

theorem dealing_refused (kept : ¬(dealing peers demand u m).Admitted) :
    (dealing peers demand u m).Refused := by
  cases checked : demand.accept u with
  | ok v => exact absurd ⟨v, checked⟩ kept
  | error e =>
    have named := accept_error checked
    unfold dealing
    rw [perform_refused checked, named]
    exact ⟨rfl, rfl, rfl⟩

/-- What a call that was let in came to. -/
theorem dealing_ends (admitted : (dealing peers demand u m).Admitted) :
    demand.Ends (demand.start u) (dealing peers demand u m).after.state ∧
      (demand ≠ .deploy → ∃ summary, (dealing peers demand u m).answer = .ok (some summary)) :=
  perform_admitted (dealing_admitted.1 admitted) (Procedure.leads_run peers (demand.perform u) m)

theorem dealing_progress {v : Universe} (admitted : demand.accept u = .ok v) :
    u.state.rank < v.state.rank ∧
      v.state.rank ≤ (dealing peers demand u m).after.state.rank := by
  rw [accept_start admitted]
  exact ⟨start_rank (accept_iff.1 ⟨v, admitted⟩), ends_rank (dealing_ends ⟨v, admitted⟩).1⟩

theorem dealing_forward : u.state.rank ≤ (dealing peers demand u m).after.state.rank := by
  by_cases admitted : (dealing peers demand u m).Admitted
  · obtain ⟨v, admitted⟩ := admitted
    obtain ⟨further, beyond⟩ := dealing_progress admitted
    exact Nat.le_trans (Nat.le_of_lt further) beyond
  · have same : (dealing peers demand u m).after = u := (dealing_refused admitted).after
    exact Nat.le_of_eq (congrArg (·.state.rank) same.symm)

theorem Stands.dealing (stands : Stands past u.state) :
    Stands (past ++ [demand]) (dealing peers demand u m).after.state := by
  by_cases admitted : (Universe.dealing peers demand u m).Admitted
  · exact stands.admitted (dealing_admitted.1 admitted) (dealing_ends admitted).1
  · have same : (Universe.dealing peers demand u m).after = u := (dealing_refused admitted).after
    rw [same]
    exact stands.refused fun opens => admitted (dealing_admitted.2 opens)

theorem session_demands : (session peers demands u m).map (·.demand) = demands := by
  induction demands generalizing u m with
  | nil => rfl
  | cons demand rest ih =>
    rw [session, List.map_cons, ih]
    rfl

theorem Orderly.cons {ds : List Dealing} (stands : Stands past u.state)
    (later : Orderly (past ++ [demand]) (dealing peers demand u m).after ds) :
    Orderly past u (dealing peers demand u m :: ds) where
  forward := by
    refine List.pairwise_cons.2 ⟨fun s mem => ?_, later.forward⟩
    have beyond : (dealing peers demand u m).after.state.rank ≤ s.rank := by
      rcases List.mem_cons.1 mem with rfl | mem
      · exact Nat.le_refl _
      · exact (List.pairwise_cons.1 later.forward).1 s mem
    exact Nat.le_trans dealing_forward beyond
  admitted := by
    intro earlier d rest split
    cases earlier with
    | nil =>
      obtain ⟨rfl, -⟩ := List.cons.inj split
      rw [List.map_nil, List.append_nil]
      exact dealing_admitted.trans stands.timely
    | cons first earlier =>
      obtain ⟨rfl, split_later⟩ := List.cons.inj split
      have settled := later.admitted earlier d rest split_later
      rwa [List.append_assoc] at settled
  progress := by
    intro d mem
    rcases List.mem_cons.1 mem with rfl | mem
    · exact fun v admitted => dealing_progress admitted
    · exact later.progress d mem
  teardowns := by
    intro d mem
    rcases List.mem_cons.1 mem with rfl | mem
    · exact fun teardown admitted => (dealing_ends admitted).2 teardown
    · exact later.teardowns d mem
  refused := by
    intro d mem
    rcases List.mem_cons.1 mem with rfl | mem
    · exact dealing_refused
    · exact later.refused d mem

theorem Stands.orderly (stands : Stands past u.state) :
    Orderly past u (session peers demands u m) := by
  induction demands generalizing past u m with
  | nil => constructor <;> simp [session]
  | cons demand rest ih => exact Orderly.cons stands (ih stands.dealing)

end

theorem session_orderly {params : UniverseParams} {bootstrapper : Bootstrapper}
    (fresh : Fresh params bootstrapper u) {σ : Type} (peers : Peers outside σ)
    (demands : List Demand) (m : Moment σ) :
    (session peers demands u m).map (·.demand) = demands ∧
      Orderly [] u (session peers demands u m) := by
  obtain ⟨-, environment, rfl⟩ := fresh.eq
  exact ⟨session_demands, Stands.orderly stands_nil⟩

/-- Every call is made twice, and the last one comes too late. -/
theorem session_orderly_twice :
    let cluster := { ClusterParams.named "alpha" with nodes := [.ofPort 9000] }
    let params := UniverseParams.default.withCluster cluster
    let u := inEnvironment params .docker .delegated
    let demands : List Demand :=
      [.deploy, .deploy, .shutDown, .shutDown, .destroy, .destroy, .deploy]
    let m : Moment Lab.Engine := ⟨.zero, .empty Lab.Engine.defaultInfo []⟩
    let ds := session Lab.Engine.peers demands u m
    Fresh params .delegated u ∧ ds.map (·.demand) = demands ∧ Orderly [] u ds := by
  intro cluster params u demands m ds
  have fresh : Fresh params .delegated u :=
    .inl (docker_of_valid (toOption_eq_some.1 (by decide +kernel)) rfl)
  exact ⟨fresh, session_orderly fresh Lab.Engine.peers demands m⟩

end Universe

end Testbed
