import Mathlib.Logic.Function.Basic
import Testbed.Proofs.Cluster.Standing
/-!
# Tasks that share a cluster

Tasks take turns in any order (`Run`), and what one does may fall between any two things that
another does. The lock of the parameters has one holder at most. All else is left open: what is
outside answers as it likes, and a node that a task found may have become anything since. What an
operation does to a cluster that nobody uses is one such run (`Run.apply`).

What a task can do where it stands is little (`Steps`), because the cluster is always sound for it
(`Sound`): the parameters stay as the holder of the lock read them, and no node is a member before
it is configured. Every run is a sequence of such steps (`Run.course`).
-/

namespace Testbed

/-- A cluster and the task that holds the lock of its parameters. -/
structure Shared (β : Type) where
  cluster : Cluster β
  holder : Option Nat

/-- Who may do what to the lock, and who holds it then. -/
inductive Access.Locks {β : Type} (i : Nat) : Access β → Option Nat → Option Nat → Prop
  | lock : Locks i .lock none (some i)
  | write (p : ClusterParams) : Locks i (.write p) (some i) (some i)
  | unlock : Locks i .unlock (some i) none
  | params : Locks i .params none none
  | members (holder : Option Nat) : Locks i .members holder holder
  | insert (n : Node β) (holder : Option Nat) : Locks i (.insert n) holder holder
  | look (name : String) (b : β) (holder : Option Nat) : Locks i (.look name b) holder holder
  | note (name : String) (b : β) (holder : Option Nat) : Locks i (.note name b) holder holder
  | erase (name : String) (holder : Option Nat) : Locks i (.erase name) holder holder

/-- What may come of a request by task `i`. -/
inductive Shares {β : Type} (i : Nat) : Shared β → Event (sharing β) → Shared β → Prop
  | outside {s : Shared β} (c : Call) (a : c.Answer) : Shares i s ⟨.outside c, a⟩ s
  | access {s : Shared β} {a : Access β} {holder : Option Nat} (locks : a.Locks i s.holder holder) :
    Shares i s ⟨.access a, (a.apply s.cluster).1⟩ ⟨(a.apply s.cluster).2, holder⟩
  /-- The node is not what it was, or no member any more. -/
  | changed {s : Shared β} (name : String) (b b' : β) : Shares i s ⟨.access (.look name b), b'⟩ s
  /-- The node is no member any more. -/
  | left {s : Shared β} (name : String) (b : β) : Shares i s ⟨.access (.note name b), ()⟩ s

/-- A cluster that is shared, and what each task has still to do. -/
structure System (β : Type) where
  shared : Shared β
  rest : Nat → Task β (Except Error Unit)

/-- A new cluster, and tasks that have not begun. -/
def System.new {β : Type} [Backend β] (setting : ClusterSetting β) (params : ClusterParams)
    (acts : Nat → Cluster.Act) : System β :=
  ⟨⟨.ofParams setting params, none⟩, fun i => (acts i).task setting⟩

/-- A request of one task. -/
structure Move (β : Type) where
  task : Nat
  event : Event (sharing β)
  before : Shared β
  after : Shared β

/-- The tasks take turns, in whatever order. -/
inductive Run {β : Type} (start : System β) : List (Move β) → System β → Prop
  | nil : Run start [] start
  | call {ms : List (Move β)} {u : System β} {t : Shared β} {i : Nat} {r : Request β}
      {next : r.Answer → Duration → Task β (Except Error Unit)} {a : r.Answer} {d : Duration} :
    Run start ms u → u.rest i = .call r next → Shares i u.shared ⟨r, a⟩ t →
    Run start (ms ++ [⟨i, ⟨r, a⟩, u.shared, t⟩]) ⟨t, Function.update u.rest i (next a d)⟩
  | pause {ms : List (Move β)} {u : System β} {i : Nat} {d : Duration}
      {next : Task β (Except Error Unit)} :
    Run start ms u → u.rest i = .pause d next →
    Run start ms ⟨u.shared, Function.update u.rest i next⟩
  | clock {ms : List (Move β)} {u : System β} {i : Nat} {now : Duration}
      {next : Duration → Task β (Except Error Unit)} :
    Run start ms u → u.rest i = .clock next →
    Run start ms ⟨u.shared, Function.update u.rest i (next now)⟩

/-! ## Soundness -/

/-- What a task can rely on where it stands. Members are admitted nodes. -/
def Standing.Relies {β : Type} (admitted : List NodeParams) (i : Nat) (s : Shared β) :
    Standing → Prop
  | .visiting known => s.holder ≠ some i ∧ known ⊆ admitted
  | .waiting _ | .ended _ _ => s.holder ≠ some i
  | .holding _ base =>
    s.holder = some i ∧ s.cluster.params = base ∧ admitted = base.nodes
  | .written node base =>
    s.holder = some i ∧ base.addNode node = .ok s.cluster.params ∧ admitted = base.nodes
  | .registered _ => s.holder = some i ∧ admitted = s.cluster.params.nodes
  | .astray => False

/-- Members have names of their own and are admitted nodes. -/
def Cluster.Admits {β : Type} (c : Cluster β) (admitted : List NodeParams) : Prop :=
  ∀ name n, c.members.find? name = some n → n.name = name ∧ n.params ∈ admitted

/-- All configured nodes are admitted, but for one that is about to be a member. -/
structure Sound {β : Type} (admitted : List NodeParams) (standing : Nat → Standing)
    (s : Shared β) : Prop where
  distinct : s.cluster.params.servers.Nodup
  configured : admitted ⊆ s.cluster.params.nodes
  members : s.cluster.Admits admitted
  free : s.holder = none → admitted = s.cluster.params.nodes
  relies : ∀ i, (standing i).Relies admitted i s

/-- All that a task can do where it stands, and where it stands then. -/
inductive Steps {β : Type} (admitted : List NodeParams) (i : Nat) :
    Standing → Shared β → Event (sharing β) → Standing → Shared β → Prop
  | visit {s t : Shared β} {e : Event (sharing β)} {known later : List NodeParams} :
    t.cluster.params = s.cluster.params → t.holder = s.holder → t.cluster.Admits admitted →
    later ⊆ admitted → Steps admitted i (.visiting known) s e (.visiting later) t
  | lock {s : Shared β} {node : NodeParams} : s.holder = none →
    Steps admitted i (.waiting node) s ⟨.access .lock, s.cluster.params⟩
      (.holding node s.cluster.params) ⟨s.cluster, some i⟩
  | work {s : Shared β} {stands : Standing} {c : Call} {a : c.Answer} : s.holder = some i →
    stands.Works → Steps admitted i stands s ⟨.outside c, a⟩ stands s
  | write {s : Shared β} {node : NodeParams} {p : ClusterParams} :
    s.holder = some i → s.cluster.params.addNode node = .ok p →
    Steps admitted i (.holding node s.cluster.params) s ⟨.access (.write p), ()⟩
      (.written node s.cluster.params) ⟨{ s.cluster with params := p }, some i⟩
  | refuse {s : Shared β} {node : NodeParams} {base : ClusterParams} : s.holder = some i →
    Steps admitted i (.holding node base) s ⟨.access .unlock, ()⟩ (.ended node false)
      ⟨s.cluster, none⟩
  | insert {s : Shared β} {n : Node β} {base : ClusterParams} : s.holder = some i →
    s.cluster.members.find? n.name = none →
    Steps admitted i (.written n.params base) s ⟨.access (.insert n), none⟩
      (.registered n.params)
      ⟨{ s.cluster with members := s.cluster.members.insert n.name n }, some i⟩
  | unlock {s : Shared β} {node : NodeParams} : s.holder = some i →
    Steps admitted i (.registered node) s ⟨.access .unlock, ()⟩ (.ended node true)
      ⟨s.cluster, none⟩

theorem apply_note {β : Type} {c : Cluster β} {name : String} {b : β} :
    (Access.apply c (.note name b)).2 =
      match c.members.find? name with
      | some n => { c with members := c.members.insert name { n with backend := b } }
      | none => c :=
  rfl

theorem params_note {β : Type} {c : Cluster β} {name : String} {b : β} :
    (Access.apply c (.note name b)).2.params = c.params := by
  rw [apply_note]
  cases c.members.find? name with
  | none => rfl
  | some n => rfl

namespace Cluster.Admits

variable {β : Type} {c : Cluster β} {admitted : List NodeParams} {name : String} {n : Node β}

theorem insert (admits : c.Admits admitted) (named : n.name = name)
    (mem : n.params ∈ admitted) :
    Admits { c with members := c.members.insert name n } admitted := by
  intro key k found
  rw [NameMap.find?_insert] at found
  split at found
  · rename_i same
    cases found
    exact ⟨named.trans same.symm, mem⟩
  · exact admits key k found

theorem erase (admits : c.Admits admitted) :
    Admits { c with members := c.members.erase name } admitted := by
  intro key k found
  rw [NameMap.find?_erase] at found
  split at found
  · cases found
  · exact admits key k found

theorem note {b : β} (admits : c.Admits admitted) :
    (Access.apply c (.note name b)).2.Admits admitted := by
  rw [apply_note]
  cases found : c.members.find? name with
  | none => exact admits
  | some member =>
    obtain ⟨named, mem⟩ := admits name member found
    exact admits.insert named mem

/-- A node whose endpoint no admitted node has comes under a name of its own. -/
theorem vacant (admits : c.Admits admitted)
    (free : ∀ other ∈ admitted, other.endpoint ≠ n.params.endpoint) :
    c.members.find? n.name = none := by
  cases found : c.members.find? n.name with
  | none => rfl
  | some member =>
    obtain ⟨named, mem⟩ := admits n.name member found
    have ports := NodeParams.port_eq_of_name_eq named
    exact absurd (NodeParams.endpoint_eq_of_port_eq ports) (free member.params mem)

end Cluster.Admits

namespace Sound

variable {β : Type} {admitted : List NodeParams} {standing : Nat → Standing} {s t : Shared β}
  {i : Nat} {e : Event (sharing β)}

/-- A visitor changes members only. -/
theorem steps_visiting {known : List NodeParams} (sound : Sound admitted standing s)
    (here : standing i = .visiting known) (shares : Shares i s e t)
    (kept : (Standing.visiting known).after e ≠ .astray) :
    Steps admitted i (.visiting known) s e ((Standing.visiting known).after e) t := by
  have relies := sound.relies i
  rw [here] at relies
  obtain ⟨-, trusted⟩ := relies
  have members := sound.members
  obtain ⟨c, holder⟩ := s
  have stays : Steps admitted i (.visiting known) ⟨c, holder⟩ e (.visiting known) ⟨c, holder⟩ :=
    .visit rfl rfl members trusted
  cases shares with
  | outside call a => exact stays
  | changed name b b' => exact stays
  | left name b => exact stays
  | access locks =>
    cases locks with
    | lock => exact absurd rfl kept
    | write p => exact absurd rfl kept
    | unlock => exact absurd rfl kept
    | params => exact .visit rfl rfl members (sound.free rfl ▸ List.Subset.refl _)
    | members => exact stays
    | look name b => exact stays
    | insert n =>
      obtain ⟨configured, stays⟩ := Standing.visiting_insert kept
      rw [stays]
      exact .visit rfl rfl (members.insert rfl (trusted configured)) trusted
    | note name b => exact .visit params_note rfl members.note trusted
    | erase name => exact .visit rfl rfl members.erase trusted

/-- Soundness leaves a task nothing but the step that is next. -/
theorem steps (sound : Sound admitted standing s) (shares : Shares i s e t)
    (kept : (standing i).after e ≠ .astray) :
    Steps admitted i (standing i) s e ((standing i).after e) t := by
  have relies := sound.relies i
  generalize here : standing i = stands at relies kept ⊢
  cases stands with
  | visiting known => exact sound.steps_visiting here shares kept
  | astray => exact relies.elim
  | waiting node =>
    obtain ⟨c, holder⟩ := s
    cases shares with
    | access locks =>
      cases locks with
      | lock => exact .lock rfl
      | _ => exact absurd rfl kept
    | _ => exact absurd rfl kept
  | holding node base =>
    obtain ⟨held, rfl, -⟩ := relies
    cases shares with
    | outside call a => exact .work held trivial
    | access locks =>
      obtain ⟨c, holder⟩ := s
      cases locks with
      | write p =>
        obtain ⟨added, next⟩ := Standing.holding_write kept
        rw [next]
        exact .write rfl added
      | unlock => exact .refuse rfl
      | _ => exact absurd rfl kept
    | _ => exact absurd rfl kept
  | written node base =>
    obtain ⟨held, added, rfl⟩ := relies
    cases shares with
    | access locks =>
      obtain ⟨c, holder⟩ := s
      cases held
      cases locks with
      | insert n =>
        obtain ⟨rfl, next⟩ := Standing.written_insert kept
        have vacant : c.members.find? n.name = none :=
          sound.members.vacant (ClusterParams.addNode_eq_ok.1 added).1
        rw [next]
        change Steps base.nodes i _ _ ⟨.access (.insert n), c.members.find? n.name⟩ _ _
        rw [vacant]
        exact .insert rfl vacant
      | _ => exact absurd rfl kept
    | _ => exact absurd rfl kept
  | registered node =>
    cases shares with
    | outside call a => exact .work relies.1 trivial
    | access locks =>
      obtain ⟨c, holder⟩ := s
      cases locks with
      | unlock => exact .unlock rfl
      | _ => exact absurd rfl kept
    | _ => exact absurd rfl kept
  | ended node accepted => exact absurd rfl kept

/-- A step of one task takes from no other what it relies on. -/
theorem relies_update {later : List NodeParams} {u : Standing}
    (sound : Sound admitted standing s) (grows : admitted ⊆ later) (mine : u.Relies later i t)
    (taken : ∀ j, j ≠ i → t.holder = some j → s.holder = some j)
    (kept : ∀ j, j ≠ i → s.holder = some j →
      t.holder = some j ∧ t.cluster.params = s.cluster.params ∧ later = admitted) :
    ∀ j, (Function.update standing i u j).Relies later j t := by
  refine (Function.forall_update_iff standing fun j stands => stands.Relies later j t).2
    ⟨mine, fun j other => ?_⟩
  have relies := sound.relies j
  generalize standing j = stands at relies
  cases stands with
  | visiting known =>
    exact ⟨fun held => relies.1 (taken j other held), List.Subset.trans relies.2 grows⟩
  | waiting _ | ended _ _ => exact fun held => relies (taken j other held)
  | holding node base =>
    obtain ⟨held, params, eq⟩ := relies
    obtain ⟨still, unchanged, rfl⟩ := kept j other held
    exact ⟨still, unchanged.trans params, eq⟩
  | written node base =>
    obtain ⟨held, added, eq⟩ := relies
    obtain ⟨still, unchanged, rfl⟩ := kept j other held
    exact ⟨still, unchanged ▸ added, eq⟩
  | registered node =>
    obtain ⟨held, eq⟩ := relies
    obtain ⟨still, unchanged, rfl⟩ := kept j other held
    exact ⟨still, eq.trans (congrArg ClusterParams.nodes unchanged.symm)⟩
  | astray => exact relies

/-- While one task holds the lock, no other relies on the parameters. -/
theorem relies_held {later : List NodeParams} {u : Standing} (sound : Sound admitted standing s)
    (held : s.holder = some i) (grows : admitted ⊆ later) (mine : u.Relies later i t)
    (mineOnly : ∀ j, t.holder = some j → j = i) :
    ∀ j, (Function.update standing i u j).Relies later j t :=
  sound.relies_update grows mine (fun j ne other => absurd (mineOnly j other) ne)
    fun _ ne other => absurd (Option.some.inj (other.symm.trans held)) ne

/-- Every step leaves the cluster sound. -/
theorem step {u : Standing} (sound : Sound admitted standing s)
    (step : Steps admitted i (standing i) s e u t) :
    ∃ later, Sound later (Function.update standing i u) t := by
  have relies := sound.relies i
  have mineOnly (j : Nat) (held : some i = some j) : j = i := (Option.some.inj held).symm
  generalize here : standing i = stands at step relies
  cases step with
  | visit params holder members trusted =>
    refine ⟨admitted, by rw [params]; exact sound.distinct, by rw [params]; exact sound.configured,
      members, by rw [holder, params]; exact sound.free, ?_⟩
    exact sound.relies_update (List.Subset.refl _)
      ⟨fun held => relies.1 (holder.symm.trans held), trusted⟩
      (fun _ _ held => holder.symm.trans held)
      fun _ _ held => ⟨holder.trans held, params, rfl⟩
  | lock free =>
    refine ⟨admitted, sound.distinct, sound.configured, sound.members, nofun, ?_⟩
    exact sound.relies_update (List.Subset.refl _) ⟨rfl, rfl, sound.free free⟩
      (fun j ne held => absurd (mineOnly j held) ne)
      fun j _ held => by rw [free] at held; cases held
  | work held works =>
    rw [← here, Function.update_eq_self]
    exact ⟨admitted, sound⟩
  | write held added =>
    obtain ⟨-, -, same⟩ := relies
    have grown := (ClusterParams.addNode_eq_ok.1 added).2
    refine ⟨admitted, ClusterParams.nodup_addNode added sound.distinct, ?_, sound.members, nofun,
      sound.relies_held held (List.Subset.refl _) ⟨rfl, added, same⟩ mineOnly⟩
    rw [grown]
    exact List.Subset.trans sound.configured (List.subset_append_left _ _)
  | refuse held =>
    obtain ⟨-, rfl, same⟩ := relies
    exact ⟨admitted, sound.distinct, sound.configured, sound.members, fun _ => same,
      sound.relies_held held (List.Subset.refl _) nofun nofun⟩
  | @insert _ n base held vacant =>
    obtain ⟨-, added, -⟩ := relies
    have grown := (ClusterParams.addNode_eq_ok.1 added).2
    have members : s.cluster.Admits s.cluster.params.nodes := fun name k found =>
      (sound.members name k found).imp_right fun mem => sound.configured mem
    have configured : n.params ∈ s.cluster.params.nodes := by
      rw [grown]
      exact List.mem_append_right _ List.mem_cons_self
    exact ⟨s.cluster.params.nodes, sound.distinct, List.Subset.refl _,
      members.insert rfl configured, nofun,
      sound.relies_held held sound.configured ⟨rfl, rfl⟩ mineOnly⟩
  | unlock held =>
    obtain ⟨-, same⟩ := relies
    exact ⟨admitted, sound.distinct, sound.configured, sound.members, fun _ => same,
      sound.relies_held held (List.Subset.refl _) nofun nofun⟩

end Sound

/-! ## Runs -/

/-- Tasks take steps, one at a time, from where they stand. -/
inductive Course {β : Type} (start : Shared β) (begun : Nat → Standing) :
    List (Move β) → (Nat → Standing) → Shared β → Prop
  | nil : Course start begun [] begun start
  | snoc {ms : List (Move β)} {admitted : List NodeParams} {standing : Nat → Standing}
      {s t : Shared β} {i : Nat} {e : Event (sharing β)} {u : Standing} :
    Course start begun ms standing s → Sound admitted standing s →
    Steps admitted i (standing i) s e u t →
    Course start begun (ms ++ [⟨i, e, s, t⟩]) (Function.update standing i u) t

section

variable {β : Type} [Backend β] {setting : ClusterSetting β} {params : ClusterParams}
  {acts : Nat → Cluster.Act}

theorem sound_new (ports : (params.nodes.map (·.port)).Nodup) :
    Sound params.nodes (fun i => (acts i).standing) (System.new setting params acts).shared where
  distinct := ClusterParams.nodup_servers ports
  configured := List.Subset.refl _
  members _ _ found := by cases found
  free _ := rfl
  relies i := by
    cases acts i with
    | add node => exact nofun
    | _ => exact ⟨nofun, List.nil_subset _⟩

/-- What is left to do of a task ends as it should. -/
def System.Follow (u : System β) (standing : Nat → Standing) : Prop :=
  ∀ i, (u.rest i).Follows (standing i) fun r t => t.Closes r

omit [Backend β] in
theorem System.Follow.update {u : System β} {standing : Nat → Standing} {s : Shared β} {i : Nat}
    {next : Task β (Except Error Unit)} {stands : Standing} (follow : u.Follow standing)
    (mine : next.Follows stands fun r t => t.Closes r) :
    System.Follow ⟨s, Function.update u.rest i next⟩ (Function.update standing i stands) := by
  intro j
  by_cases same : j = i
  · subst same
    simp only [Function.update_self]
    exact mine
  · simp only [Function.update_of_ne same]
    exact follow j

/-- However tasks take turns, each takes the steps that are next for it. -/
theorem Run.course {ms : List (Move β)} {u : System β}
    (ports : (params.nodes.map (·.port)).Nodup) (run : Run (System.new setting params acts) ms u) :
    ∃ admitted standing, Course (System.new setting params acts).shared
      (fun i => (acts i).standing) ms standing u.shared ∧
      Sound admitted standing u.shared ∧ u.Follow standing := by
  induction run with
  | nil => exact ⟨_, _, .nil, sound_new ports, fun i => (acts i).task_follows⟩
  | @call ms u t i r next a d _ rest shares ih =>
    obtain ⟨admitted, standing, course, sound, follow⟩ := ih
    have mine := follow i
    rw [rest] at mine
    obtain ⟨kept, later⟩ := mine a d _ rfl
    have step := sound.steps shares kept
    obtain ⟨admitted', sound'⟩ := sound.step step
    exact ⟨admitted', _, .snoc course sound step, sound', follow.update later⟩
  | @pause ms u i d next _ rest ih =>
    obtain ⟨admitted, standing, course, sound, follow⟩ := ih
    have mine := follow i
    rw [rest] at mine
    have waited : System.Follow ⟨u.shared, Function.update u.rest i next⟩ _ := follow.update mine
    rw [Function.update_eq_self] at waited
    exact ⟨admitted, standing, course, sound, waited⟩
  | @clock ms u i now next _ rest ih =>
    obtain ⟨admitted, standing, course, sound, follow⟩ := ih
    have mine := follow i
    rw [rest] at mine
    have told : System.Follow ⟨u.shared, Function.update u.rest i (next now)⟩ _ :=
      follow.update (mine now)
    rw [Function.update_eq_self] at told
    exact ⟨admitted, standing, course, sound, told⟩

end

/-! ## One task after the other -/

/-- The task holds the lock. -/
def Standing.holds : Standing → Bool
  | .holding _ _ | .written _ _ | .registered _ => true
  | .visiting _ | .waiting _ | .ended _ _ | .astray => false

/-- Who holds the lock if nobody but task `i` may. -/
def Standing.holder (i : Nat) (stands : Standing) : Option Nat :=
  if stands.holds then some i else none

section

variable {β : Type} {stands : Standing} {i : Nat}

/-- The lock is free for a task that it is next for. -/
theorem Standing.locks {a : Access β} {r : a.Answer}
    (kept : stands.after ⟨.access a, r⟩ ≠ .astray) :
    a.Locks i (stands.holder i) ((stands.after ⟨.access a, r⟩).holder i) := by
  cases stands with
  | visiting known =>
    cases a with
    | insert n =>
      rw [(visiting_insert kept).2]
      exact .insert n _
    | params => exact .params
    | members => exact .members _
    | look name b => exact .look name b _
    | note name b => exact .note name b _
    | erase name => exact .erase name _
    | _ => exact absurd rfl kept
  | waiting node =>
    cases a with
    | lock => exact .lock
    | _ => exact absurd rfl kept
  | holding node base =>
    cases a with
    | write p =>
      rw [(holding_write kept).2]
      exact .write p
    | unlock => exact .unlock
    | _ => exact absurd rfl kept
  | written node base =>
    cases a with
    | insert n =>
      rw [(written_insert kept).2]
      exact .insert n _
    | _ => exact absurd rfl kept
  | registered node =>
    cases a with
    | unlock => exact .unlock
    | _ => exact absurd rfl kept
  | ended node accepted => exact absurd rfl kept
  | astray => exact absurd rfl kept

/-- What a task does alone, it can do while all others wait. -/
theorem Run.alone {start u : System β} {ms : List (Move β)} {p : Task β (Except Error Unit)}
    {post : Except Error Unit → Standing → Prop} {es : List (Event outside)}
    {o : Except Error Unit × Cluster β} (run : Run start ms u) (rest : u.rest i = p)
    (follows : p.Follows stands post) (held : u.shared.holder = stands.holder i)
    (leads : (p.alone u.shared.cluster).Leads es o) :
    ∃ ns later, post o.1 later ∧ Run start (ms ++ ns)
      ⟨⟨o.2, later.holder i⟩, Function.update u.rest i (.done o.1)⟩ := by
  induction p generalizing u ms stands es with
  | done r =>
    obtain ⟨-, rfl⟩ := Procedure.leads_pure.1 leads
    refine ⟨[], stands, follows, ?_⟩
    rw [List.append_nil, ← held, ← rest, Function.update_eq_self]
    exact run
  | call r next ih =>
    cases r with
    | access a =>
      obtain ⟨kept, later⟩ := follows (a.apply u.shared.cluster).1 .zero _ rfl
      have locks := Standing.locks (i := i) kept
      rw [← held] at locks
      have moved := Run.call (d := .zero) run rest (.access locks)
      obtain ⟨ns, last, ends, run'⟩ := ih _ _ moved (Function.update_self ..) later rfl leads
      rw [Function.update_idem, List.append_assoc] at run'
      exact ⟨_, last, ends, run'⟩
    | outside c =>
      cases leads with
      | @call _ _ a d _ _ leads =>
        obtain ⟨kept, later⟩ := follows a d _ rfl
        have stays : (stands.after (β := β) ⟨.outside c, a⟩).holder i = stands.holder i := by
          cases stands with
          | visiting known => rfl
          | holding node base => rfl
          | registered node => rfl
          | _ => exact absurd rfl kept
        have moved := Run.call (d := d) run rest (.outside c a)
        obtain ⟨ns, last, ends, run'⟩ :=
          ih _ _ moved (Function.update_self ..) later (held.trans stays.symm) leads
        rw [Function.update_idem, List.append_assoc] at run'
        exact ⟨_, last, ends, run'⟩
  | pause d p ih =>
    cases leads with
    | pause leads =>
      obtain ⟨ns, last, ends, run'⟩ :=
        ih (run.pause rest) (Function.update_self ..) follows held leads
      rw [Function.update_idem] at run'
      exact ⟨ns, last, ends, run'⟩
  | clock next ih =>
    cases leads with
    | @clock _ t _ _ leads =>
      obtain ⟨ns, last, ends, run'⟩ :=
        ih t (run.clock rest) (Function.update_self ..) (follows t) held leads
      rw [Function.update_idem] at run'
      exact ⟨ns, last, ends, run'⟩

theorem setting_apply {c : Cluster β} {a : Access β} : (a.apply c).2.setting = c.setting := by
  cases a with
  | note name b =>
    rw [apply_note]
    cases c.members.find? name with
    | none => rfl
    | some n => rfl
  | _ => rfl

theorem Run.setting {start u : System β} {ms : List (Move β)} (run : Run start ms u) :
    u.shared.cluster.setting = start.shared.cluster.setting := by
  induction run with
  | nil => rfl
  | call _ _ shares ih =>
    cases shares with
    | access locks => exact setting_apply.trans ih
    | _ => exact ih
  | pause _ _ ih => exact ih
  | clock _ _ ih => exact ih

/-- An operation on a cluster that nobody uses is a run. -/
theorem Run.apply {setting : ClusterSetting Physical} {params : ClusterParams}
    {acts : Nat → Cluster.Act} {u : System Physical} {ms : List (Move Physical)}
    {es : List (Event outside)} {o : Outcome (Cluster Physical)}
    (run : Run (.new setting params acts) ms u)
    (unbegun : u.rest i = (acts i).task setting) (free : u.shared.holder = none)
    (leads : ((acts i).apply u.shared.cluster).Leads es o) :
    ∃ ns, Run (.new setting params acts) (ms ++ ns)
      ⟨⟨o.2, none⟩, Function.update u.rest i (.done o.1)⟩ := by
  rw [← Cluster.Act.alone_task, run.setting] at leads
  have begins : u.shared.holder = (acts i).standing.holder i := by
    rw [free]
    cases acts i <;> rfl
  obtain ⟨ns, last, closes, run'⟩ := run.alone unbegun (acts i).task_follows begins leads
  have given : last.holder i = none := by
    cases last with
    | visiting known => rfl
    | ended node accepted => rfl
    | _ => exact closes.elim
  rw [given] at run'
  exact ⟨ns, run'⟩

end

end Testbed
