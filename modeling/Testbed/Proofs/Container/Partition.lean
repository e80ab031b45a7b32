import Testbed.Proofs.Container.Calls
import Testbed.Proofs.Engine.Table
/-!
# Cutting containers off

Whatever is done to the container of a node, in whatever order and with whatever failures, its
packet filter has the first of the rules that isolate it in each chain, and no others. A disconnect
that succeeds leaves all of them, a reconnect that succeeds leaves none, and what is told about them
is true (`partition_ordered`).
-/

namespace Testbed.Container

open Procedure (Within)
open Firewall (Ordered Isolated)
open Lab (Engine)
open Lab.Engine (Faulty Exact)

variable {c : Container} {e t : Engine} {info : NetworkInfo} {allowed : Error → Prop}

/-- The packet filter of a container on a network of given addresses is in order. -/
structure Filters (name : String) (info : NetworkInfo) (e : Engine) : Prop where
  addresses : e.info = info
  ordered : Ordered info (e.table name)

/-! ## Operations that add no rules -/

theorem filters_of_tame {ev : Event outside} (step : Faulty allowed e ev t)
    (tame : ∀ cmd, ev.call = .engine (.exec c.name cmd) → ∃ chain : Chain,
      cmd = ["iptables", "-F", chain.text])
    (filters : Filters c.name info e) : Filters c.name info t :=
  ⟨step.info.trans filters.addresses, step.ordered tame filters.ordered⟩

theorem tame_of_tends {call : Call} (h : c.Tends call) {cmd : List String}
    (eq : call = .engine (.exec c.name cmd)) :
    ∃ chain : Chain, cmd = ["iptables", "-F", chain.text] := by
  cases h with
  | flush chain =>
    cases eq
    exact ⟨chain, rfl⟩
  | inspect | stop d | kill | pause | unpause | restart | logs | file f => cases eq

theorem ensures_of_tends {α : Type} {p : Work α} (tends : p.Within c.Tends)
    (filters : Filters c.name info e) :
    p.Ensures (Faulty allowed) (Filters c.name info) e fun _ t => Filters c.name info t := by
  refine tends.ensures filters fun s ev t h step filters => ?_
  have after := filters_of_tame step (fun cmd => tame_of_tends h) filters
  exact ⟨after, after⟩

theorem ensures_of_places {α : Type} {p : Work α} (places : p.Within c.Places)
    (filters : Filters c.name info e) :
    p.Ensures (Faulty allowed) (Filters c.name info) e fun _ t => Filters c.name info t := by
  refine places.ensures filters fun s ev t h step filters => ?_
  have after := filters_of_tame step (fun cmd eq => by rw [eq] at h; cases h) filters
  exact ⟨after, after⟩

/-! ## Rules -/

/-- What a command of the packet filter may come to. -/
theorem ensures_filter {cmd : List String} {always : Engine → Prop}
    {post : Except Error CommandOutput → Engine → Prop}
    (h : ∀ a t, Faulty allowed e ⟨.engine (.exec c.name cmd), a⟩ t →
      always t ∧ post (a.mapError fun e => .faultInjection c.name e.message) t) :
    (c.filter cmd).run.Ensures (Faulty allowed) always e post :=
  Attempt.ensures_wrap.2 (Procedure.ensures_ask.2 h)

/-- Looking for a rule tells the truth and changes nothing. -/
theorem ensures_check {rule : FilterRule} (filters : Filters c.name info e) :
    (c.filter rule.checkCommand).run.Ensures (Faulty allowed) (Filters c.name info) e
      fun r t => Filters c.name info t ∧ t.table c.name = e.table c.name ∧
        ∀ output, r = .ok output → (output.success ↔ rule.text ∈ e.table c.name) := by
  refine ensures_filter fun a t step => ?_
  obtain ⟨addresses, outcome⟩ := step.exec
  have same : t.table c.name = e.table c.name := by
    rcases outcome with ⟨k, rules, -, after⟩ | ⟨same, -⟩
    · rw [after, Lab.SimulatedContainer.exec_check, rules]
    · exact same
  have after : Filters c.name info t :=
    ⟨addresses.trans filters.addresses, by rw [same]; exact filters.ordered⟩
  refine ⟨after, after, same, fun output h => ?_⟩
  rcases outcome with ⟨k, rules, rfl, -⟩ | ⟨-, failed⟩
  · cases h
    rw [Lab.SimulatedContainer.exec_check, ← rules]
    by_cases mem : rule.text ∈ k.rules <;> simp [mem, CommandOutput.success]
  · cases a with
    | error err => cases h
    | ok output' =>
      obtain ⟨-, action, rest, eq, kind⟩ := failed output' rfl
      cases eq
      simp at kind

/-- A command that has to succeed is carried out, or fails and leaves the table as it was. -/
theorem ensures_filterChecked {cmd : List String} {always : Engine → Prop}
    {post : Except Error CommandOutput → Engine → Prop}
    (works : ∀ k : Lab.SimulatedContainer, (k.exec cmd).1.success = true)
    (executed : ∀ (k : Lab.SimulatedContainer) t, k.rules = e.table c.name → t.info = e.info →
      t.table c.name = (k.exec cmd).2.rules → always t ∧ post (.ok (k.exec cmd).1) t)
    (failed : ∀ err t, t.info = e.info → t.table c.name = e.table c.name →
      always t ∧ post (.error err) t) :
    (c.filterChecked cmd).run.Ensures (Faulty allowed) always e post := by
  refine Attempt.ensures_bind.2 (ensures_filter fun a t step => ?_)
  obtain ⟨addresses, ⟨k, rules, rfl, after⟩ | ⟨same, reason⟩⟩ := step.exec
  · obtain ⟨kept, done⟩ := executed k t rules addresses after
    refine ⟨kept, ?_⟩
    simp only [mapError_ok, works k, if_true]
    exact done
  · cases a with
    | error err => exact failed _ t addresses same
    | ok output =>
      obtain ⟨kept, done⟩ := failed (.faultInjection c.name
        ("'" ++ Text.spaced cmd ++ "' exited with " ++ toString output.exitCode)) t addresses same
      refine ⟨kept, ?_⟩
      simp only [mapError_ok, (reason output rfl).1]
      exact done

/-- Putting a rule in place adds it if it is missing, and nothing else. -/
theorem ensures_ensureRule {rule : FilterRule} (filters : Filters c.name info e)
    (next : rule.text ∉ e.table c.name → Ordered info (e.table c.name ++ [rule.text])) :
    (c.ensureRule rule).run.Ensures (Faulty allowed) (Filters c.name info) e fun r t =>
      Filters c.name info t ∧ (r = .ok () → rule.text ∈ t.table c.name) ∧
      (t.table c.name = e.table c.name ∨
        rule.text ∉ e.table c.name ∧ t.table c.name = e.table c.name ++ [rule.text]) := by
  refine Attempt.ensures_bind.2 ((ensures_check filters).mono ?_)
  rintro r t ⟨filters_t, same, truth⟩
  cases r with
  | error err => exact ⟨filters_t, by simp, .inl same⟩
  | ok output =>
    have found := truth output rfl
    cases present : output.success with
    | true =>
      simp only [present, Bool.not_true]
      exact ⟨filters_t, fun _ => by rw [same]; exact found.1 present, .inl same⟩
    | false =>
      have missing : rule.text ∉ e.table c.name := by
        rw [← found, present]
        simp
      simp only [present, Bool.not_false, if_true]
      refine Attempt.ensures_discard.2 (ensures_filterChecked (fun k => rfl) ?_ ?_)
      · intro k u rules addresses after
        have added : u.table c.name = e.table c.name ++ [rule.text] := by
          rw [after, Lab.SimulatedContainer.exec_append, rules, same]
        have filters_u : Filters c.name info u :=
          ⟨addresses.trans filters_t.addresses, by rw [added]; exact next missing⟩
        exact ⟨filters_u, filters_u, fun _ => by simp [added], .inr ⟨missing, added⟩⟩
      · intro err u addresses kept
        have filters_u : Filters c.name info u :=
          ⟨addresses.trans filters_t.addresses, by rw [kept]; exact filters_t.ordered⟩
        exact ⟨filters_u, filters_u, fun h => (by cases h), .inl (kept.trans same)⟩

/-! ## Cutting off and taking back -/

/-- The rules can be put in place in turn, once those before them are. -/
def Admits (info : NetworkInfo) : (before : List FilterRule) → List FilterRule → Prop
  | _, [] => True
  | before, rule :: rest =>
    (∀ table, Ordered info table → (∀ r ∈ before, r.text ∈ table) → rule.text ∉ table →
      Ordered info (table ++ [rule.text])) ∧ Admits info (rule :: before) rest

theorem partitionRules_admits (info : NetworkInfo) :
    Admits info [] (Firewall.partitionRules info.subnet info.gateway) := by
  refine ⟨?_, ?_, ?_, ?_, trivial⟩
  · exact fun table ordered _ missing => ordered.append_accept missing
  · exact fun table ordered before missing => ordered.append_drop (before _ (by simp)) missing
  · exact fun table ordered _ missing => ordered.append_accept missing
  · exact fun table ordered before missing => ordered.append_drop (before _ (by simp)) missing

theorem ensures_rules {before rules : List FilterRule} (admits : Admits info before rules)
    (filters : Filters c.name info e) (present : ∀ r ∈ before, r.text ∈ e.table c.name) :
    (rules.forM c.ensureRule).run.Ensures (Faulty allowed) (Filters c.name info) e fun r t =>
      Filters c.name info t ∧ (∀ line ∈ e.table c.name, line ∈ t.table c.name) ∧
      (r = .ok () → ∀ rule ∈ rules, rule.text ∈ t.table c.name) ∧
      ((∀ rule ∈ rules, rule.text ∈ e.table c.name) → t.table c.name = e.table c.name) := by
  induction rules generalizing before e with
  | nil => exact ⟨filters, fun _ h => h, by simp, fun _ => rfl⟩
  | cons rule rest ih =>
    obtain ⟨next, admits⟩ := admits
    refine Attempt.ensures_bind.2 ((ensures_ensureRule filters fun missing =>
      next _ filters.ordered present missing).mono ?_)
    rintro r t ⟨filters_t, placed, change⟩
    have grows : ∀ line ∈ e.table c.name, line ∈ t.table c.name := by
      intro line mem
      rcases change with same | ⟨-, added⟩
      · rwa [same]
      · rw [added]
        exact List.mem_append_left _ mem
    have whole : rule.text ∈ e.table c.name → t.table c.name = e.table c.name := by
      intro mem
      rcases change with same | ⟨missing, -⟩
      · exact same
      · exact absurd mem missing
    cases r with
    | error err =>
      exact ⟨filters_t, grows, by simp, fun all => whole (all rule List.mem_cons_self)⟩
    | ok u =>
      have there : rule.text ∈ t.table c.name := placed rfl
      refine (ih admits filters_t ?_).mono ?_
      · intro r hr
        rcases List.mem_cons.1 hr with rfl | hr
        · exact there
        · exact grows _ (present r hr)
      · rintro r' u ⟨filters_u, grows', placed', whole'⟩
        refine ⟨filters_u, fun line mem => grows' line (grows line mem), fun h => ?_, fun all => ?_⟩
        · exact List.forall_mem_cons.2 ⟨grows' _ there, placed' h⟩
        · obtain ⟨here, others⟩ := List.forall_mem_cons.1 all
          have same := whole here
          rw [whole' (by rw [same]; exact others), same]

/-- A disconnect leaves all rules if it succeeds, and changes nothing if they are all there. -/
theorem ensures_disconnect (filters : Filters c.name info e) :
    c.disconnect.run.Ensures (Faulty allowed) (Filters c.name info) e fun r t =>
      Filters c.name info t ∧ (r = .ok () → Isolated info (t.table c.name)) ∧
      (Isolated info (e.table c.name) → t.table c.name = e.table c.name) := by
  refine Attempt.ensures_bind.2 (Attempt.ensures_wrap.2 (Procedure.ensures_ask.2 fun a t step => ?_))
  have filters_t : Filters c.name info t := filters_of_tame step (fun cmd eq => by cases eq) filters
  obtain ⟨same, truth⟩ := @Faulty.networkInfo _ _ c.name _ _ _ step
  refine ⟨filters_t, ?_⟩
  cases a with
  | error err => exact ⟨filters_t, by simp, fun _ => same⟩
  | ok network =>
    obtain rfl : network = info := (truth network rfl).trans filters.addresses
    refine (ensures_rules (partitionRules_admits network) filters_t (by simp)).mono ?_
    rintro r u ⟨filters_u, -, placed, whole⟩
    refine ⟨filters_u, fun h => filters_u.ordered.isolated fun chain => ?_, fun isolated => ?_⟩
    · refine placed h ⟨chain, network.subnet, .drop⟩ ?_
      cases chain <;> simp [Firewall.partitionRules]
    · rw [whole fun rule mem => ?_, same]
      rw [same]
      refine @Isolated.mem _ _ _ rule.chain isolated ?_
      simp only [Firewall.partitionRules, List.mem_cons, List.not_mem_nil, or_false] at mem
      rcases mem with rfl | rfl | rfl | rfl <;> simp [Firewall.isolation]

/-- A reconnect leaves no rule if it succeeds. -/
theorem ensures_reconnect (filters : Filters c.name info e) :
    c.reconnect.run.Ensures (Faulty allowed) (Filters c.name info) e fun r t =>
      Filters c.name info t ∧ (r = .ok () → t.table c.name = []) := by
  rw [reconnect_eq]
  refine Attempt.ensures_bind.2 (Attempt.ensures_discard.2
    (ensures_filterChecked (fun k => by rw [Lab.SimulatedContainer.exec_flush]; rfl) ?_ ?_))
  · intro k t rules addresses after
    rw [Lab.SimulatedContainer.exec_flush, rules] at after
    have filters_t : Filters c.name info t :=
      ⟨addresses.trans filters.addresses, by rw [after]; exact filters.ordered.flush _⟩
    refine ⟨filters_t, ?_⟩
    refine Attempt.ensures_bind.2 (Attempt.ensures_discard.2
      (ensures_filterChecked (fun k => by rw [Lab.SimulatedContainer.exec_flush]; rfl) ?_ ?_))
    · intro k' u rules' addresses' after'
      rw [Lab.SimulatedContainer.exec_flush, rules'] at after'
      have filters_u : Filters c.name info u :=
        ⟨addresses'.trans filters_t.addresses, by rw [after']; exact filters_t.ordered.flush _⟩
      refine ⟨filters_u, filters_u, fun _ => filters_u.ordered.eq_nil fun chain => ?_⟩
      rw [after', Firewall.filter_flush, after, Firewall.filter_flush]
      cases chain <;> rfl
    · intro err u addresses' kept
      have filters_u : Filters c.name info u :=
        ⟨addresses'.trans filters_t.addresses, by rw [kept]; exact filters_t.ordered⟩
      exact ⟨filters_u, filters_u, fun h => (by cases h)⟩
  · intro err t addresses kept
    have filters_t : Filters c.name info t :=
      ⟨addresses.trans filters.addresses, by rw [kept]; exact filters.ordered⟩
    exact ⟨filters_t, filters_t, fun h => (by cases h)⟩

/-- What is told about the rules is the table. -/
theorem ensures_faultRules (filters : Filters c.name info e) (subnet : '\n' ∉ info.subnet.toList)
    (gateway : '\n' ∉ info.gateway.toList) :
    c.faultRules.run.Ensures (Faulty allowed) (Filters c.name info) e fun r t =>
      Filters c.name info t ∧ t.table c.name = e.table c.name ∧
        ∀ rules, r = .ok rules → rules = t.table c.name := by
  refine Attempt.ensures_bind.2 (ensures_filterChecked (fun k => rfl) ?_ ?_)
  · intro k t rules addresses after
    have same : t.table c.name = e.table c.name := by
      rw [after, Lab.SimulatedContainer.exec_list, rules]
    have filters_t : Filters c.name info t :=
      ⟨addresses.trans filters.addresses, by rw [same]; exact filters.ordered⟩
    refine ⟨filters_t, filters_t, same, fun told h => ?_⟩
    have read : told = Firewall.parseRules (k.exec Firewall.listCommand).1.stdout := by
      cases h
      rfl
    rw [read, Lab.SimulatedContainer.exec_list, rules, same]
    refine Firewall.parseRules_rules fun line mem => ?_
    obtain ⟨chain, mem⟩ := filters.ordered.mem_isolation mem
    simp only [Firewall.isolation, List.mem_cons, List.not_mem_nil, or_false] at mem
    rcases mem with rfl | rfl
    · exact ⟨_, rfl, gateway⟩
    · exact ⟨_, rfl, subnet⟩
  · intro err t addresses kept
    have filters_t : Filters c.name info t :=
      ⟨addresses.trans filters.addresses, by rw [kept]; exact filters.ordered⟩
    exact ⟨filters_t, filters_t, kept, fun rules h => (by cases h)⟩

/-! ## Without failures -/

theorem checked_exact {cmd : List String} (works : ∀ k : Lab.SimulatedContainer,
    (k.exec cmd).1.success = true) (up : e.Up c.name) :
    (c.filterChecked cmd).run.Ensures Exact (fun _ => True) e fun r t =>
      (∃ output, r = .ok output) ∧ t.Up c.name := by
  refine Attempt.ensures_bind.2 (Attempt.ensures_wrap.2 (Procedure.ensures_ask.2 fun a t step => ?_))
  obtain ⟨⟨k, rfl⟩, up_t⟩ := step.up up
  refine ⟨trivial, ?_⟩
  simp only [mapError_ok, works k, if_true]
  exact ⟨⟨_, rfl⟩, up_t⟩

theorem ensureRule_exact {rule : FilterRule} (up : e.Up c.name) :
    (c.ensureRule rule).run.Ensures Exact (fun _ => True) e fun r t =>
      r = .ok () ∧ t.Up c.name := by
  refine Attempt.ensures_bind.2 (Attempt.ensures_wrap.2 (Procedure.ensures_ask.2 fun a t step => ?_))
  obtain ⟨⟨k, rfl⟩, up_t⟩ := step.up up
  refine ⟨trivial, ?_⟩
  cases present : (k.exec rule.checkCommand).1.success with
  | true =>
    simp only [mapError_ok, present]
    exact ⟨rfl, up_t⟩
  | false =>
    simp only [mapError_ok, present, Bool.not_false, if_true]
    refine Attempt.ensures_discard.2 ((checked_exact (fun _ => rfl) up_t).mono ?_)
    rintro r u ⟨⟨output, rfl⟩, up_u⟩
    exact ⟨rfl, up_u⟩

theorem rules_exact {rules : List FilterRule} (up : e.Up c.name) :
    (rules.forM c.ensureRule).run.Ensures Exact (fun _ => True) e fun r t =>
      r = .ok () ∧ t.Up c.name := by
  induction rules generalizing e with
  | nil => exact ⟨rfl, up⟩
  | cons rule rest ih =>
    refine Attempt.ensures_bind.2 ((ensureRule_exact up).mono ?_)
    rintro r t ⟨rfl, up_t⟩
    exact ih up_t

/-- A container that is up can be cut off. -/
theorem disconnect_exact (up : e.Up c.name) :
    c.disconnect.run.Ensures Exact (fun _ => True) e fun r t => r = .ok () ∧ t.Up c.name := by
  refine Attempt.ensures_bind.2 (Attempt.ensures_wrap.2 (Procedure.ensures_ask.2 fun a t step => ?_))
  refine ⟨trivial, ?_⟩
  cases step with
  | performed call => exact rules_exact up
  | elsewhere other _ => exact absurd rfl (other _)

/-- A container that is up can be taken back. -/
theorem reconnect_exact (up : e.Up c.name) :
    c.reconnect.run.Ensures Exact (fun _ => True) e fun r t => r = .ok () ∧ t.Up c.name := by
  have works : ∀ (chain : Chain) (k : Lab.SimulatedContainer),
      (k.exec ["iptables", "-F", chain.text]).1.success = true := by
    intro chain k
    rw [Lab.SimulatedContainer.exec_flush]
    rfl
  rw [reconnect_eq]
  refine Attempt.ensures_bind.2 (Attempt.ensures_discard.2 ((checked_exact (works _) up).mono ?_))
  rintro r t ⟨⟨output, rfl⟩, up_t⟩
  refine Attempt.ensures_bind.2 (Attempt.ensures_discard.2 ((checked_exact (works _) up_t).mono ?_))
  rintro r' u ⟨⟨output', rfl⟩, up_u⟩
  exact ⟨rfl, up_u⟩

/-! ## Whatever is done -/

theorem ensures_perform {op : Operation} (filters : Filters c.name info e) :
    (c.perform op).Ensures (Faulty allowed) (Filters c.name info) e fun o t =>
      c.Same o.2 ∧ Filters c.name info t := by
  have kept : (c.perform op).Ensures (Faulty allowed) (Filters c.name info) e
      fun _ t => Filters c.name info t := by
    cases op with
    | deploy => exact ensures_of_places deploy_places filters
    | disconnect =>
      exact Attempt.ensures_keeping.2 ((ensures_disconnect filters).mono fun _ _ h => h.1)
    | remove => exact ensures_of_places remove_places filters
    | stop timeout | kill | pause | resume | reconnect | restart | collectLogs =>
      exact ensures_of_tends (perform_tends (by simp)) filters
  exact kept.leads.mono fun o t h => ⟨perform_same h.2.choose_spec, h.1⟩

theorem ensures_action {action : Backend.Action} (filters : Filters c.name info e) :
    (action.apply c).Ensures (Faulty allowed) (Filters c.name info) e fun o t =>
      c.Same o.2 ∧ Filters c.name info t := by
  cases action with
  | perform op => exact ensures_perform filters
  | destroy =>
    refine Procedure.ensures_bind.2 ((@ensures_perform _ _ _ _ .kill filters).mono ?_)
    rintro o t ⟨same, filters_t⟩
    rw [← same.name] at filters_t ⊢
    refine Procedure.ensures_bind.2 ((@ensures_perform _ _ _ _ .collectLogs filters_t).mono ?_)
    rintro o' u ⟨same', filters_u⟩
    rw [← same'.name] at filters_u ⊢
    refine (@ensures_perform _ _ _ _ .remove filters_u).mono ?_
    rintro o'' v ⟨same'', filters_v⟩
    exact ⟨(same.trans same').trans same'', filters_v⟩

theorem ensures_actions {actions : List Backend.Action} (filters : Filters c.name info e) :
    (inTurn (actions.map Backend.Action.apply) c).Ensures (Faulty allowed) (Filters c.name info) e
      fun c' t => c.Same c' ∧ Filters c.name info t := by
  refine ensures_inTurn (fun act mem b s h => ?_) ⟨.refl c, filters⟩
  obtain ⟨action, -, rfl⟩ := List.mem_map.1 mem
  obtain ⟨same, filters_s⟩ := h
  rw [← same.name] at filters_s ⊢
  exact (ensures_action filters_s).mono fun o t h => ⟨same.trans h.1, h.2⟩

section

variable {σ : Type} {peers : Peers outside σ} {view : σ → Engine}

/-- What cutting a container off, taking it back and asking for its rules lead to at a moment. -/
structure Switches (peers : Peers outside σ) (view : σ → Engine) (info : NetworkInfo)
    (c : Container) (m : Moment σ) : Prop where
  ordered : Ordered info ((view m.state).table c.name)
  disconnected : (c.disconnect.run.run peers m).1 = .ok () →
    Isolated info ((view (c.disconnect.run.run peers m).2.state).table c.name)
  /-- To cut it off once more changes nothing. -/
  again : Isolated info ((view m.state).table c.name) →
    (view (c.disconnect.run.run peers m).2.state).table c.name = (view m.state).table c.name
  reconnected : (c.reconnect.run.run peers m).1 = .ok () →
    (view (c.reconnect.run.run peers m).2.state).table c.name = []
  told : ∀ rules, (c.faultRules.run.run peers m).1 = .ok rules →
    rules = (view m.state).table c.name
  isolable : (view m.state).Up c.name →
    c.disconnect.run.Ensures Exact (fun _ => True) (view m.state) fun r t =>
      r = .ok () ∧ Isolated info (t.table c.name)
  restorable : (view m.state).Up c.name →
    c.reconnect.run.Ensures Exact (fun _ => True) (view m.state) fun r t =>
      r = .ok () ∧ t.table c.name = []

theorem Filters.switches (obey : peers.Obey view (Faulty allowed)) {m : Moment σ}
    (filters : Filters c.name info (view m.state)) (subnet : '\n' ∉ info.subnet.toList)
    (gateway : '\n' ∉ info.gateway.toList) : Switches peers view info c m where
  ordered := filters.ordered
  disconnected := ((ensures_disconnect filters).run obey).2.1
  again := ((ensures_disconnect filters).run obey).2.2
  reconnected := ((ensures_reconnect filters).run obey).2
  told rules h := by
    obtain ⟨-, same, truth⟩ := (ensures_faultRules filters subnet gateway).run obey
    rw [truth rules h, same]
  isolable up := by
    have ordered : c.disconnect.run.Ensures Exact (fun _ => True) (view m.state) _ :=
      (@ensures_disconnect _ _ _ allowed filters).weaken (fun _ _ _ => Exact.faulty) fun _ _ => trivial
    refine ((disconnect_exact up).and ordered).mono ?_
    rintro r t ⟨⟨succeeded, -⟩, -, isolated, -⟩
    exact ⟨succeeded, isolated succeeded⟩
  restorable up := by
    have ordered : c.reconnect.run.Ensures Exact (fun _ => True) (view m.state) _ :=
      (@ensures_reconnect _ _ _ allowed filters).weaken (fun _ _ _ => Exact.faulty) fun _ _ => trivial
    refine ((reconnect_exact up).and ordered).mono ?_
    rintro r t ⟨⟨succeeded, -⟩, -, empty⟩
    exact ⟨succeeded, empty succeeded⟩

theorem partition_ordered (obey : peers.Obey view (Faulty fun _ => True)) (c : Container)
    (m : Moment σ) (vacant : (view m.state).containers.find? c.name = none)
    (subnet : '\n' ∉ (view m.state).info.subnet.toList)
    (gateway : '\n' ∉ (view m.state).info.gateway.toList) (actions : List Backend.Action) :
    let info := (view m.state).info
    let work := inTurn (actions.map Backend.Action.apply) c
    (∀ x ∈ work.history peers m, Ordered info ((view x.2).table c.name)) ∧
      Switches peers view info (work.run peers m).1 (work.run peers m).2 := by
  intro info work
  have filters : Filters c.name info (view m.state) := by
    refine ⟨rfl, ?_⟩
    unfold Engine.table
    rw [vacant]
    exact .nil
  have done := @ensures_actions _ _ _ (fun _ => True) actions filters
  refine ⟨fun x hx => (done.history obey x hx).ordered, ?_⟩
  obtain ⟨same, filters'⟩ := done.run obey
  rw [← same.name] at filters'
  exact filters'.switches obey subnet gateway

/-- A container that was deployed and cut off on a small network. -/
theorem partition_ordered_deployed :
    let c := Container.ofNode (.ofPort 9000) .default "testnet" "/logs"
    let e := Engine.empty Engine.defaultInfo []
    let work := inTurn ([.perform .deploy, .perform .disconnect].map Backend.Action.apply) c
    (∀ x ∈ work.history Engine.peers ⟨.zero, e⟩, Ordered e.info (x.2.table c.name)) ∧
      Switches Engine.peers id e.info (work.run Engine.peers ⟨.zero, e⟩).1
        (work.run Engine.peers ⟨.zero, e⟩).2 :=
  partition_ordered (fun clock s call => (Engine.peers_obey clock s call).faulty) _ ⟨.zero, _⟩ rfl
    (by decide) (by decide) _

end

end Testbed.Container
