import Mathlib.Data.List.Chain
import Testbed.Proofs.Container.Calls
import Testbed.Proofs.Engine.Table
/-!
# Rules that are put in place twice

A rule is looked for before it is put in place, and a check that fails is taken for a rule that is
missing, with whatever code it failed. So on a packet filter that is `Moody`, whose commands may
fail with any code, a container that is cut off and taken back has a rule twice at some time just if
a check failed without having looked, on a rule that is in place, and what followed it did not fail
(`rules_twice_iff_blind`).
-/

namespace Testbed

/-! ## What is seen of the peers -/

namespace Conduct

variable {I : Interface} {τ : Type} {R : Conduct I τ}

/-- The peers get from each state to the next by the event that stands with it. -/
def Walk (R : Conduct I τ) : τ → List (Event I × τ) → Prop
  | _, [] => True
  | s, x :: rest => R s x.1 x.2 ∧ R.Walk x.2 rest

end Conduct

namespace Procedure

variable {I : Interface} {α σ τ : Type} {peers : Peers I σ} {view : σ → τ} {R : Conduct I τ}

/-- The calls that are made, each with what is seen of the state that it leaves. -/
def viewed (peers : Peers I σ) (view : σ → τ) (p : Procedure I α) (m : Moment σ) :
    List (Event I × τ) :=
  (p.history peers m).map fun x => (x.1, view x.2)

theorem map_viewed (view : σ → τ) (p : Procedure I α) (m : Moment σ) :
    (p.viewed peers view m).map (·.1) = p.trace peers m := by
  simp [viewed, trace]

theorem walk_viewed (obey : peers.Obey view R) (p : Procedure I α) (m : Moment σ) :
    R.Walk (view m.state) (p.viewed peers view m) := by
  unfold viewed
  induction p generalizing m with
  | done a => trivial
  | call c next ih =>
    exact ⟨obey m.clock m.state c,
      ih _ _ { m with state := (peers.answer m.clock m.state c).2 }⟩
  | pause d p ih => exact ih { m with clock := m.clock + d }
  | clock next ih => exact ih _ _

end Procedure

/-- A call to the engine is answered with an error. -/
def Event.Refused (ev : Event outside) : Prop :=
  ∃ (call : EngineCall) (err : Error), ev = ⟨.engine call, call.refuse err⟩

theorem not_refused_exec {name : String} {cmd : List String} {output : CommandOutput} :
    ¬Event.Refused ⟨.engine (.exec name cmd), .ok output⟩ := by
  rintro ⟨call', err, same⟩
  cases same

theorem not_refused_networkInfo {network : String} {info : NetworkInfo} :
    ¬Event.Refused ⟨.engine (.networkInfo network), .ok info⟩ := by
  rintro ⟨call', err, same⟩
  cases same

/-! ## A packet filter that fails -/

namespace Lab.Engine

variable {e t : Engine} {name : String} {rule : FilterRule}

/-- The conduct of an engine by itself, except that a command of a packet filter may fail with any
code and then has no effect; a check that fails as if the rule were missing has looked. Other peers
leave the containers alone. -/
inductive Moody : Conduct outside Engine
  | performed {e : Engine} (call : EngineCall) :
      Moody e ⟨.engine call, (e.perform call).1⟩ (e.perform call).2
  | failed {e : Engine} {name action : String} {rest : List String} {output : CommandOutput} :
      output.exitCode ≠ 0 → (action = "-C" → output.exitCode ≠ 1) →
      Moody e ⟨.engine (.exec name ("iptables" :: action :: rest)), .ok output⟩ e
  | elsewhere {e : Engine} {ev : Event outside} : (∀ call, ev.call ≠ .engine call) → Moody e ev e

theorem Exact.moody {ev : Event outside} (step : Exact e ev t) : Moody e ev t := by
  cases step with
  | performed call => exact .performed call
  | ran _ => exact .elsewhere fun call h => by cases h
  | elsewhere other _ => exact .elsewhere other

/-- A command in a container that is up is carried out or fails. -/
theorem Moody.exec {cmd : List String} {a : Except Error CommandOutput}
    (step : Moody e ⟨.engine (.exec name cmd), a⟩ t) (up : e.Up name) : t.Up name ∧
      ∃ output, a = .ok output ∧
        ((∃ k : SimulatedContainer, k.rules = e.table name ∧ output = (k.exec cmd).1 ∧
            t.table name = (k.exec cmd).2.rules) ∨
          output.exitCode ≠ 0 ∧ t.table name = e.table name ∧
            ∀ rest, cmd = "iptables" :: "-C" :: rest → output.exitCode ≠ 1) := by
  cases step with
  | performed call =>
    have carried : Exact e ⟨.engine (.exec name cmd), _⟩ _ := .performed _
    obtain ⟨k, found, running, paused⟩ := up
    obtain ⟨answer, after⟩ := carried.exec found running paused
    refine ⟨(carried.up ⟨k, found, running, paused⟩).2, _, answer, .inl ⟨k, ?_, rfl, ?_⟩⟩
    · simp [table, found]
    · simp [table, after]
  | failed failing looked =>
    refine ⟨up, _, rfl, .inr ⟨failing, rfl, fun rest same => looked ?_⟩⟩
    obtain ⟨-, same⟩ := List.cons.inj same
    exact (List.cons.inj same).1
  | elsewhere other => exact absurd rfl (other _)

theorem Moody.check {a : Except Error CommandOutput}
    (step : Moody e ⟨.engine (.exec name rule.checkCommand), a⟩ t) (up : e.Up name) :
    t.Up name ∧ t.table name = e.table name ∧
      ∃ output, a = .ok output ∧ (output.exitCode = 1 → rule.text ∉ e.table name) := by
  obtain ⟨up_t, output, rfl, ⟨k, rules, rfl, after⟩ | ⟨-, same, looked⟩⟩ := step.exec up
  · rw [SimulatedContainer.exec_check] at after
    refine ⟨up_t, after.trans rules, _, rfl, fun missing => ?_⟩
    rw [SimulatedContainer.exec_check] at missing
    rw [← rules]
    intro mem
    simp [mem] at missing
  · exact ⟨up_t, same, output, rfl, fun one => absurd one (looked _ rfl)⟩

theorem Moody.append {a : Except Error CommandOutput}
    (step : Moody e ⟨.engine (.exec name rule.appendCommand), a⟩ t) (up : e.Up name) :
    t.Up name ∧ ∃ output, a = .ok output ∧ t.table name =
      if output.exitCode = 0 then e.table name ++ [rule.text] else e.table name := by
  obtain ⟨up_t, output, rfl, ⟨k, rules, rfl, after⟩ | ⟨failing, same, -⟩⟩ := step.exec up
  · rw [SimulatedContainer.exec_append, rules] at after
    exact ⟨up_t, _, rfl, after⟩
  · exact ⟨up_t, output, rfl, by rw [if_neg failing, same]⟩

theorem Moody.flush {chain : Chain} {a : Except Error CommandOutput}
    (step : Moody e ⟨.engine (.exec name ["iptables", "-F", chain.text]), a⟩ t) (up : e.Up name) :
    t.Up name ∧ (t.table name).Sublist (e.table name) ∧ ∃ output, a = .ok output := by
  obtain ⟨up_t, output, rfl, ⟨k, rules, rfl, after⟩ | ⟨-, same, -⟩⟩ := step.exec up
  · rw [SimulatedContainer.exec_flush, rules] at after
    exact ⟨up_t, after ▸ List.filter_sublist, _, rfl⟩
  · exact ⟨up_t, same ▸ List.Sublist.refl _, output, rfl⟩

theorem Moody.networkInfo {network : String} {a : Except Error NetworkInfo}
    (step : Moody e ⟨.engine (.networkInfo network), a⟩ t) : t = e ∧ ∃ info, a = .ok info := by
  cases step with
  | performed call => exact ⟨rfl, _, rfl⟩
  | elsewhere other => exact absurd rfl (other _)

end Lab.Engine

namespace Container

open Lab (Engine)
open Lab.Engine (Moody)

/-! ## What is called to cut a container off and to take it back -/

/-- The calls come in an order in which rules are put in place only behind a check that failed, and
always there. -/
inductive Switching (c : Container) : List (Event outside) → Prop
  | nil : c.Switching []
  | told {a : Except Error NetworkInfo} {es : List (Event outside)} :
      c.Switching es → c.Switching (⟨.engine (.networkInfo c.network), a⟩ :: es)
  | flushed {chain : Chain} {a : Except Error CommandOutput} {es : List (Event outside)} :
      c.Switching es →
      c.Switching (⟨.engine (.exec c.name ["iptables", "-F", chain.text]), a⟩ :: es)
  | checked {rule : FilterRule} {a : Except Error CommandOutput} {es : List (Event outside)} :
      (∀ output, a = .ok output → output.exitCode = 0) → c.Switching es →
      c.Switching (⟨.engine (.exec c.name rule.checkCommand), a⟩ :: es)
  | placed {rule : FilterRule} {check : CommandOutput} {a : Except Error CommandOutput}
      {es : List (Event outside)} : check.exitCode ≠ 0 → c.Switching es →
      c.Switching (⟨.engine (.exec c.name rule.checkCommand), .ok check⟩ ::
        ⟨.engine (.exec c.name rule.appendCommand), a⟩ :: es)

variable {c : Container} {es fs : List (Event outside)}

theorem Switching.append (first : c.Switching es) (second : c.Switching fs) :
    c.Switching (es ++ fs) := by
  induction first with
  | nil => exact second
  | told _ ih => exact .told ih
  | flushed _ ih => exact .flushed ih
  | checked found _ ih => exact .checked found ih
  | placed failing _ ih => exact .placed failing ih

theorem exec_inj {name : String} {cmd cmd' : List String} {a a' : Except Error CommandOutput}
    (same : (⟨.engine (.exec name cmd), a⟩ : Event outside) = ⟨.engine (.exec name cmd'), a'⟩) :
    cmd = cmd' ∧ a = a' := by
  obtain ⟨call, answer⟩ := Event.mk.inj same
  exact ⟨by simpa using call, eq_of_heq answer⟩

/-- A check that failed is followed by the command that puts its rule in place. -/
theorem Switching.followed (calls : c.Switching es) {before after : List (Event outside)}
    {rule : FilterRule} {check : CommandOutput}
    (split : es = before ++ ⟨.engine (.exec c.name rule.checkCommand), .ok check⟩ :: after)
    (failing : check.exitCode ≠ 0) :
    ∃ a rest, after = ⟨.engine (.exec c.name rule.appendCommand), a⟩ :: rest := by
  induction calls generalizing before with
  | nil => simp at split
  | told _ ih =>
    cases before with
    | nil => cases split
    | cons first before => exact ih (List.cons.inj split).2
  | flushed _ ih =>
    cases before with
    | nil => simp [FilterRule.checkCommand] at split
    | cons first before => exact ih (List.cons.inj split).2
  | checked found _ ih =>
    cases before with
    | nil =>
      obtain ⟨-, rfl⟩ := exec_inj (List.cons.inj split).1
      exact absurd (found check rfl) failing
    | cons first before => exact ih (List.cons.inj split).2
  | placed failing _ ih =>
    cases before with
    | nil =>
      obtain ⟨same, rfl⟩ := List.cons.inj split
      have words := (List.cons.inj (List.cons.inj (exec_inj same).1).2).2
      rw [FilterRule.appendCommand, FilterRule.appendCommand, words]
      exact ⟨_, _, rfl⟩
    | cons first before =>
      obtain ⟨-, split⟩ := List.cons.inj split
      cases before with
      | nil => simp [FilterRule.checkCommand, FilterRule.appendCommand] at split
      | cons second before => exact ih (List.cons.inj split).2

/-! ## Rules that are there twice -/

/-- A check fails with a code that does not say that its rule is missing, the rule is in place, and
what follows puts it in place once more. -/
def Blind (name : String) (x y : Event outside × Engine) : Prop :=
  ∃ (rule : FilterRule) (check append : CommandOutput),
    x.1 = ⟨.engine (.exec name rule.checkCommand), .ok check⟩ ∧
      check.exitCode ≠ 0 ∧ check.exitCode ≠ 1 ∧ rule.text ∈ x.2.table name ∧
      y.1 = ⟨.engine (.exec name rule.appendCommand), .ok append⟩ ∧ append.exitCode = 0

variable {e t u : Engine} {h : List (Event outside × Engine)}

/-- A rule that is put in place is there twice just if it was put in place blindly. -/
theorem nodup_append_iff {rule : FilterRule} {check : CommandOutput}
    {a : Except Error CommandOutput} (failing : check.exitCode ≠ 0)
    (looked : Moody e ⟨.engine (.exec c.name rule.checkCommand), .ok check⟩ t)
    (placed : Moody t ⟨.engine (.exec c.name rule.appendCommand), a⟩ u) (up : e.Up c.name)
    (distinct : (e.table c.name).Nodup) : (u.table c.name).Nodup ↔
      ¬Blind c.name (⟨.engine (.exec c.name rule.checkCommand), .ok check⟩, t)
        (⟨.engine (.exec c.name rule.appendCommand), a⟩, u) := by
  obtain ⟨up_t, same, output, eq, missing⟩ := looked.check up
  cases eq
  obtain ⟨-, output, rfl, after⟩ := placed.append up_t
  rw [← same] at distinct missing
  rw [after]
  by_cases succeeded : output.exitCode = 0
  · rw [if_pos succeeded, List.nodup_append]
    constructor
    · rintro ⟨-, -, apart⟩ ⟨rule', _, _, -, -, -, there, again, -⟩
      have words := (List.cons.inj (List.cons.inj (exec_inj again).1).2).2
      have text : rule.text = rule'.text := congrArg (fun ws => "-A " ++ Text.spaced ws) words
      exact apart _ there _ (List.mem_singleton_self _) text.symm
    · intro seeing
      refine ⟨distinct, List.pairwise_singleton _ _, ?_⟩
      rintro line there _ new rfl
      rw [List.mem_singleton] at new
      subst new
      exact seeing ⟨rule, check, output, rfl, failing, fun one => missing one there, there, rfl,
        succeeded⟩
  · rw [if_neg succeeded]
    refine iff_of_true distinct ?_
    rintro ⟨_, _, append, -, -, -, -, again, done⟩
    obtain ⟨-, answer⟩ := exec_inj again
    cases answer
    exact succeeded done

/-- The container stays up and answers, and has a rule twice at some time just if one is put in
place blindly. -/
structure Tracked (name : String) (e : Engine) (h : List (Event outside × Engine)) : Prop where
  up : ∀ x ∈ h, x.2.Up name ∧ ¬x.1.Refused
  distinct : (e.table name).Nodup →
    ((∀ x ∈ h, (x.2.table name).Nodup) ↔ h.IsChain fun x y => ¬Blind name x y)

/-- What leaves the rules distinct, and is no check that fails, makes no difference. -/
theorem Tracked.cons {x : Event outside × Engine} (rest : Tracked c.name x.2 h)
    (other : ∀ (rule : FilterRule) (check : CommandOutput), check.exitCode ≠ 0 →
      x.1 ≠ ⟨.engine (.exec c.name rule.checkCommand), .ok check⟩)
    (up : x.2.Up c.name ∧ ¬x.1.Refused)
    (kept : (e.table c.name).Nodup → (x.2.table c.name).Nodup) :
    Tracked c.name e (x :: h) where
  up := List.forall_mem_cons.2 ⟨up, rest.up⟩
  distinct distinct := by
    rw [List.forall_mem_cons, List.isChain_cons, rest.distinct (kept distinct)]
    refine and_congr_left fun _ => iff_of_true (kept distinct) ?_
    rintro y - ⟨rule, check, append, looked, failing, -⟩
    exact other rule check failing looked

theorem Switching.tracked (calls : c.Switching es) (split : h.map (·.1) = es)
    (walk : Moody.Walk e h) (up : e.Up c.name) : Tracked c.name e h := by
  induction calls generalizing e h with
  | nil =>
    obtain rfl := List.map_eq_nil_iff.1 split
    exact ⟨by simp, by simp⟩
  | told _ ih =>
    obtain ⟨⟨_, t⟩, rest, rfl, rfl, rfl⟩ := List.map_eq_cons_iff.1 split
    obtain ⟨step, walk⟩ := walk
    obtain ⟨rfl, info, rfl⟩ := step.networkInfo
    exact (ih rfl walk up).cons (by simp) ⟨up, not_refused_networkInfo⟩ id
  | flushed _ ih =>
    obtain ⟨⟨_, t⟩, rest, rfl, rfl, rfl⟩ := List.map_eq_cons_iff.1 split
    obtain ⟨step, walk⟩ := walk
    obtain ⟨up_t, fewer, output, rfl⟩ := step.flush up
    exact (ih rfl walk up_t).cons (by simp [FilterRule.checkCommand]) ⟨up_t, not_refused_exec⟩
      (·.sublist fewer)
  | checked found _ ih =>
    obtain ⟨⟨_, t⟩, rest, rfl, rfl, rfl⟩ := List.map_eq_cons_iff.1 split
    obtain ⟨step, walk⟩ := walk
    obtain ⟨up_t, same, output, rfl, -⟩ := step.check up
    refine (ih rfl walk up_t).cons ?_ ⟨up_t, not_refused_exec⟩ (same.symm ▸ id)
    exact fun rule check failing same => failing (found _ (exec_inj same).2)
  | placed failing _ ih =>
    obtain ⟨⟨_, t⟩, _, rfl, rfl, split'⟩ := List.map_eq_cons_iff.1 split
    obtain ⟨⟨_, u⟩, rest, rfl, rfl, rfl⟩ := List.map_eq_cons_iff.1 split'
    obtain ⟨looked, placed, walk⟩ := walk
    obtain ⟨up_t, same, -⟩ := looked.check up
    obtain ⟨up_u, output, rfl, -⟩ := placed.append up_t
    have later := ih rfl walk up_u
    refine ⟨?_, fun distinct => ?_⟩
    · exact List.forall_mem_cons.2 ⟨⟨up_t, not_refused_exec⟩,
        List.forall_mem_cons.2 ⟨⟨up_u, not_refused_exec⟩, later.up⟩⟩
    have distinct_t : (t.table c.name).Nodup := same.symm ▸ distinct
    have tail (distinct_u : (u.table c.name).Nodup) := (later.cons (e := t)
      (by simp [FilterRule.checkCommand, FilterRule.appendCommand]) ⟨up_u, not_refused_exec⟩
        fun _ => distinct_u).distinct distinct_t
    rw [List.forall_mem_cons, List.isChain_cons_cons,
      ← nodup_append_iff failing looked placed up distinct]
    constructor
    · rintro ⟨-, all⟩
      have distinct_u := (List.forall_mem_cons.1 all).1
      exact ⟨distinct_u, (tail distinct_u).1 all⟩
    · rintro ⟨distinct_u, sighted⟩
      exact ⟨distinct_t, (tail distinct_u).2 sighted⟩

/-! ## Operations -/

/-- What is made of the answer to a command that has to succeed. -/
def judged (c : Container) (cmd : List String) : Except Error CommandOutput → Except Error Unit
  | .error e => .error (.faultInjection c.name e.message)
  | .ok output =>
    if output.success then .ok ()
    else .error (.faultInjection c.name
      ("'" ++ Text.spaced cmd ++ "' exited with " ++ toString output.exitCode))

variable {r : Except Error Unit}

theorem filter_leads {cmd : List String} {r : Except Error CommandOutput}
    (leads : (c.filter cmd).run.Leads es r) :
    ∃ a, es = [⟨.engine (.exec c.name cmd), a⟩] ∧
      r = a.mapError fun e => .faultInjection c.name e.message := by
  obtain ⟨a, asked, rfl⟩ := Procedure.leads_map.1 leads
  exact ⟨a, Procedure.leads_ask.1 asked, rfl⟩

theorem filterChecked_leads {cmd : List String}
    (leads : (discard (c.filterChecked cmd)).run.Leads es r) :
    ∃ a, es = [⟨.engine (.exec c.name cmd), a⟩] ∧ r = c.judged cmd a := by
  change ((fun _ => ()) <$> c.filterChecked cmd).run.Leads es r at leads
  rw [ExceptT.run_map] at leads
  obtain ⟨r, checked, rfl⟩ := Procedure.leads_map.1 leads
  rcases Attempt.leads_bind.1 checked with ⟨_, _, output, rfl, filtered, last⟩ | ⟨e, filtered, rfl⟩
  · obtain ⟨a, rfl, eq⟩ := filter_leads filtered
    cases a with
    | error e => cases eq
    | ok output' =>
      cases eq
      cases succeeded : output.success with
      | true =>
        rw [succeeded] at last
        obtain ⟨rfl, rfl⟩ := Procedure.leads_pure.1 last
        exact ⟨.ok output, rfl, (if_pos succeeded).symm⟩
      | false =>
        rw [succeeded] at last
        obtain ⟨rfl, rfl⟩ := Procedure.leads_pure.1 last
        exact ⟨.ok output, rfl, (if_neg (by simp [succeeded])).symm⟩
  · obtain ⟨a, rfl, eq⟩ := filter_leads filtered
    cases a with
    | error e' =>
      cases eq
      exact ⟨.error e', rfl, rfl⟩
    | ok output => cases eq

/-- What is called to put a rule in place, and what that comes to. -/
theorem ensureRule_leads {rule : FilterRule} (leads : (c.ensureRule rule).run.Leads es r) :
    (∃ err, es = [⟨.engine (.exec c.name rule.checkCommand), .error err⟩] ∧
        r = .error (.faultInjection c.name err.message)) ∨
      (∃ check, es = [⟨.engine (.exec c.name rule.checkCommand), .ok check⟩] ∧
        check.exitCode = 0 ∧ r = .ok ()) ∨
      ∃ check a, es = [⟨.engine (.exec c.name rule.checkCommand), .ok check⟩,
          ⟨.engine (.exec c.name rule.appendCommand), a⟩] ∧
        check.exitCode ≠ 0 ∧ r = c.judged rule.appendCommand a := by
  rcases Attempt.leads_bind.1 leads with ⟨_, _, check, rfl, filtered, last⟩ | ⟨e, filtered, rfl⟩
  · right
    obtain ⟨a, rfl, eq⟩ := filter_leads filtered
    cases a with
    | error e => cases eq
    | ok output =>
      cases eq
      cases succeeded : check.success with
      | true =>
        rw [succeeded] at last
        obtain ⟨rfl, rfl⟩ := Procedure.leads_pure.1 last
        exact .inl ⟨check, rfl, by simpa [CommandOutput.success] using succeeded, rfl⟩
      | false =>
        rw [succeeded] at last
        obtain ⟨a, rfl, rfl⟩ := filterChecked_leads last
        exact .inr ⟨check, a, rfl, by simpa [CommandOutput.success] using succeeded, rfl⟩
  · obtain ⟨a, rfl, eq⟩ := filter_leads filtered
    cases a with
    | error e' =>
      cases eq
      exact .inl ⟨e', rfl, rfl⟩
    | ok output => cases eq

theorem ensureRule_switching {rule : FilterRule} (leads : (c.ensureRule rule).run.Leads es r) :
    c.Switching es := by
  rcases ensureRule_leads leads with ⟨err, rfl, -⟩ | ⟨check, rfl, found, -⟩ |
    ⟨check, a, rfl, failing, -⟩
  · exact .checked (fun output h => by cases h) .nil
  · exact .checked (fun output h => by cases h; exact found) .nil
  · exact .placed failing .nil

theorem rules_switching {rules : List FilterRule}
    (leads : (rules.forM c.ensureRule).run.Leads es r) : c.Switching es := by
  induction rules generalizing es with
  | nil =>
    obtain ⟨rfl, -⟩ := Procedure.leads_pure.1 leads
    exact .nil
  | cons rule rest ih =>
    rcases Attempt.leads_bind.1 leads with ⟨_, _, _, rfl, first, others⟩ | ⟨_, first, -⟩
    · exact (ensureRule_switching first).append (ih others)
    · exact ensureRule_switching first

theorem disconnect_switching (leads : c.disconnect.run.Leads es r) : c.Switching es := by
  have told {fs r} (leads : ((Attempt.ofAnswer (askEngine (.networkInfo c.network))).wrap
      fun e => .faultInjection c.name e.message).run.Leads fs r) : c.Switching fs := by
    obtain ⟨a, asked, -⟩ := Procedure.leads_map.1 leads
    rw [Procedure.leads_ask.1 asked]
    exact .told .nil
  rcases Attempt.leads_bind.1 leads with ⟨_, _, _, rfl, asked, rules⟩ | ⟨_, asked, -⟩
  · exact (told asked).append (rules_switching rules)
  · exact told asked

theorem reconnect_switching (leads : c.reconnect.run.Leads es r) : c.Switching es := by
  have flushed {chain : Chain} {fs r} (leads :
      (discard (c.filterChecked ["iptables", "-F", chain.text])).run.Leads fs r) :
      c.Switching fs := by
    obtain ⟨a, rfl, -⟩ := filterChecked_leads leads
    exact .flushed .nil
  rw [reconnect_eq] at leads
  rcases Attempt.leads_bind.1 leads with ⟨_, _, _, rfl, input, leads⟩ | ⟨_, input, -⟩
  · rcases Attempt.leads_bind.1 leads with ⟨_, _, _, rfl, output, last⟩ | ⟨_, output, -⟩
    · obtain ⟨rfl, -⟩ := Procedure.leads_pure.1 last
      exact (flushed input).append ((flushed output).append .nil)
    · exact (flushed input).append (flushed output)
  · exact flushed input

theorem inTurn_switching {ops : List Operation} {c' : Container}
    (switches : ∀ op ∈ ops, op = .disconnect ∨ op = .reconnect)
    (leads : (inTurn (ops.map Backend.perform) c).Leads es c') : c.Switching es := by
  induction ops generalizing es with
  | nil =>
    obtain ⟨rfl, -⟩ := Procedure.leads_pure.1 leads
    exact .nil
  | cons op ops ih =>
    obtain ⟨first, rest⟩ := List.forall_mem_cons.1 switches
    obtain ⟨fs, gs, ⟨r, d⟩, rfl, performed, others⟩ := Procedure.leads_bind.1 leads
    have same : d = c ∧ c.Switching fs := by
      rcases first with rfl | rfl
      · obtain ⟨r, switched, eq⟩ := Procedure.leads_map.1 performed
        cases eq
        exact ⟨rfl, disconnect_switching switched⟩
      · obtain ⟨r, switched, eq⟩ := Procedure.leads_map.1 performed
        cases eq
        exact ⟨rfl, reconnect_switching switched⟩
    obtain ⟨rfl, switched⟩ := same
    exact switched.append (ih rest others)

/-! ## What a disconnect tells -/

/-- What is told is what the commands that were to put rules in place came to. -/
def AppendsTell (c : Container) (es : List (Event outside)) : Except Error Unit → Prop
  | .ok () => ∀ (rule : FilterRule) (a : Except Error CommandOutput),
      ⟨.engine (.exec c.name rule.appendCommand), a⟩ ∈ es → c.judged rule.appendCommand a = .ok ()
  | .error err => ∃ (rule : FilterRule) (a : Except Error CommandOutput),
      ⟨.engine (.exec c.name rule.appendCommand), a⟩ ∈ es ∧
        c.judged rule.appendCommand a = .error err

theorem AppendsTell.append (first : c.AppendsTell es (.ok ())) (second : c.AppendsTell fs r) :
    c.AppendsTell (es ++ fs) r := by
  cases r with
  | ok u =>
    intro rule a mem
    exact (List.mem_append.1 mem).elim (first rule a) (second rule a)
  | error err =>
    obtain ⟨rule, a, mem, failed⟩ := second
    exact ⟨rule, a, List.mem_append_right _ mem, failed⟩

theorem ensureRule_tells {rule : FilterRule} (leads : (c.ensureRule rule).run.Leads es r)
    (answered : ∀ ev ∈ es, ¬ev.Refused) : c.AppendsTell es r := by
  rcases ensureRule_leads leads with ⟨err, rfl, -⟩ | ⟨check, rfl, found, rfl⟩ |
    ⟨check, a, rfl, failing, rfl⟩
  · exact absurd ⟨_, err, rfl⟩ (answered _ List.mem_cons_self)
  · intro rule' a mem
    have same := (exec_inj (List.mem_singleton.1 mem)).1
    simp [FilterRule.checkCommand, FilterRule.appendCommand] at same
  · cases told : c.judged rule.appendCommand a with
    | ok u =>
      intro rule' a' mem
      rcases List.mem_cons.1 mem with looked | placed
      · have same := (exec_inj looked).1
        simp [FilterRule.checkCommand, FilterRule.appendCommand] at same
      · obtain ⟨same, rfl⟩ := exec_inj (List.mem_singleton.1 placed)
        rw [same]
        exact told
    | error err => exact ⟨rule, a, by simp, told⟩

theorem rules_tell {rules : List FilterRule} (leads : (rules.forM c.ensureRule).run.Leads es r)
    (answered : ∀ ev ∈ es, ¬ev.Refused) : c.AppendsTell es r := by
  induction rules generalizing es with
  | nil =>
    obtain ⟨rfl, rfl⟩ := Procedure.leads_pure.1 leads
    exact fun _ _ mem => by cases mem
  | cons rule rest ih =>
    rcases Attempt.leads_bind.1 leads with ⟨_, _, _, rfl, first, others⟩ | ⟨_, first, rfl⟩
    · obtain ⟨answered, answered'⟩ := List.forall_mem_append.1 answered
      exact (ensureRule_tells first answered).append (ih others answered')
    · have told := ensureRule_tells first answered
      exact told

theorem disconnect_tells (leads : c.disconnect.run.Leads es r)
    (answered : ∀ ev ∈ es, ¬ev.Refused) : c.AppendsTell es r := by
  rcases Attempt.leads_bind.1 leads with ⟨_, _, network, rfl, asked, rules⟩ | ⟨err, asked, rfl⟩
  · obtain ⟨a, asked, -⟩ := Procedure.leads_map.1 asked
    rw [Procedure.leads_ask.1 asked] at answered ⊢
    refine AppendsTell.append ?_ (rules_tell rules (List.forall_mem_append.1 answered).2)
    intro rule a mem
    simp at mem
  · obtain ⟨a, asked, eq⟩ := Procedure.leads_map.1 asked
    rw [Procedure.leads_ask.1 asked] at answered
    cases a with
    | error err => exact absurd ⟨_, err, rfl⟩ (answered _ List.mem_cons_self)
    | ok info => cases eq

variable {σ : Type} {peers : Peers outside σ} {view : σ → Engine}

/-- A container that is cut off and taken back, on a packet filter that is moody, has a rule twice
at some time just if one was put in place blindly. A check that fails is always followed by the
command that puts its rule in place, and what a disconnect tells is only what these commands came
to. -/
theorem rules_twice_iff_blind (obey : peers.Obey view Moody) (c : Container) {m : Moment σ}
    (up : (view m.state).Up c.name) (distinct : ((view m.state).table c.name).Nodup)
    {ops : List Operation} (switches : ∀ op ∈ ops, op = .disconnect ∨ op = .reconnect) :
    let calls := (inTurn (ops.map Backend.perform) c).viewed peers view m
    ((∀ x ∈ calls, (x.2.table c.name).Nodup) ↔ calls.IsChain fun x y => ¬Blind c.name x y) ∧
      (∀ before rule check after,
        calls.map (·.1) =
          before ++ ⟨.engine (.exec c.name (FilterRule.checkCommand rule)), .ok check⟩ :: after →
        check.exitCode ≠ 0 →
        ∃ a rest, after = ⟨.engine (.exec c.name rule.appendCommand), a⟩ :: rest) ∧
      (∀ x ∈ calls, x.2.Up c.name) ∧
      ∀ n : Moment σ, (view n.state).Up c.name →
        c.AppendsTell (c.disconnect.run.trace peers n) (c.disconnect.run.run peers n).1 := by
  intro calls
  have run := Procedure.leads_run peers (inTurn (ops.map Backend.perform) c) m
  have switching := inTurn_switching switches run
  have tracked :=
    switching.tracked (Procedure.map_viewed view _ m) (Procedure.walk_viewed obey _ m) up
  refine ⟨tracked.distinct distinct, fun before rule check after split failing => ?_,
    fun x mem => (tracked.up x mem).1, fun n up => ?_⟩
  · exact switching.followed ((Procedure.map_viewed view _ m).symm.trans split) failing
  · have leads := Procedure.leads_run peers c.disconnect.run n
    have tracked := (disconnect_switching leads).tracked (Procedure.map_viewed view _ n)
      (Procedure.walk_viewed obey _ n) up
    refine disconnect_tells leads fun ev mem => ?_
    rw [← Procedure.map_viewed view] at mem
    obtain ⟨x, listed, rfl⟩ := List.mem_map.1 mem
    exact (tracked.up x listed).2

/-- A packet filter in which nothing can be looked for, on an engine without failures. -/
def locked : Peers outside Engine where
  answer _ e
    | .engine (.exec _ ("iptables" :: "-C" :: _)) => ((.ok ⟨"", 4⟩, .zero), e)
    | call => (((e.answerExactly call).1, .zero), (e.answerExactly call).2)

theorem locked_obey : locked.Obey id Moody := by
  intro clock e call
  unfold locked
  dsimp only
  split
  · exact .failed (by decide) fun _ => by decide
  · exact (Engine.peers_obey clock e call).moody

/-- A container that was deployed. -/
def fresh : Outcome Container × Moment Engine :=
  (Container.deploy (.ofNode (.ofPort 9000) .default "testnet" "/logs")).run Engine.peers
    ⟨.zero, .empty Engine.defaultInfo []⟩

/-- A check failed with a code that does not say that its rule is missing. -/
def looksInVain (name : String) : Event outside → Bool
  | ⟨.engine (.exec container ("iptables" :: "-C" :: _)), .ok output⟩ =>
    container = name && output.exitCode ≠ 0 && output.exitCode ≠ 1
  | _ => false

/-- The container runs without rules, and with checks that fail it is cut off twice. -/
theorem fresh_locked : fresh.2.state.Up fresh.1.2.name ∧ fresh.2.state.table fresh.1.2.name = [] ∧
    (fresh.1.2.disconnect.run.run locked fresh.2).1 = .ok () ∧
    (∃ ev ∈ fresh.1.2.disconnect.run.trace locked fresh.2, looksInVain fresh.1.2.name ev) ∧
    ∃ x ∈ (inTurn ([.disconnect, .disconnect].map Backend.perform) fresh.1.2).viewed locked id
      fresh.2, ¬(x.2.table fresh.1.2.name).Nodup := by
  have up : (fresh.2.state.containers.find? fresh.1.2.name).any (fun k => k.running && !k.paused) =
      true := by decide +kernel
  have succeeded : (fresh.1.2.disconnect.run.run locked fresh.2).1.toOption = some () := by
    decide +kernel
  have looked : (fresh.1.2.disconnect.run.trace locked fresh.2).any
      (looksInVain fresh.1.2.name) = true := by decide +kernel
  have twice : ((inTurn ([.disconnect, .disconnect].map Backend.perform) fresh.1.2).viewed locked id
      fresh.2).any (fun x => !decide (x.2.table fresh.1.2.name).Nodup) = true := by decide +kernel
  obtain ⟨k, found, runs⟩ := (Option.any_eq_true _ _).1 up
  obtain ⟨x, seen, repeated⟩ := List.any_eq_true.1 twice
  exact ⟨⟨k, found, by simpa using runs⟩, by decide +kernel, toOption_eq_some.1 succeeded,
    List.any_eq_true.1 looked, x, seen, by simpa using repeated⟩

/-- The second disconnect puts rules in place blindly, and the container stays up. -/
theorem rules_twice_iff_blind_locked :
    let calls :=
      (inTurn ([.disconnect, .disconnect].map Backend.perform) fresh.1.2).viewed locked id fresh.2
    ¬calls.IsChain (fun x y => ¬Blind fresh.1.2.name x y) ∧ ∀ x ∈ calls, x.2.Up fresh.1.2.name := by
  obtain ⟨up, clear, -, -, x, seen, repeated⟩ := fresh_locked
  have distinct : (fresh.2.state.table fresh.1.2.name).Nodup := by
    rw [clear]
    exact List.nodup_nil
  have switches :
      ∀ op ∈ [Operation.disconnect, .disconnect], op = .disconnect ∨ op = .reconnect := by
    simp
  obtain ⟨twice, -, ups, -⟩ :=
    @rules_twice_iff_blind _ locked id locked_obey fresh.1.2 _ up distinct _ switches
  exact ⟨fun sighted => repeated (twice.2 sighted x seen), ups⟩

/-- Not every disconnect during which a check failed in vain tells so, and not all rules of such a
run are distinct. -/
theorem blind_rules_twice :
    (¬ ∀ (peers : Peers outside Engine) (c : Container) (m : Moment Engine),
        peers.Obey id Moody → m.state.Up c.name →
        (∃ ev ∈ c.disconnect.run.trace peers m, looksInVain c.name ev) →
        ∃ reason, (c.disconnect.run.run peers m).1 = .error (.faultInjection c.name reason)) ∧
      ¬ ∀ (peers : Peers outside Engine) (c : Container) (m : Moment Engine) (ops : List Operation),
        peers.Obey id Moody → m.state.Up c.name → (m.state.table c.name).Nodup →
        (∀ op ∈ ops, op = .disconnect ∨ op = .reconnect) →
        ∀ x ∈ (inTurn (ops.map Backend.perform) c).viewed peers id m, (x.2.table c.name).Nodup := by
  obtain ⟨up, clear, succeeded, looked, x, seen, repeated⟩ := fresh_locked
  constructor
  · intro tells
    obtain ⟨reason, failed⟩ := tells locked fresh.1.2 fresh.2 locked_obey up looked
    rw [succeeded] at failed
    cases failed
  · intro distinct
    refine repeated (distinct locked fresh.1.2 fresh.2 [.disconnect, .disconnect] locked_obey up ?_
      (by simp) x seen)
    rw [clear]
    exact List.nodup_nil

end Container

end Testbed
