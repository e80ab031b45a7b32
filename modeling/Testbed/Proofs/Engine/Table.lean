import Testbed.Proofs.Engine.Conduct
import Testbed.Proofs.Firewall
/-!
# The rule tables of containers

The packet filter of a container is added to by its own commands only (`table_perform`), and what a
command may come to on an engine that fails is told by `Faulty.exec`: it was carried out, or the
table is as it was.
-/

namespace Testbed.Lab

open Firewall (Ordered)

namespace SimulatedContainer

variable {k : SimulatedContainer} {rule : FilterRule} {chain : Chain}

theorem exec_check : k.exec rule.checkCommand =
    (⟨"", if k.rules.contains rule.text then 0 else 1⟩, k) := rfl

theorem exec_append : k.exec rule.appendCommand =
    (⟨"", 0⟩, { k with rules := k.rules ++ [rule.text] }) := rfl

theorem exec_flush : k.exec ["iptables", "-F", chain.text] =
    (⟨"", 0⟩, { k with rules := k.rules.filter fun l => !chain.lists l }) := by
  simp [exec, filter, Chain.lists, Chain.lead, Text.spaced, String.append_assoc]

theorem exec_list : k.exec Firewall.listCommand =
    (⟨policies ++ String.join (k.rules.map (· ++ "\n")), 0⟩, k) := rfl

end SimulatedContainer

namespace Engine

variable {e t : Engine} {name : String} {allowed : Error → Prop}

/-- The rules in the packet filter of a container; without a container there are none. -/
def table (e : Engine) (name : String) : List String :=
  ((e.containers.find? name).map (·.rules)).getD []

@[simp]
theorem table_crash {names : List String} : (e.crash names).table name = e.table name := by
  unfold table
  rw [find?_crash]
  cases e.containers.find? name <;> by_cases mem : name ∈ names <;>
    simp [mem, SimulatedContainer.down]

theorem table_update {other : String} {f : SimulatedContainer → SimulatedContainer}
    (keeps : ∀ k, (f k).rules = k.rules) : (e.update other f).2.table name = e.table name := by
  unfold table
  rw [find?_update]
  cases e.containers.find? name <;> by_cases same : name = other <;> simp [same, keeps]

/-- Only commands in a container add to its rules. -/
theorem table_perform {c : EngineCall} (aside : ∀ cmd, c ≠ .exec name cmd) :
    (e.perform c).2.table name = e.table name ∨ (e.perform c).2.table name = [] := by
  cases c with
  | create spec =>
    unfold table
    rw [perform, find?_create]
    split
    · exact .inr rfl
    · exact .inl rfl
  | remove n =>
    unfold table
    rw [perform, find?_remove]
    split
    · exact .inr rfl
    · exact .inl rfl
  | exec n cmd =>
    have ne : EngineCall.target? (.exec n cmd) ≠ some name := by
      intro same
      exact aside cmd (by rw [Option.some.inj same])
    unfold table
    rw [find?_perform_other ne]
    exact .inl rfl
  | start n | stop n d | kill n | pause n | unpause n | restart n | connect n network =>
    exact .inl (table_update fun _ => rfl)
  | logs n | inspect n | networkInfo n | ensureNetwork n | removeNetwork n =>
    unfold table
    rw [find?_perform_other (by simp [EngineCall.target?])]
    exact .inl rfl

theorem table_exec {cmd : List String} :
    ((∃ err, (e.exec name cmd).1 = .error err) ∧ (e.exec name cmd).2.table name = e.table name) ∨
      ∃ k : SimulatedContainer, k.rules = e.table name ∧
        (e.exec name cmd).1 = .ok (k.exec cmd).1 ∧
        (e.exec name cmd).2.table name = (k.exec cmd).2.rules := by
  unfold table
  rw [find?_exec, if_pos rfl]
  unfold exec withContainer
  cases e.containers.find? name with
  | none => exact .inl ⟨⟨_, rfl⟩, rfl⟩
  | some k =>
    by_cases down : !k.running || k.paused
    · simp only [Option.map_some, Option.getD_some, if_pos down]
      exact .inl ⟨⟨_, rfl⟩, trivial⟩
    · simp only [Option.map_some, Option.getD_some, if_neg down]
      exact .inr ⟨k, rfl, rfl, rfl⟩

/-! ## On an engine that fails -/

/-- A command in a container that is not carried out changes no rule. -/
theorem Faulty.exec {cmd : List String} {a : Except Error CommandOutput}
    (step : Faulty allowed e ⟨.engine (.exec name cmd), a⟩ t) :
    t.info = e.info ∧
      ((∃ k : SimulatedContainer, k.rules = e.table name ∧ a = .ok (k.exec cmd).1 ∧
          t.table name = (k.exec cmd).2.rules) ∨
        t.table name = e.table name ∧ ∀ output, a = .ok output → output.success = false ∧
          ∃ action rest, cmd = "iptables" :: action :: rest ∧ (action = "-A" ∨ action = "-F")) := by
  cases step with
  | performed names c =>
    refine ⟨by simp, ?_⟩
    rcases @table_exec (e.crash names) name cmd with ⟨⟨err, failed⟩, same⟩ | ⟨k, rules, ran, after⟩
    · refine .inr ⟨by simpa [perform] using same, fun output h => ?_⟩
      cases failed.symm.trans h
    · exact .inl ⟨k, by simpa using rules, ran, after⟩
  | refused names c _ =>
    refine ⟨by simp, .inr ⟨by simp, fun output h => ?_⟩⟩
    cases h
  | unfiltered names kind failed =>
    refine ⟨by simp, .inr ⟨by simp, fun output h => ?_⟩⟩
    cases h
    exact ⟨failed, _, _, rfl, kind⟩
  | elsewhere names other => exact absurd rfl (other _)

/-- A call that adds no rule keeps a table ordered. -/
theorem Faulty.ordered {info : NetworkInfo} {ev : Event outside}
    (tame : ∀ cmd, ev.call = .engine (.exec name cmd) → ∃ chain : Chain,
      cmd = ["iptables", "-F", chain.text])
    (step : Faulty allowed e ev t) (ordered : Ordered info (e.table name)) :
    Ordered info (t.table name) := by
  cases step with
  | performed names c =>
    by_cases command : ∃ cmd, c = .exec name cmd
    · obtain ⟨cmd, rfl⟩ := command
      obtain ⟨chain, rfl⟩ := tame cmd rfl
      rcases @table_exec (e.crash names) name _ with ⟨-, same⟩ | ⟨k, rules, -, after⟩
      · rw [perform, same]
        simpa using ordered
      · rw [perform, after, SimulatedContainer.exec_flush, rules]
        simpa using ordered.flush chain
    · rcases table_perform (e := e.crash names) (fun cmd eq => command ⟨cmd, eq⟩) with same | none
      · rw [same]
        simpa using ordered
      · rw [none]
        exact .nil
  | refused names c _ | unfiltered names _ _ | elsewhere names _ => simpa using ordered

theorem Faulty.info {ev : Event outside} (step : Faulty allowed e ev t) : t.info = e.info := by
  cases step <;> simp

theorem Faulty.networkInfo {network : String} {a : Except Error NetworkInfo}
    (step : Faulty allowed e ⟨.engine (.networkInfo network), a⟩ t) :
    t.table name = e.table name ∧ ∀ info, a = .ok info → info = e.info := by
  cases step with
  | performed names c =>
    refine ⟨by simp [perform], fun info h => ?_⟩
    cases h
    simp
  | refused names c _ => exact ⟨by simp, fun info h => by cases h⟩
  | elsewhere names other => exact absurd rfl (other _)

end Engine

end Testbed.Lab
