import Testbed.Proofs.Container.Bystander
import Testbed.Proofs.Container.Condition
/-!
# Faults that are brought about in part

On an engine of which any call may fail, before or after it had its effect, an operation that brings
a fault about may stop anywhere. What it leaves is a `Stage` of the fault (`inject_stage`): a
partition is brought about rule by rule, the other faults by one call. Only the first stage is the
container as it was (`Stage.intact_iff`), but healing makes up for each of them (`Stage.matches`).
-/

namespace Testbed

open Lab (Engine SimulatedContainer)
open Firewall (Clear)

/-! ## Rules that show -/

namespace Text

/-- The first piece begins with all that comes before a separator. -/
theorem split_append_left {sep : Char} {front : List Char} (whole : sep ∉ front)
    (rest : List Char) :
    ∃ first others, split sep (front ++ rest) = (front ++ first) :: others := by
  cases pieces : split sep rest with
  | nil => exact absurd pieces (split_ne_nil sep rest)
  | cons first others => exact ⟨first, others, split_append_of_not_mem whole pieces⟩

/-- Trimming keeps what stands between two characters that are not blank. -/
theorem prefix_trimChars {a b : Char} {mid : List Char} (ha : isBlank a = false)
    (hb : isBlank b = false) (rest : List Char) :
    a :: (mid ++ [b]) <+: trimChars (a :: (mid ++ [b]) ++ rest) := by
  have front : (a :: (mid ++ [b]) ++ rest).dropWhile isBlank = a :: (mid ++ [b]) ++ rest :=
    List.dropWhile_cons_of_neg (by simp [ha])
  have back : ((a :: (mid ++ [b])).reverse.dropWhile isBlank).reverse = a :: (mid ++ [b]) := by
    have turned : (a :: (mid ++ [b])).reverse = b :: (mid.reverse ++ [a]) := by simp
    rw [turned, List.dropWhile_cons_of_neg (by simp [hb]), ← turned, List.reverse_reverse]
  unfold trimChars
  rw [front, List.reverse_append, List.dropWhile_append]
  split
  · exact ⟨[], (List.append_nil _).trans back.symm⟩
  · rw [List.reverse_append, List.reverse_reverse]
    exact List.prefix_append _ _

end Text

/-- What a rule begins with neither breaks the line nor is trimmed. -/
theorem FilterRule.front_text (r : FilterRule) : ∃ a mid b rest, Text.isBlank a = false ∧
    Text.isBlank b = false ∧ '\n' ∉ a :: (mid ++ [b]) ∧ r.chain.lead <+: a :: (mid ++ [b]) ∧
      r.text.toList = a :: (mid ++ [b]) ++ rest := by
  obtain ⟨chain, address, target⟩ := r
  let rest := ' ' :: address.toList ++ " -j ".toList ++ target.text.toList
  cases chain with
  | input =>
    have lead : Chain.input.lead <+: '-' :: ("A INPUT -".toList ++ ['s']) := by decide
    refine ⟨'-', "A INPUT -".toList, 's', rest, rfl, rfl, by decide, lead, ?_⟩
    simp [toList_text, Chain.lead, Chain.text, Chain.addressFlag, rest]
  | output =>
    have lead : Chain.output.lead <+: '-' :: ("A OUTPUT -".toList ++ ['d']) := by decide
    refine ⟨'-', "A OUTPUT -".toList, 'd', rest, rfl, rfl, by decide, lead, ?_⟩
    simp [toList_text, Chain.lead, Chain.text, Chain.addressFlag, rest]

namespace Firewall

/-- Every rule shows in a listing. -/
theorem parseRules_text_ne_nil (r : FilterRule) : parseRules r.text ≠ [] := by
  obtain ⟨a, mid, b, rest, ha, hb, plain, lead, whole⟩ := r.front_text
  obtain ⟨first, others, pieces⟩ := Text.split_append_left plain rest
  have listed : isRuleLine (Text.trimChars (a :: (mid ++ [b]) ++ first)) = true := by
    have shown := List.isPrefixOf_iff_prefix.2 (lead.trans (Text.prefix_trimChars ha hb first))
    rw [← String.toList_ofList (l := Text.trimChars _)]
    refine isRuleLine_iff.2 ⟨r.chain, ?_⟩
    rw [Chain.lists, String.toList_ofList]
    exact shown
  unfold parseRules
  rw [whole, pieces, List.map_cons, List.filter_cons_of_pos listed]
  exact List.cons_ne_nil _ _

theorem Clear.not_mem {table : List String} (clear : Clear table) (r : FilterRule) :
    r.text ∉ table :=
  fun mem => parseRules_text_ne_nil r (clear _ mem)

/-- The rules that isolate a node differ from each other. -/
theorem nodup_partitionRules (subnet gateway : String) :
    ((partitionRules subnet gateway).map FilterRule.text).Nodup := by
  have apart {r s : FilterRule} (other : r.chain ≠ s.chain) : r.text ≠ s.text := by
    intro same
    have own := r.lists_text
    rw [same] at own
    exact other (Chain.lists_unique own s.lists_text)
  simp only [partitionRules, List.map_cons, List.map_nil, List.nodup_cons, List.mem_cons,
    List.not_mem_nil, or_false, not_or, not_false_eq_true, List.nodup_nil, and_true]
  exact ⟨⟨accept_ne_drop _ _ _, apart (by simp), apart (by simp)⟩,
    ⟨apart (by simp), apart (by simp)⟩, accept_ne_drop _ _ _⟩

end Firewall

/-! ## Engines of which calls fail -/

/-- What is answered to a call that fails. A command that fails may be one that ran. -/
inductive EngineCall.Fails : (call : EngineCall) → call.Answer → Prop
  | refused (call : EngineCall) (err : Error) : call.Fails (call.refuse err)
  | unsuccessful {name : String} {cmd : List String} {output : CommandOutput} :
      output.success = false → Fails (.exec name cmd) (.ok output)

namespace Lab.Engine

/-- The conduct of an engine of which any call may fail, and may or may not have had its effect by
then. Other peers leave the containers alone. -/
inductive Lossy : Conduct outside Engine
  | performed {e : Engine} (call : EngineCall) :
      Lossy e ⟨.engine call, (e.perform call).1⟩ (e.perform call).2
  | failed {e t : Engine} {call : EngineCall} {a : call.Answer} :
      call.Fails a → t = e ∨ t = (e.perform call).2 → Lossy e ⟨.engine call, a⟩ t
  | elsewhere {e : Engine} {ev : Event outside} : (∀ call, ev.call ≠ .engine call) → Lossy e ev e

/-- An engine on a network of given addresses has a container. -/
structure Holds (e : Engine) (info : NetworkInfo) (name : String) (k : SimulatedContainer) :
    Prop where
  addresses : e.info = info
  found : e.containers.find? name = some k

variable {e t : Engine} {info : NetworkInfo} {name : String} {k : SimulatedContainer}

theorem Lossy.effect {call : EngineCall} {a : call.Answer} (step : Lossy e ⟨.engine call, a⟩ t) :
    t = e ∨ t = (e.perform call).2 := by
  cases step with
  | performed call => exact .inr rfl
  | failed fails effect => exact effect
  | elsewhere other => exact absurd rfl (other _)

theorem Lossy.holds {ev : Event outside} (step : Lossy e ev t) (aside : ev.call.Spares name)
    (holds : e.Holds info name k) : t.Holds info name k := by
  have carried {call : EngineCall} (other : call.target? ≠ some name) :
      (e.perform call).2.Holds info name k :=
    ⟨info_perform.trans holds.addresses, (find?_perform_other other).trans holds.found⟩
  cases step with
  | performed call => exact carried aside
  | failed fails effect =>
    rcases effect with rfl | rfl
    · exact holds
    · exact carried aside
  | elsewhere other => exact holds

theorem Holds.updated (holds : e.Holds info name k) {call : EngineCall}
    (f : SimulatedContainer → SimulatedContainer)
    (updates : (e.perform call).2 = (e.update name f).2) :
    (e.perform call).2.Holds info name (f k) := by
  refine ⟨info_perform.trans holds.addresses, ?_⟩
  rw [updates]
  exact find?_updated holds.found

/-- A command in a container that is up is carried out, or fails. -/
theorem Lossy.exec {cmd : List String} {a : Except Error CommandOutput}
    (step : Lossy e ⟨.engine (.exec name cmd), a⟩ t) (holds : e.Holds info name k)
    (running : k.running = true) (paused : k.paused = false) :
    a = .ok (k.exec cmd).1 ∧ t.Holds info name (k.exec cmd).2 ∨
      (∀ output, a = .ok output → output.success = false) ∧
        (t.Holds info name k ∨ t.Holds info name (k.exec cmd).2) := by
  obtain ⟨answer, after⟩ :=
    (Exact.performed (e := e) (.exec name cmd)).exec holds.found running paused
  have carried : (e.perform (.exec name cmd)).2.Holds info name (k.exec cmd).2 :=
    ⟨info_perform.trans holds.addresses, after⟩
  cases step with
  | performed call => exact .inl ⟨answer, carried⟩
  | failed fails effect =>
    refine .inr ⟨fun output h => ?_, ?_⟩
    · cases fails with
      | refused call err => cases h
      | unsuccessful failed =>
        cases h
        exact failed
    · rcases effect with rfl | rfl
      · exact .inl holds
      · exact .inr carried
  | elsewhere other => exact absurd rfl (other _)

end Lab.Engine

/-! ## Stages -/

namespace Lab.SimulatedContainer

variable {k k' : SimulatedContainer} {info : NetworkInfo} {fault : Fault}

def withRules (k : SimulatedContainer) (rules : List FilterRule) : SimulatedContainer :=
  { k with rules := k.rules ++ rules.map FilterRule.text }

@[simp]
theorem withRules_nil : k.withRules [] = k := by
  simp [withRules]

theorem withRules_cons {rule : FilterRule} {rules : List FilterRule} :
    (k.withRules [rule]).withRules rules = k.withRules (rule :: rules) := by
  simp [withRules]

/-- The container is up, and has no rule to show. -/
structure Intact (k : SimulatedContainer) : Prop where
  running : k.running = true
  awake : k.paused = false
  clear : Clear k.rules

/-- What a container may be while a fault is brought about, call by call. -/
inductive Stage (info : NetworkInfo) (k : SimulatedContainer) :
    Fault → SimulatedContainer → Prop
  | untouched (fault : Fault) : Stage info k fault k
  | filtered {rules : List FilterRule} : rules <+: Firewall.partitionRules info.subnet info.gateway →
      Stage info k .partition (k.withRules rules)
  | paused : Stage info k .pause { k with paused := true }
  | stopped : Stage info k .stop k.down
  | killed : Stage info k .kill k.down

/-- Of all stages only the container as it was is intact. -/
theorem Stage.intact_iff (stage : k.Stage info fault k') (intact : k.Intact) :
    k'.Intact ↔ k' = k := by
  constructor
  · intro still
    cases stage with
    | untouched fault => rfl
    | @filtered rules first =>
      cases rules with
      | nil => exact withRules_nil
      | cons rule rest =>
        have added : rule.text ∈ (k.withRules (rule :: rest)).rules := by simp [withRules]
        exact absurd added (still.clear.not_mem rule)
    | paused => cases still.awake
    | stopped | killed => cases still.running
  · rintro rfl
    exact intact

end Lab.SimulatedContainer

namespace Container

open Lab.Engine (Lossy)
open Lab.SimulatedContainer (Stage)

variable {c : Container} {e t : Engine} {info : NetworkInfo} {k k' : SimulatedContainer}

/-! ## Rules that are put in place one by one -/

/-- A rule that is missing is not found. -/
theorem check_lossy {rule : FilterRule} (holds : e.Holds info c.name k)
    (running : k.running = true) (paused : k.paused = false) (missing : rule.text ∉ k.rules) :
    (c.filter rule.checkCommand).run.Ensures Lossy (fun _ => True) e fun r t =>
      t.Holds info c.name k ∧ ∀ output, r = .ok output → output.success = false := by
  refine Attempt.ensures_wrap.2 (Procedure.ensures_ask.2 fun a t step => ⟨trivial, ?_⟩)
  rcases step.exec holds running paused with ⟨rfl, after⟩ | ⟨fails, after⟩
  · refine ⟨after, fun output h => ?_⟩
    cases h
    rw [SimulatedContainer.exec_check]
    simp [missing, CommandOutput.success]
  · refine ⟨after.elim id id, fun output h => ?_⟩
    cases a with
    | error err => cases h
    | ok output' =>
      cases h
      exact fails _ rfl

theorem append_lossy {rule : FilterRule} (holds : e.Holds info c.name k)
    (running : k.running = true) (paused : k.paused = false) :
    (c.filterChecked rule.appendCommand).run.Ensures Lossy (fun _ => True) e fun r t =>
      ((∃ output, r = .ok output) → t.Holds info c.name (k.withRules [rule])) ∧
        (t.Holds info c.name k ∨ t.Holds info c.name (k.withRules [rule])) := by
  refine Attempt.ensures_bind.2 (Attempt.ensures_wrap.2 (Procedure.ensures_ask.2 fun a t step => ?_))
  refine ⟨trivial, ?_⟩
  have added : (k.exec rule.appendCommand).2 = k.withRules [rule] := rfl
  rcases step.exec holds running paused with ⟨rfl, after⟩ | ⟨fails, after⟩
  · rw [added] at after
    exact ⟨fun _ => after, .inr after⟩
  · rw [added] at after
    cases a with
    | error err => exact ⟨fun ⟨output, h⟩ => (by cases h), after⟩
    | ok output =>
      simp only [mapError_ok, fails output rfl]
      exact ⟨fun ⟨output, h⟩ => (by cases h), after⟩

theorem ensureRule_lossy {rule : FilterRule} (holds : e.Holds info c.name k)
    (running : k.running = true) (paused : k.paused = false) (missing : rule.text ∉ k.rules) :
    (c.ensureRule rule).run.Ensures Lossy (fun _ => True) e fun r t =>
      (r = .ok () → t.Holds info c.name (k.withRules [rule])) ∧
        (t.Holds info c.name k ∨ t.Holds info c.name (k.withRules [rule])) := by
  refine Attempt.ensures_bind.2 ((check_lossy holds running paused missing).mono ?_)
  rintro r t ⟨holds_t, absent⟩
  cases r with
  | error err => exact ⟨fun h => (by cases h), .inl holds_t⟩
  | ok output =>
    simp only [absent output rfl, Bool.not_false, if_true]
    refine Attempt.ensures_discard.2 ((append_lossy holds_t running paused).mono ?_)
    rintro r u ⟨placed, after⟩
    refine ⟨fun h => placed ?_, after⟩
    cases r with
    | error err => cases h
    | ok output => exact ⟨output, rfl⟩

/-- Whatever fails, the first few of the rules are put in place. -/
theorem rules_lossy {rules : List FilterRule} (holds : e.Holds info c.name k)
    (running : k.running = true) (paused : k.paused = false)
    (missing : ∀ rule ∈ rules, rule.text ∉ k.rules)
    (distinct : (rules.map FilterRule.text).Nodup) :
    (rules.forM c.ensureRule).run.Ensures Lossy (fun _ => True) e fun _ t =>
      ∃ placed, placed <+: rules ∧ t.Holds info c.name (k.withRules placed) := by
  induction rules generalizing e k with
  | nil => exact ⟨[], List.prefix_refl _, by simpa using holds⟩
  | cons rule rest ih =>
    obtain ⟨new, others⟩ := List.nodup_cons.1 distinct
    refine Attempt.ensures_bind.2 ((ensureRule_lossy holds running paused
      (missing rule List.mem_cons_self)).mono ?_)
    rintro r t ⟨placed, after⟩
    cases r with
    | error err =>
      rcases after with before | added
      · exact ⟨[], List.nil_prefix, by simpa using before⟩
      · exact ⟨[rule], List.cons_prefix_cons.2 ⟨rfl, List.nil_prefix⟩, added⟩
    | ok u =>
      have missing' : ∀ r ∈ rest, r.text ∉ (k.withRules [rule]).rules := by
        intro r mem there
        rcases List.mem_append.1 there with old | same
        · exact missing r (List.mem_cons_of_mem _ mem) old
        · rw [List.map_singleton, List.mem_singleton] at same
          exact new (same ▸ List.mem_map_of_mem mem)
      refine (ih (placed rfl) running paused missing' others).mono ?_
      rintro r u ⟨placed, first, after⟩
      rw [SimulatedContainer.withRules_cons] at after
      exact ⟨rule :: placed, List.cons_prefix_cons.2 ⟨rfl, first⟩, after⟩

theorem disconnect_lossy (holds : e.Holds info c.name k) (intact : k.Intact) :
    c.disconnect.run.Ensures Lossy (fun _ => True) e fun _ t =>
      ∃ k', k.Stage info .partition k' ∧ t.Holds info c.name k' := by
  refine Attempt.ensures_bind.2 (Attempt.ensures_wrap.2 (Procedure.ensures_ask.2 fun a t step => ?_))
  refine ⟨trivial, ?_⟩
  have same : t = e := step.effect.elim id id
  subst same
  cases a with
  | error err => exact ⟨k, .untouched _, holds⟩
  | ok network =>
    have truth : network = info := by
      cases step with
      | performed call => exact holds.addresses
      | failed fails effect => cases fails
      | elsewhere other => exact absurd rfl (other _)
    subst truth
    have missing (rule) (_ : rule ∈ Firewall.partitionRules network.subnet network.gateway) :
        rule.text ∉ k.rules := intact.clear.not_mem rule
    refine (rules_lossy holds intact.running intact.awake missing
      (Firewall.nodup_partitionRules _ _)).mono ?_
    rintro r t ⟨placed, first, after⟩
    exact ⟨_, .filtered first, after⟩

/-! ## Faults of one call -/

/-- Looking at a container changes nothing, and what follows may be left out. -/
theorem looked_lossy {p : Attempt Unit} {test : ContainerStatus → Bool} {post : Engine → Prop}
    (before : post e) (acts : p.run.Ensures Lossy (fun _ => True) e fun _ t => post t) :
    (c.status >>= fun status => if test status then p else pure ()).run.Ensures Lossy
      (fun _ => True) e fun _ t => post t := by
  refine Attempt.ensures_bind.2 (Procedure.ensures_map.2 (Procedure.ensures_ask.2
    fun a t step => ⟨trivial, ?_⟩))
  have same : t = e := step.effect.elim id id
  subst same
  cases a with
  | error err => exact before
  | ok found =>
    change ((if test (found.getD .down) then p else pure ()) : Attempt Unit).run.Ensures _ _ _ _
    split
    · exact acts
    · exact before

/-- A call that fails may have had its effect. -/
theorem asked_lossy {call : EngineCall} {post : Engine → Prop} (before : post e)
    (after : post (e.perform call).2) :
    (askEngine call).Ensures Lossy (fun _ => True) e fun _ t => post t := by
  refine Procedure.ensures_ask.2 fun a t step => ⟨trivial, ?_⟩
  rcases step.effect with rfl | rfl
  · exact before
  · exact after

/-- Whatever fails, an operation that brings a fault about leaves a stage of it. -/
theorem inject_stage (holds : e.Holds info c.name k) (intact : k.Intact) (fault : Fault)
    (timeout : Duration) :
    (c.perform (fault.injection timeout)).Ensures Lossy (fun _ => True) e fun _ t =>
      ∃ k', k.Stage info fault k' ∧ t.Holds info c.name k' := by
  have before : ∃ k', k.Stage info fault k' ∧ e.Holds info c.name k' := ⟨k, .untouched _, holds⟩
  cases fault with
  | partition => exact Attempt.ensures_keeping.2 (disconnect_lossy holds intact)
  | pause =>
    have after : (e.perform (.pause c.name)).2.Holds info c.name { k with paused := true } :=
      holds.updated ({ · with paused := true }) rfl
    exact Attempt.ensures_keeping.2
      (looked_lossy before (asked_lossy before ⟨_, .paused, after⟩))
  | stop =>
    have after : (e.perform (.stop c.name timeout)).2.Holds info c.name k.down :=
      holds.updated .down rfl
    exact Attempt.ensures_keeping.2 (looked_lossy before
      (Procedure.ensures_map.2 (asked_lossy before ⟨_, .stopped, after⟩)))
  | kill =>
    have after : (e.perform (.kill c.name)).2.Holds info c.name k.down := holds.updated .down rfl
    exact Attempt.ensures_keeping.2 (looked_lossy before
      (Procedure.ensures_map.2 (asked_lossy before ⟨_, .killed, after⟩)))

end Container

/-! ## What healing makes up for -/

/-- Healing makes up for every stage of a fault. -/
theorem Lab.SimulatedContainer.Stage.matches {k k' : SimulatedContainer} {info : NetworkInfo}
    {fault : Fault} (stage : k.Stage info fault k') (intact : k.Intact) :
    ∃ s, fault.Mends s ∧ k'.Matches s := by
  obtain ⟨running, awake, clear⟩ := intact
  have tidy : Firewall.Tidy k.rules := fun l mem => .inl (clear l mem)
  cases stage with
  | untouched fault =>
    refine ⟨⟨.running, true⟩, fault.mends_well, ?_⟩
    exact ⟨by simp [running], by simp [awake], tidy, fun _ => clear⟩
  | @filtered rules first =>
    refine ⟨⟨.running, false⟩, Fault.mends_injected .partition .zero, ?_⟩
    refine ⟨by simp [withRules, running], by simp [withRules, awake], fun l mem => ?_, by simp⟩
    rcases List.mem_append.1 mem with old | new
    · exact tidy l old
    · obtain ⟨rule, -, rfl⟩ := List.mem_map.1 new
      exact .inr ⟨rule.chain, rule.lists_text⟩
  | paused =>
    refine ⟨⟨.paused, true⟩, Fault.mends_injected .pause .zero, ?_⟩
    exact ⟨by simp [running], by simp, tidy, fun _ => clear⟩
  | stopped | killed =>
    refine ⟨⟨.stopped, true⟩, Fault.mends_injected _ .zero, ?_⟩
    exact ⟨by simp [down], by simp [down], tidy, fun _ => clear⟩

end Testbed
