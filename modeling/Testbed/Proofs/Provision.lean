import Testbed.Proofs.Procedure.History
import Testbed.Provision
/-!
# What provisioning a host does

A host is looked up once, before anything else. All later calls are about the machine that the
hypervisor named, be it found or cloned, and the address of the host is what the hypervisor last
said of that machine (`host_leads`).
-/

namespace Testbed

def Call.IsHypervisor : Call → Prop
  | .hypervisor _ => True
  | _ => False

/-- The name that a machine is looked up by. -/
def Call.sought? : Call → Option String
  | .hypervisor (.find name) => some name
  | _ => none

/-- What was done to give a host an address. -/
structure Lookup where
  host : String
  events : List (Event outside)
  result : Except Error String

namespace Provision

variable {vm : VmParams} {name id : String} {es : List (Event outside)}

/-- The hypervisor said that this is the machine of the host, when it was asked for it or told to
make it. -/
def Named (vm : VmParams) (name id : String) (es : List (Event outside)) : Prop :=
  ⟨.hypervisor (.find name), .ok (some id)⟩ ∈ es ∨
    ⟨.hypervisor (.clone vm.templateVm name vm.customization), .ok id⟩ ∈ es

theorem Named.append (named : Named vm name id es) (fs : List (Event outside)) :
    Named vm name id (es ++ fs) :=
  named.imp (List.mem_append_left fs) (List.mem_append_left fs)

/-- What is called for a host after it was looked up. -/
inductive Serves (vm : VmParams) (name : String) (es : List (Event outside)) : Call → Prop
  | clone : Serves vm name es (.hypervisor (.clone vm.templateVm name vm.customization))
  | powerOn {id : String} (named : Named vm name id es) :
      Serves vm name es (.hypervisor (.powerOn id))
  | guestIp {id : String} (named : Named vm name id es) :
      Serves vm name es (.hypervisor (.guestIp id))

theorem Serves.append {call : Call} (serves : Serves vm name es call) (fs : List (Event outside)) :
    Serves vm name (es ++ fs) call := by
  cases serves with
  | clone => exact .clone
  | powerOn named => exact .powerOn (named.append fs)
  | guestIp named => exact .guestIp (named.append fs)

/-- A host is looked up, then its machine is asked for an address. -/
structure Serving (vm : VmParams) (name : String) (es : List (Event outside))
    (r : Except Error String) : Prop where
  sought : ∃ answer rest, es = ⟨.hypervisor (.find name), answer⟩ :: rest ∧
    ∀ e ∈ rest, Serves vm name es e.call
  reported : ∀ address, r = .ok address → ∃ id before, Named vm name id before ∧
    es = before ++ [⟨.hypervisor (.guestIp id), .ok (some address)⟩]

theorem forHost_leads {α : Type} {p : Work (Except Error α)} {r : Except Error α} :
    (forHost name p).run.Leads es r ↔
      ∃ answer, p.Leads es answer ∧ r = answer.mapError fun e => .provisioning name e.message :=
  Procedure.leads_map

theorem forHost_leads_ok {α : Type} {p : Work (Except Error α)} {a : α} :
    (forHost name p).run.Leads es (.ok a) ↔ p.Leads es (.ok a) := by
  rw [forHost_leads]
  constructor
  · rintro ⟨answer, leads, eq⟩
    cases answer with
    | error e => cases eq
    | ok b =>
      cases eq
      exact leads
  · exact fun leads => ⟨.ok a, leads, rfl⟩

/-- What makes no call goes unnoticed. -/
theorem leads_silent_bind {α β : Type} {p : Work α} (silent : p.Within fun _ => False)
    {f : α → Attempt β} {r : Except Error β} (h : (ExceptT.lift p >>= f).run.Leads es r) :
    ∃ a, (f a).run.Leads es r := by
  obtain ⟨fs, gs, a, rfl, first, h⟩ | ⟨e, failed, -⟩ := Attempt.leads_bind.1 h
  · obtain ⟨a', first, eq⟩ := Procedure.leads_map.1 first
    cases eq
    have nothing : fs = [] := List.eq_nil_iff_forall_not_mem.2 (silent.leads first)
    rw [nothing]
    exact ⟨a, h⟩
  · obtain ⟨a, -, eq⟩ := Procedure.leads_map.1 failed
    cases eq

theorem now_silent : (Procedure.now (I := outside)).Within fun _ => False := fun _ => trivial

theorem sleep_silent (d : Duration) :
    (Procedure.sleep (I := outside) d).Within fun _ => False :=
  Procedure.within_after.2 trivial

theorem powerOn_leads {r : Except Error String}
    (h : (do
      forHost name (askHypervisor (.powerOn id))
      return id : Attempt String).run.Leads es r) :
    ∃ answer, es = [⟨.hypervisor (.powerOn id), answer⟩] ∧ ∀ id', r = .ok id' → id' = id := by
  obtain ⟨fs, gs, _, rfl, powered, h⟩ | ⟨e, failed, rfl⟩ := Attempt.leads_bind.1 h
  · obtain ⟨rfl, rfl⟩ := Procedure.leads_pure.1 h
    rw [Procedure.leads_ask.1 (forHost_leads_ok.1 powered)]
    refine ⟨_, rfl, fun id' eq => ?_⟩
    cases eq
    rfl
  · obtain ⟨answer, asked, -⟩ := forHost_leads.1 failed
    exact ⟨answer, Procedure.leads_ask.1 asked, fun id' eq => nomatch eq⟩

/-- A machine that is not found is made and powered on. -/
theorem machine_leads {r : Except Error String} (h : (machine vm name).run.Leads es r) :
    ∃ answer rest, es = ⟨.hypervisor (.find name), answer⟩ :: rest ∧
      (∀ e ∈ rest, Serves vm name es e.call) ∧ ∀ id, r = .ok id → Named vm name id es := by
  obtain ⟨fs, gs, found, rfl, sought, h⟩ | ⟨e, failed, rfl⟩ := Attempt.leads_bind.1 h
  · rw [Procedure.leads_ask.1 (forHost_leads_ok.1 sought)]
    refine ⟨.ok found, gs, rfl, ?_⟩
    cases found with
    | some there =>
      obtain ⟨rfl, rfl⟩ := Procedure.leads_pure.1 h
      refine ⟨by simp, fun id eq => ?_⟩
      cases eq
      exact .inl List.mem_cons_self
    | none =>
      obtain ⟨fs, gs, made, rfl, cloned, h⟩ | ⟨e, failed, rfl⟩ := Attempt.leads_bind.1 h
      · rw [Procedure.leads_ask.1 (forHost_leads_ok.1 cloned)]
        obtain ⟨answer, powered, same⟩ := powerOn_leads h
        have named (before : List (Event outside)) : Named vm name made (before ++
            [⟨.hypervisor (.clone vm.templateVm name vm.customization), .ok made⟩] ++ gs) :=
          .inr (by simp)
        subst powered
        refine ⟨fun e mem => ?_, fun id eq => same id eq ▸ named [_]⟩
        rcases List.mem_cons.1 mem with rfl | mem
        · exact .clone
        · rw [List.mem_singleton.1 mem]
          exact .powerOn (named [_])
      · obtain ⟨answer, asked, -⟩ := forHost_leads.1 failed
        rw [Procedure.leads_ask.1 asked]
        refine ⟨fun e mem => ?_, fun id eq => nomatch eq⟩
        rw [List.mem_singleton.1 mem]
        exact .clone
  · obtain ⟨answer, asked, -⟩ := forHost_leads.1 failed
    rw [Procedure.leads_ask.1 asked]
    exact ⟨answer, [], rfl, by simp, fun id eq => nomatch eq⟩

/-- The machine is asked for an address until it has one. -/
theorem poll_leads {interval start : Duration} {attempts : Nat} {r : Except Error String}
    (h : (poll interval name id start attempts).run.Leads es r) :
    (∀ e ∈ es, e.call = .hypervisor (.guestIp id)) ∧ ∀ address, r = .ok address →
      ∃ before, es = before ++ [⟨.hypervisor (.guestIp id), .ok (some address)⟩] := by
  induction attempts generalizing es with
  | zero =>
    obtain ⟨time, h⟩ := leads_silent_bind (now_silent.bind fun _ => Procedure.within_pure _) h
    obtain ⟨rfl, rfl⟩ := Procedure.leads_pure.1 h
    exact ⟨by simp, fun address eq => nomatch eq⟩
  | succ attempts ih =>
    obtain ⟨fs, gs, answer, rfl, asked, h⟩ | ⟨e, failed, rfl⟩ := Attempt.leads_bind.1 h
    · rw [Procedure.leads_ask.1 (forHost_leads_ok.1 asked)]
      cases answer with
      | some address =>
        obtain ⟨rfl, rfl⟩ := Procedure.leads_pure.1 h
        refine ⟨by simp, fun address' eq => ?_⟩
        cases eq
        exact ⟨[], rfl⟩
      | none =>
        obtain ⟨_, h⟩ := leads_silent_bind (sleep_silent interval) h
        obtain ⟨asks, last⟩ := ih h
        refine ⟨by simpa using asks, fun address eq => ?_⟩
        obtain ⟨before, rfl⟩ := last address eq
        exact ⟨_ :: before, rfl⟩
    · obtain ⟨answer, asked, -⟩ := forHost_leads.1 failed
      rw [Procedure.leads_ask.1 asked]
      exact ⟨by simp, fun address eq => nomatch eq⟩

theorem host_leads {r : Except Error String} (h : (host vm name).run.Leads es r) :
    Serving vm name es r := by
  obtain ⟨fs, gs, id, rfl, made, later⟩ | ⟨e, failed, rfl⟩ := Attempt.leads_bind.1 h
  · obtain ⟨answer, rest, rfl, serves, named⟩ := machine_leads made
    obtain ⟨start, polled⟩ := leads_silent_bind now_silent later
    obtain ⟨asks, last⟩ := poll_leads polled
    have named := named id rfl
    refine ⟨⟨answer, rest ++ gs, rfl, fun e mem => ?_⟩, fun address eq => ?_⟩
    · rcases List.mem_append.1 mem with mem | mem
      · exact (serves e mem).append gs
      · rw [asks e mem]
        exact .guestIp (named.append gs)
    · obtain ⟨before, rfl⟩ := last address eq
      exact ⟨id, _, named.append before, (List.append_assoc _ _ _).symm⟩
  · obtain ⟨answer, rest, rfl, serves, -⟩ := machine_leads failed
    exact ⟨⟨answer, rest, rfl, serves⟩, fun address eq => nomatch eq⟩

/-! ## Counting lookups -/

theorem Serves.isHypervisor {call : Call} (serves : Serves vm name es call) :
    call.IsHypervisor := by
  cases serves <;> trivial

theorem Serves.sought? {call : Call} (serves : Serves vm name es call) : call.sought? = none := by
  cases serves <;> rfl

theorem Serving.isHypervisor {r : Except Error String} (serving : Serving vm name es r) :
    ∀ e ∈ es, e.call.IsHypervisor := by
  obtain ⟨answer, rest, rfl, serves⟩ := serving.sought
  intro e mem
  rcases List.mem_cons.1 mem with rfl | mem
  · trivial
  · exact (serves e mem).isHypervisor

/-- A host is looked up once. -/
theorem Serving.sought? {r : Except Error String} (serving : Serving vm name es r) :
    es.filterMap (·.call.sought?) = [name] := by
  obtain ⟨answer, rest, rfl, serves⟩ := serving.sought
  have later : rest.filterMap (·.call.sought?) = [] :=
    List.filterMap_eq_nil_iff.2 fun e mem => (serves e mem).sought?
  rw [List.filterMap_cons, later]
  rfl

end Provision

end Testbed
