import Testbed.Backend.Container
import Testbed.Proofs.Procedure.History
/-!
# The calls that are made for a container

Most operations only look after the container of a node (`Tends`): they create or remove none, and
the packet filter is only flushed. Disconnecting adds rules (`Filtering`), deploying puts a container
in place and removing takes it away (`Places`).

What is called to deploy a container is told by `Deploys`, whoever answers. All that is done to a
backend is to deploy it, to remove its container or to leave it as it is (`action_cases`), so that no
action changes what it is about (`Same`).
-/

namespace Testbed

/-- What is done to a backend. -/
inductive Backend.Action where
  | perform (op : Operation)
  | destroy

def Backend.Action.apply {β : Type} [Backend β] : Backend.Action → β → Work (Outcome β)
  | .perform op => Backend.perform op
  | .destroy => Backend.destroy

namespace Container

open Procedure (Within)

/-- The calls that look after a container. -/
inductive Tends (c : Container) : Call → Prop
  | inspect : c.Tends (.engine (.inspect c.name))
  | stop (timeout : Duration) : c.Tends (.engine (.stop c.name timeout))
  | kill : c.Tends (.engine (.kill c.name))
  | pause : c.Tends (.engine (.pause c.name))
  | unpause : c.Tends (.engine (.unpause c.name))
  | restart : c.Tends (.engine (.restart c.name))
  | logs : c.Tends (.engine (.logs c.name))
  | flush (chain : Chain) : c.Tends (.engine (.exec c.name ["iptables", "-F", chain.text]))
  | file (f : FileCall) : c.Tends (.file f)

variable {c : Container}

theorem status_tends : c.status.run.Within c.Tends := by
  exact Within.map (Procedure.within_ask.2 .inspect) _

theorem stop_tends (timeout : Duration) : (c.stop timeout).run.Within c.Tends := by
  refine Attempt.within_bind status_tends fun status => ?_
  split
  · exact Within.map (Procedure.within_ask.2 (.stop timeout)) _
  · exact Procedure.within_pure _

theorem kill_tends : c.kill.run.Within c.Tends := by
  refine Attempt.within_bind status_tends fun status => ?_
  split
  · exact Within.map (Procedure.within_ask.2 .kill) _
  · exact Procedure.within_pure _

theorem pause_tends : c.pause.run.Within c.Tends := by
  refine Attempt.within_bind status_tends fun status => ?_
  split
  · exact Procedure.within_ask.2 .pause
  · exact Procedure.within_pure _

theorem resume_tends : c.resume.run.Within c.Tends := by
  refine Attempt.within_bind status_tends fun status => ?_
  split
  · exact Procedure.within_ask.2 .unpause
  · exact Procedure.within_pure _

theorem restart_tends : c.restart.run.Within c.Tends := by
  refine Attempt.within_bind (Procedure.within_ask.2 .inspect) fun found => ?_
  cases found with
  | none => exact Procedure.within_pure _
  | some status =>
    dsimp only
    split
    · exact Procedure.within_ask.2 .restart
    · exact Procedure.within_pure _

theorem collectLogs_tends : c.collectLogs.run.Within c.Tends := by
  refine Attempt.within_bind (Procedure.within_ask.2 .logs) fun logs => ?_
  exact Attempt.within_bind (Attempt.within_files (.file _)) fun _ =>
    Attempt.within_files (.file _)

theorem filterChecked_within {C : Call → Prop} {cmd : List String}
    (h : C (.engine (.exec c.name cmd))) : (c.filterChecked cmd).run.Within C := by
  refine Attempt.within_bind (Attempt.within_wrap (Procedure.within_ask.2 h)) fun output => ?_
  split <;> exact Procedure.within_pure _

theorem reconnect_eq : c.reconnect = (do
    discard (c.filterChecked ["iptables", "-F", Chain.input.text])
    discard (c.filterChecked ["iptables", "-F", Chain.output.text])
    pure ()) := rfl

theorem reconnect_tends : c.reconnect.run.Within c.Tends := by
  rw [reconnect_eq]
  refine Attempt.within_bind ?_ fun _ => ?_
  · exact Attempt.within_discard (filterChecked_within (.flush .input))
  · refine Attempt.within_bind ?_ fun _ => Procedure.within_pure _
    exact Attempt.within_discard (filterChecked_within (.flush .output))

/-- All operations but these look after the container. -/
theorem perform_tends {op : Operation} (h : op ≠ .deploy ∧ op ≠ .disconnect ∧ op ≠ .remove) :
    (c.perform op).Within c.Tends := by
  cases op with
  | deploy => exact absurd rfl h.1
  | disconnect => exact absurd rfl h.2.1
  | remove => exact absurd rfl h.2.2
  | stop timeout => exact Attempt.within_keeping _ (stop_tends timeout)
  | kill => exact Attempt.within_keeping _ kill_tends
  | pause => exact Attempt.within_keeping _ pause_tends
  | resume => exact Attempt.within_keeping _ resume_tends
  | reconnect => exact Attempt.within_keeping _ reconnect_tends
  | restart => exact Attempt.within_keeping _ restart_tends
  | collectLogs => exact Attempt.within_keeping _ collectLogs_tends

/-- The calls that look for rules of the packet filter and add them. -/
inductive Filtering (c : Container) : Call → Prop
  | info : c.Filtering (.engine (.networkInfo c.network))
  | check (rule : FilterRule) : c.Filtering (.engine (.exec c.name rule.checkCommand))
  | append (rule : FilterRule) : c.Filtering (.engine (.exec c.name rule.appendCommand))

theorem ensureRule_filtering (rule : FilterRule) : (c.ensureRule rule).run.Within c.Filtering := by
  refine Attempt.within_bind ?_ fun output => ?_
  · exact Attempt.within_wrap (Procedure.within_ask.2 (.check rule))
  · split
    · exact Attempt.within_discard (filterChecked_within (.append rule))
    · exact Procedure.within_pure _

theorem rules_filtering (rules : List FilterRule) :
    (rules.forM c.ensureRule).run.Within c.Filtering := by
  induction rules with
  | nil => exact Procedure.within_pure _
  | cons rule rest ih => exact Attempt.within_bind (ensureRule_filtering rule) fun _ => ih

theorem disconnect_filtering : c.disconnect.run.Within c.Filtering :=
  Attempt.within_bind (Attempt.within_wrap (Procedure.within_ask.2 .info)) fun _ =>
    rules_filtering _

/-- The calls that put a container in place, and take it back. -/
inductive Places (c : Container) : Call → Prop
  | create {spec : ContainerSpec} : c.spec = .ok spec → c.Places (.engine (.create spec))
  | connect : c.Places (.engine (.connect c.name c.network))
  | start : c.Places (.engine (.start c.name))
  | remove : c.Places (.engine (.remove c.name))
  | abandon : c.Places (.abandon c.name)

theorem release_within {C : Call → Prop} (h : C (.abandon c.name)) : c.release.Within C := by
  unfold release
  split
  · exact Procedure.within_ask.2 h
  · exact Procedure.within_pure ()

theorem deploy_places : c.deploy.Within c.Places := by
  unfold deploy
  split
  · exact Procedure.within_pure _
  · rename_i spec ready
    refine Within.bind (Procedure.within_ask.2 (.create ready)) fun created => ?_
    cases created with
    | error e => exact Procedure.within_pure _
    | ok id =>
      refine (release_within .abandon).bind fun _ => ?_
      refine Within.bind ?_ fun started => ?_
      · exact Attempt.within_bind (Procedure.within_ask.2 .connect) fun _ =>
          Procedure.within_ask.2 .start
      · cases started with
        | ok u => exact Procedure.within_pure _
        | error e =>
          refine Within.bind ?_ fun _ => Procedure.within_pure _
          refine Within.bind (Procedure.within_ask.2 .remove) fun removed => ?_
          cases removed <;> exact Procedure.within_pure _

theorem remove_places : c.remove.Within c.Places :=
  Attempt.within_changing _ _ (Within.map (Procedure.within_ask.2 .remove) _)

/-! ## What an action comes to -/

variable {es : List (Event outside)} {o : Outcome Container}

/-- Giving up what guarded the backend until it is deployed once more. -/
def givenUp (c : Container) : List (Event outside) :=
  if c.guarded then [⟨.abandon c.name, ()⟩] else []

/-- The backend after its new container was to be removed. -/
def takenBack (c : Container) (removed : Except Error Unit) : Container :=
  { c with deployed := true, guarded := !removed.isOk }

/-- What is called to deploy a container, and what that comes to. -/
inductive Deploys (c : Container) : List (Event outside) → Outcome Container → Prop
  | unfit {err : Error} : c.spec = .error err → Deploys c [] (.error err, c)
  | uncreated {spec : ContainerSpec} {err : Error} : c.spec = .ok spec →
      Deploys c [⟨.engine (.create spec), .error err⟩] (.error (.deployment c.name err.message), c)
  | unconnected {spec : ContainerSpec} {id : String} {err : Error} {removed : Except Error Unit} :
      c.spec = .ok spec →
      Deploys c
        (⟨.engine (.create spec), .ok id⟩ :: c.givenUp ++
          [⟨.engine (.connect c.name c.network), .error err⟩, ⟨.engine (.remove c.name), removed⟩])
        (.error (.deployment c.name err.message), c.takenBack removed)
  | unstarted {spec : ContainerSpec} {id : String} {err : Error} {removed : Except Error Unit} :
      c.spec = .ok spec →
      Deploys c
        (⟨.engine (.create spec), .ok id⟩ :: c.givenUp ++
          [⟨.engine (.connect c.name c.network), .ok ()⟩, ⟨.engine (.start c.name), .error err⟩,
            ⟨.engine (.remove c.name), removed⟩])
        (.error (.deployment c.name err.message), c.takenBack removed)
  | started {spec : ContainerSpec} {id : String} : c.spec = .ok spec →
      Deploys c
        (⟨.engine (.create spec), .ok id⟩ :: c.givenUp ++
          [⟨.engine (.connect c.name c.network), .ok ()⟩, ⟨.engine (.start c.name), .ok ()⟩])
        (.ok (), { c with deployed := true, guarded := true })

theorem release_leads {u : Unit} (leads : c.release.Leads es u) : es = c.givenUp := by
  unfold release at leads
  unfold givenUp
  split
  · rename_i guarded
    rw [if_pos guarded] at leads
    exact Procedure.leads_ask.1 leads
  · rename_i unguarded
    rw [if_neg unguarded] at leads
    exact (Procedure.leads_pure.1 leads).1

theorem takeBack_leads {c' : Container}
    (leads : ({ c with deployed := true, guarded := true } : Container).takeBack.Leads es c') :
    ∃ removed, es = [⟨.engine (.remove c.name), removed⟩] ∧ c' = c.takenBack removed := by
  obtain ⟨_, _, removed, rfl, asked, last⟩ := Procedure.leads_bind.1 leads
  rw [Procedure.leads_ask.1 asked]
  cases removed with
  | ok u =>
    obtain ⟨rfl, rfl⟩ := Procedure.leads_pure.1 last
    exact ⟨.ok u, rfl, rfl⟩
  | error err =>
    obtain ⟨rfl, rfl⟩ := Procedure.leads_pure.1 last
    exact ⟨.error err, rfl, rfl⟩

/-- A container is started only if it was connected. -/
theorem connectAndStart_leads {started : Except Error Unit}
    (leads : c.connectAndStart.run.Leads es started) :
    (∃ err, es = [⟨.engine (.connect c.name c.network), .error err⟩] ∧ started = .error err) ∨
      es = [⟨.engine (.connect c.name c.network), .ok ()⟩,
        ⟨.engine (.start c.name), started⟩] := by
  rcases Attempt.leads_bind.1 leads with ⟨_, _, u, rfl, connected, rest⟩ | ⟨err, failed, rfl⟩
  · right
    rw [Procedure.leads_ask.1 connected, Procedure.leads_ask.1 rest]
    rfl
  · exact .inl ⟨err, Procedure.leads_ask.1 failed, rfl⟩

theorem deploy_leads (leads : c.deploy.Leads es o) : c.Deploys es o := by
  unfold deploy at leads
  split at leads
  · rename_i err unfit
    obtain ⟨rfl, rfl⟩ := Procedure.leads_pure.1 leads
    exact .unfit unfit
  · rename_i spec fit
    obtain ⟨_, _, created, rfl, asked, leads⟩ := Procedure.leads_bind.1 leads
    rw [Procedure.leads_ask.1 asked]
    cases created with
    | error err =>
      obtain ⟨rfl, rfl⟩ := Procedure.leads_pure.1 leads
      exact .uncreated fit
    | ok id =>
      obtain ⟨_, _, _, rfl, released, leads⟩ := Procedure.leads_bind.1 leads
      obtain ⟨_, _, started, rfl, starts, leads⟩ := Procedure.leads_bind.1 leads
      rw [release_leads released]
      have course := connectAndStart_leads starts
      cases started with
      | ok u =>
        obtain ⟨rfl, rfl⟩ := Procedure.leads_pure.1 leads
        rcases course with ⟨_, -, failed⟩ | rfl
        · cases failed
        · exact .started fit
      | error err =>
        obtain ⟨_, _, c', rfl, taken, last⟩ := Procedure.leads_bind.1 leads
        obtain ⟨rfl, rfl⟩ := Procedure.leads_pure.1 last
        obtain ⟨removed, rfl, rfl⟩ := takeBack_leads taken
        rcases course with ⟨_, rfl, failed⟩ | rfl
        · cases failed
          exact .unconnected fit
        · exact .unstarted fit

theorem remove_leads (leads : c.remove.Leads es o) :
    o = (.ok (), { c with guarded := false }) ∨ ∃ err, o = (.error err, c) := by
  obtain ⟨_, _, r, -, -, last⟩ := Procedure.leads_bind.1 leads
  cases r with
  | ok u => exact .inl (Procedure.leads_pure.1 last).2
  | error err => exact .inr ⟨err, (Procedure.leads_pure.1 last).2⟩

theorem keeping_eq {p : Attempt Unit} (leads : (p.keeping c).Leads es o) : o.2 = c := by
  obtain ⟨r, -, rfl⟩ := Procedure.leads_map.1 leads
  rfl

/-- A destruction ends with the removal of the container it began with. -/
theorem destroy_leads (leads : (Backend.destroy c).Leads es o) : ∃ fs, c.remove.Leads fs o := by
  obtain ⟨_, _, ⟨_, killed⟩, -, kill, leads⟩ := Procedure.leads_bind.1 leads
  obtain ⟨_, _, ⟨_, collected⟩, -, collect, removed⟩ := Procedure.leads_bind.1 leads
  obtain rfl : killed = c := keeping_eq kill
  obtain rfl : collected = killed := keeping_eq collect
  exact ⟨_, removed⟩

/-- An action deploys, removes or leaves the backend as it is. -/
theorem action_cases {action : Backend.Action} (leads : (action.apply c).Leads es o) :
    action = .perform .deploy ∧ c.Deploys es o ∨
      (action = .perform .remove ∨ action = .destroy) ∧
        (o = (.ok (), { c with guarded := false }) ∨ ∃ err, o = (.error err, c)) ∨
      action ≠ .perform .deploy ∧ ¬(action = .perform .remove ∨ action = .destroy) ∧ o.2 = c := by
  cases action with
  | destroy =>
    obtain ⟨fs, removed⟩ := destroy_leads leads
    exact .inr (.inl ⟨.inr rfl, remove_leads removed⟩)
  | perform op =>
    cases op with
    | deploy => exact .inl ⟨rfl, deploy_leads leads⟩
    | remove => exact .inr (.inl ⟨.inl rfl, remove_leads leads⟩)
    | stop timeout | kill | pause | resume | disconnect | reconnect | restart | collectLogs =>
      exact .inr (.inr ⟨by simp, by simp, keeping_eq leads⟩)

/-! ## What a backend is about -/

/-- The backends are for the same container. -/
structure Same (c c' : Container) : Prop where
  params : c'.params = c.params
  image : c'.image = c.image
  mainClass : c'.mainClass = c.mainClass
  network : c'.network = c.network
  logDir : c'.logDir = c.logDir

theorem Same.refl (c : Container) : c.Same c := ⟨rfl, rfl, rfl, rfl, rfl⟩

theorem Same.trans {c' c'' : Container} (h : c.Same c') (h' : c'.Same c'') : c.Same c'' :=
  ⟨h'.params.trans h.params, h'.image.trans h.image, h'.mainClass.trans h.mainClass,
    h'.network.trans h.network, h'.logDir.trans h.logDir⟩

theorem Same.name {c' : Container} (h : c.Same c') : c'.name = c.name :=
  congrArg NodeParams.name h.params

/-- What is done to a container does not change which one it is. -/
theorem action_same {action : Backend.Action} (leads : (action.apply c).Leads es o) :
    c.Same o.2 := by
  rcases action_cases leads with ⟨-, course⟩ | ⟨-, rfl | ⟨err, rfl⟩⟩ | ⟨-, -, same⟩
  · cases course with
    | unfit _ | uncreated _ => exact .refl c
    | unconnected _ | unstarted _ | started _ => exact ⟨rfl, rfl, rfl, rfl, rfl⟩
  · exact ⟨rfl, rfl, rfl, rfl, rfl⟩
  · exact .refl c
  · rw [same]
    exact .refl c

theorem perform_same {op : Operation} (leads : (c.perform op).Leads es o) : c.Same o.2 :=
  @action_same c es o (.perform op) leads

end Container

end Testbed
