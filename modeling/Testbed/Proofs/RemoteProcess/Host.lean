import Testbed.Proofs.Lifecycle.Automaton
import Testbed.Proofs.RemoteProcess.Tracking
/-!
# Hosts that may fail

`Hosts` is what a host does with the commands of a node, of which any may fail without an effect. A
command that is cut off is one whose answer, whatever it is, comes too late to be read. A process
that is suspended keeps a signal to terminate pending until it is continued.

What a command does to the processes is read off its answer (`Hosts.signal`, `Hosts.launch`), and
those that are neither signals nor launch anything do nothing (`ensures_aside`).
-/

namespace Testbed

/-- A process of a node. One that is suspended ends when it is continued, if it was asked to. -/
inductive HostProcess where
  | active
  | suspended (ending : Bool)
  deriving DecidableEq, Repr

namespace RemoteProcess

/-- What a signal makes of a process, or nothing if it ends. -/
def Signal.act : Signal → HostProcess → Option HostProcess
  | .terminate, .active => none
  | .terminate, .suspended _ => some (.suspended true)
  | .kill, _ => none
  | .suspend, .active => some (.suspended false)
  | .suspend, .suspended ending => some (.suspended ending)
  | .resume, .active => some .active
  | .resume, .suspended true => none
  | .resume, .suspended false => some .active

/-- The conduct of a host towards the processes of a node. -/
inductive Hosts (p : RemoteProcess) : Conduct outside (List HostProcess)
  | signalled {l : List HostProcess} (g : Signal) {output : CommandOutput} :
      output.success = true ∨ output.exitCode = noMatch ∧ l = [] →
      Hosts p l ⟨.shell (.run p.address (p.signalCommand g.flag)), .ok output⟩ (l.filterMap g.act)
  | launched {l : List HostProcess} {cmd : String} {output : CommandOutput} :
      p.launchCommand = .ok cmd → output.success = true →
      Hosts p l ⟨.shell (.run p.address cmd), .ok output⟩ (.active :: l)
  | lost {l : List HostProcess} {cmd : String} {err : Error} :
      Hosts p l ⟨.shell (.run p.address cmd), .error err⟩ l
  | refused {l : List HostProcess} (g : Signal) {output : CommandOutput} :
      output.success = false → output.exitCode ≠ noMatch →
      Hosts p l ⟨.shell (.run p.address (p.signalCommand g.flag)), .ok output⟩ l
  | failed {l : List HostProcess} {cmd : String} {output : CommandOutput} :
      p.launchCommand = .ok cmd → output.success = false →
      Hosts p l ⟨.shell (.run p.address cmd), .ok output⟩ l
  | elsewhere {l : List HostProcess} {ev : Event outside} :
      (∀ cmd, p.Acts cmd → ev.call ≠ .shell (.run p.address cmd)) → Hosts p l ev l

namespace Hosts

variable {p q : RemoteProcess} {l t : List HostProcess} {cmd : String}
  {a : Except Error CommandOutput}

/-- The tracked state is nothing to the host. -/
theorem tracks {ev : Event outside} (step : Hosts p l ev t) (same : p.Tracks q) :
    Hosts q l ev t := by
  obtain ⟨x, rfl⟩ := same
  cases step with
  | signalled g taken => exact .signalled (p := { p with state := x }) g taken
  | launched launches succeeds => exact .launched (p := { p with state := x }) launches succeeds
  | lost => exact .lost
  | refused g fails code => exact .refused (p := { p with state := x }) g fails code
  | failed launches fails => exact .failed (p := { p with state := x }) launches fails
  | elsewhere other => exact .elsewhere other

/-- A signal acts on all processes if it is sent, and on none if it is not. -/
theorem signal {g : Signal} (is : cmd = p.signalCommand g.flag)
    (step : Hosts p l ⟨.shell (.run p.address cmd), a⟩ t) :
    (Sent a → t = l.filterMap g.act) ∧ (¬Sent a → t = l) := by
  cases step with
  | signalled h taken =>
    obtain rfl := Signal.flag_injective (signalCommand_injective is)
    have sent : Sent (.ok _) := ⟨_, rfl, taken.imp_right And.left⟩
    exact ⟨fun _ => rfl, fun unsent => absurd sent unsent⟩
  | launched launches _ | failed launches _ =>
    exact absurd is (signalCommand_ne_launchCommand g.flag launches)
  | lost => exact ⟨fun ⟨_, same, _⟩ => (nomatch same), fun _ => rfl⟩
  | refused h fails code =>
    refine ⟨?_, fun _ => rfl⟩
    rintro ⟨_, same, taken⟩
    cases same
    exact absurd taken (by simp [fails, code])
  | elsewhere other => exact absurd rfl (other cmd (.inl ⟨g, is⟩))

/-- A command that launches adds a process if it is carried out. -/
theorem launch (launches : p.launchCommand = .ok cmd)
    (step : Hosts p l ⟨.shell (.run p.address cmd), a⟩ t) :
    (Done a → t = .active :: l) ∧ (¬Done a → t = l) := by
  cases step with
  | signalled g _ | refused g _ _ =>
    exact absurd rfl (signalCommand_ne_launchCommand g.flag launches)
  | launched _ succeeds => exact ⟨fun _ => rfl, fun undone => absurd ⟨_, rfl, succeeds⟩ undone⟩
  | lost => exact ⟨fun ⟨_, same, _⟩ => (nomatch same), fun _ => rfl⟩
  | failed _ fails =>
    refine ⟨?_, fun _ => rfl⟩
    rintro ⟨_, same, succeeds⟩
    cases same
    cases fails.symm.trans succeeds
  | elsewhere other => exact absurd rfl (other cmd (.inr launches))

/-- No other command does anything to the processes. -/
theorem aside {ev : Event outside}
    (other : ∀ cmd, ev.call = .shell (.run p.address cmd) → ¬p.Acts cmd)
    (step : Hosts p l ev t) : t = l := by
  cases step with
  | signalled g _ => exact absurd (.inl ⟨g, rfl⟩) (other _ rfl)
  | launched launches _ => exact absurd (.inr launches) (other _ rfl)
  | lost | refused _ _ _ | failed _ _ | elsewhere _ => rfl

end Hosts

/-! ## What signals leave -/

namespace Signal

variable {l : List HostProcess}

theorem kill_leaves : l.filterMap kill.act = [] := by
  simp [act]

theorem terminate_leaves (active : ∀ x ∈ l, x = .active) : l.filterMap terminate.act = [] := by
  refine List.filterMap_eq_nil_iff.2 fun x mem => ?_
  rw [active x mem]
  rfl

theorem suspend_leaves : ∀ x ∈ l.filterMap suspend.act, x ≠ .active := by
  intro x mem
  obtain ⟨y, -, acts⟩ := List.mem_filterMap.1 mem
  cases y <;> cases acts <;> simp

theorem resume_leaves : ∀ x ∈ l.filterMap resume.act, x = .active := by
  intro x mem
  obtain ⟨y, -, acts⟩ := List.mem_filterMap.1 mem
  rcases y with _ | (_ | _) <;> cases acts <;> rfl

theorem terminate_pends : ∀ x ∈ l.filterMap terminate.act, x ≠ .active := by
  intro x mem
  obtain ⟨y, -, acts⟩ := List.mem_filterMap.1 mem
  cases y with
  | active => cases acts
  | suspended ending =>
    cases acts
    simp

/-- A process that was asked to end does so at last when it is continued. -/
theorem terminate_resume_leaves : (l.filterMap terminate.act).filterMap resume.act = [] := by
  rw [List.filterMap_filterMap]
  refine List.filterMap_eq_nil_iff.2 fun x _ => ?_
  cases x <;> rfl

end Signal

/-! ## Calls that do nothing to processes -/

/-- There is no more than one process. -/
abbrev Single (l : List HostProcess) : Prop := l.length ≤ 1

variable {p : RemoteProcess} {l : List HostProcess}

/-- The call does nothing to processes of the node. -/
def Aside (p : RemoteProcess) (call : Call) : Prop :=
  ∀ cmd, call = .shell (.run p.address cmd) → ¬p.Acts cmd

theorem aside_run (operation : String) {cmd : String} (other : ¬p.Acts cmd) :
    (p.run operation cmd).run.Within p.Aside := by
  refine Attempt.within_wrap (Procedure.within_ask.2 ?_)
  rintro _ same
  cases same
  exact other

theorem ensures_aside {α : Type} {work : Work α} (bound : work.Within p.Aside)
    (single : Single l) : work.Ensures (Hosts p) Single l fun _ t => t = l := by
  refine bound.ensures rfl fun _ _ t aside step same => ?_
  have kept : t = l := (step.aside aside).trans same
  exact ⟨kept ▸ single, kept⟩

/-! ## A host that loses commands -/

/-- The processes of a node on a host, and whether the host loses the next commands. -/
structure FlakyHost where
  losses : List Bool
  processes : List HostProcess

namespace FlakyHost

/-- What a command that is not lost comes to. -/
def carryOut (p : RemoteProcess) (cmd : String) (l : List HostProcess) :
    CommandOutput × List HostProcess :=
  match [Signal.terminate, .kill, .suspend, .resume].find? fun g => cmd = p.signalCommand g.flag with
  | some g => (⟨"", if l = [] then noMatch else 0⟩, l.filterMap g.act)
  | none => (⟨"", 0⟩, if p.launchCommand.toOption = some cmd then .active :: l else l)

def respond (p : RemoteProcess) (address cmd : String) (host : FlakyHost) :
    Except Error CommandOutput × FlakyHost :=
  if address = p.address then
    if host.losses.head? = some true then
      (.error (.ssh "connection lost"), { host with losses := host.losses.tail })
    else
      let done := carryOut p cmd host.processes
      (.ok done.1, ⟨host.losses.tail, done.2⟩)
  else (.ok ⟨"", 0⟩, host)

/-- A host that takes its time for every command, beside peers that let everything succeed. -/
def peers (p : RemoteProcess) (delay : Duration) : Peers outside FlakyHost where
  answer _ host c :=
    match c with
    | .shell (.run address cmd) =>
      (((respond p address cmd host).1, delay), (respond p address cmd host).2)
    | c => ((((Lab.Engine.empty Lab.Engine.defaultInfo []).answerExactly c).1, .zero), host)

theorem hosts_carryOut (p : RemoteProcess) (cmd : String) (l : List HostProcess) :
    Hosts p l ⟨.shell (.run p.address cmd), .ok (carryOut p cmd l).1⟩ (carryOut p cmd l).2 := by
  unfold carryOut
  split
  · rename_i g found
    have is : cmd = p.signalCommand g.flag := by simpa using List.find?_some found
    rw [is]
    refine .signalled g ?_
    by_cases none : l = []
    · exact .inr ⟨if_pos none, none⟩
    · exact .inl (by simp [none, CommandOutput.success])
  · rename_i unknown
    split
    · rename_i launches
      exact .launched (toOption_eq_some.1 launches) rfl
    · rename_i other
      refine .elsewhere ?_
      rintro _ (⟨g, rfl⟩ | launches) same
      · cases same
        refine List.find?_eq_none.1 unknown g ?_ (by simp)
        cases g <;> simp
      · cases same
        exact other (toOption_eq_some.2 launches)

theorem hosts_respond (p : RemoteProcess) (address cmd : String) (host : FlakyHost) :
    Hosts p host.processes ⟨.shell (.run address cmd), (respond p address cmd host).1⟩
      (respond p address cmd host).2.processes := by
  unfold respond
  split
  · rename_i here
    rw [here]
    split
    · exact .lost
    · exact hosts_carryOut p cmd host.processes
  · rename_i away
    refine .elsewhere fun _ _ same => away ?_
    cases same
    rfl

theorem peers_obey (p : RemoteProcess) (delay : Duration) :
    (peers p delay).Obey FlakyHost.processes (Hosts p) := by
  intro clock host c
  cases c with
  | shell c =>
    cases c with
    | run address cmd => exact hosts_respond p address cmd host
    | copy address source target => exact .elsewhere fun _ _ h => nomatch h
  | engine c | hypervisor c | file c | program name args | bootstrap r | act node action | abandon n
  | freshId | timeStamp | pick n | awaitShutdown limit => exact .elsewhere fun _ _ h => nomatch h

end FlakyHost

end RemoteProcess

end Testbed
