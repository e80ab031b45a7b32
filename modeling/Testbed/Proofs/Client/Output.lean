import Testbed.Client.Engine
import Testbed.Client.Shell
import Testbed.Proofs.Engine.Conduct
import Testbed.Proofs.Procedure.History
import Testbed.Proofs.Text.Pieces
/-!
# What commands and containers print

What a command or a container prints arrives in pieces: frames of the engine, messages of a remote
shell. The engine's client reads the frames one by one, so its text is the text of all bytes
together just if no frame ends inside a character; the shell's client reads the bytes when they are
together, however they were cut (`output_by_pieces`).
-/

namespace Testbed

/-! ## Over the wire -/

namespace Exchange

variable {α β σ : Type} {peers : Peers wire σ} {m n : Moment σ}

theorem run_bind_ok {p : Exchange α} {f : α → Exchange β} {a : α}
    (first : p.run.run peers m = (.ok a, n)) :
    (p >>= f).run.run peers m = (f a).run.run peers n := by
  rw [ExceptT.run_bind, Procedure.run_bind, first]

theorem run_ask {c : WireCall} {a : c.Answer} {d : Duration} {s : σ}
    (answered : peers.answer m.clock m.state c = ((a, d), s)) :
    (Exchange.ask c).run.run peers m = (.ok a, ⟨m.clock + d, s⟩) := by
  change ((Except.ok <$> Procedure.ask c : Procedure wire _)).run peers m = _
  rw [Procedure.run_map, Procedure.ask, Procedure.run, Procedure.run_after, answered]
  rfl

end Exchange

/-! ## The engine -/

namespace Client.Engine

variable {σ : Type} {peers : Peers wire σ} {m n : Moment σ}

/-- The engine answers requests with responses, one after the other. -/
inductive Gives (peers : Peers wire σ) :
    Moment σ → List (Http.Request × Http.Response) → Moment σ → Prop
  | nil {m : Moment σ} : Gives peers m [] m
  | cons {m n : Moment σ} {q : Http.Request} {r : Http.Response} {d : Duration} {s : σ}
      {rest : List (Http.Request × Http.Response)} :
      peers.answer m.clock m.state (.engine q) = ((.ok r, d), s) →
      Gives peers ⟨m.clock + d, s⟩ rest n → Gives peers m ((q, r) :: rest) n

/-- A request that is accepted gives its response and leaves the later ones. -/
theorem run_send {method path : String} {query headers : List (String × String)}
    {body : Option Json} {r : Http.Response} {rest : List (Http.Request × Http.Response)}
    (gives : Gives peers m ((⟨method, address path query, headers, body⟩, r) :: rest) n)
    (accepted : isAccepted r.status = true) :
    ∃ k, (send method path query headers body).run.run peers m = (.ok r, k) ∧
      Gives peers k rest n := by
  cases gives with
  | cons answered rest =>
    refine ⟨_, ?_, rest⟩
    unfold send
    rw [Exchange.run_bind_ok (Exchange.run_ask answered)]
    simp only [accepted, if_true]
    rfl

/-- The bytes are frames; the last may be cut off after its header. -/
def Carries (body : List UInt8) (fs : List Http.Frame) : Prop :=
  ∃ rest, Http.Frame.decode body = (fs, rest) ∧ (rest.isEmpty || Http.Frame.isHeader rest) = true

/-- However output is cut into frames, there are bytes that carry them. -/
theorem carries_encode {fs : List Http.Frame} (framed : ∀ f ∈ fs, f.IsFramed) :
    Carries (fs.flatMap Http.Frame.encode) fs := ⟨[], Http.Frame.decode_encode fs framed, rfl⟩

theorem run_frames {body : List UInt8} {fs : List Http.Frame} (carried : Carries body fs) :
    (frames body).run.run peers m = (.ok fs, m) := by
  obtain ⟨rest, decoded, complete⟩ := carried
  unfold frames
  rw [decoded]
  simp only [complete, if_true]
  rfl

theorem run_read {α : Type} {shape : Json.Shape} {ofJson? : Json → Option α} {r : Http.Response}
    {a : α} (reads : r.read shape ofJson? = .ok a) :
    (read shape ofJson? r).run.run peers m = (.ok a, m) := by
  unfold read
  rw [reads]
  rfl

/-! ### Commands -/

def execRequest (name : String) (cmd : List String) : Http.Request :=
  ⟨"POST", address (container name "/exec") [], [], some (.object [
    ("AttachStdout", .bool true), ("AttachStderr", .bool true), ("Cmd", Json.ofTexts cmd)])⟩

def startRequest (id : String) : Http.Request :=
  ⟨"POST", address ("/exec/" ++ id ++ "/start") [], [("upgrade", "tcp")],
    some (.object [("Detach", .bool false), ("Tty", .bool false)])⟩

def resultRequest (id : String) : Http.Request :=
  ⟨"GET", address ("/exec/" ++ id ++ "/json") [], [], none⟩

/-- What the engine responds when it runs a command to its end. -/
structure Session where
  id : String
  created : Http.Response
  started : Http.Response
  inspected : Http.Response
  frames : List Http.Frame
  exit : Int
  accepted : isAccepted created.status = true
  named : created.read execShape (Json.textOf? "Id") = .ok id
  upgraded : started.status = 101
  carried : Carries started.body frames
  found : isAccepted inspected.status = true
  ended : inspected.read execResultShape exitCode? = .ok exit

def Session.exchange (s : Session) (name : String) (cmd : List String) :
    List (Http.Request × Http.Response) :=
  [(execRequest name cmd, s.created), (startRequest s.id, s.started),
    (resultRequest s.id, s.inspected)]

/-- The bytes of the standard output, frame by frame. -/
def outputPieces (fs : List Http.Frame) : List (List UInt8) :=
  (fs.filter (·.stream = .stdout)).map (·.bytes)

theorem run_exec {s : Session} {name : String} {cmd : List String}
    (gives : Gives peers m (s.exchange name cmd) n) :
    (perform (.exec name cmd)).run peers m = (.ok ⟨outputText s.frames, s.exit⟩, n) := by
  change (exec name cmd).run.run peers m = _
  unfold exec get
  obtain ⟨k, create, gives⟩ := run_send gives s.accepted
  rw [Exchange.run_bind_ok create, Exchange.run_bind_ok (run_read s.named)]
  have upgrade : isAccepted s.started.status = true := by rw [s.upgraded]; rfl
  obtain ⟨l, start, gives⟩ := run_send gives upgrade
  rw [Exchange.run_bind_ok start]
  simp only [s.upgraded, ne_eq, not_true, if_false]
  obtain ⟨_, inspect, gives⟩ := run_send gives s.found
  cases gives
  change (frames s.started.body >>= _).run.run peers l = _
  rw [Exchange.run_bind_ok (run_frames s.carried), Exchange.run_bind_ok inspect,
    Exchange.run_bind_ok (run_read s.ended)]
  rfl

/-! ### Logs -/

def logsRequest (name : String) : Http.Request :=
  ⟨"GET", address (container name "/logs") [("follow", "false"), ("stdout", "true"),
    ("stderr", "true"), ("since", "0"), ("timestamps", "false"), ("tail", "")], [], none⟩

/-- The logs of a container as the engine responds with them. -/
structure Listing where
  response : Http.Response
  frames : List Http.Frame
  accepted : isAccepted response.status = true
  carried : Carries response.content frames

/-- The bytes of the logs, frame by frame. -/
def logPieces (fs : List Http.Frame) : List (List UInt8) := fs.map (·.bytes)

theorem logText_eq (fs : List Http.Frame) :
    logText fs = String.join ((logPieces fs).map Text.Utf8.lossy) := by
  rw [logText, logPieces, List.map_map]
  rfl

theorem outputText_eq (fs : List Http.Frame) :
    outputText fs = String.join ((outputPieces fs).map Text.Utf8.lossy) := logText_eq _

theorem run_logs {l : Listing} {name : String}
    (gives : Gives peers m [(logsRequest name, l.response)] n) :
    (perform (.logs name)).run peers m = (.ok (logText l.frames), n) := by
  obtain ⟨_, listed, gives⟩ := run_send gives l.accepted
  cases gives
  change (logs name).run.run peers m = _
  unfold logs get
  rw [Exchange.run_bind_ok listed, Exchange.run_bind_ok (run_frames l.carried)]
  rfl

end Client.Engine

/-! ## Remote shells -/

namespace Client.Shell

variable {σ : Type} {peers : Peers wire σ} {m : Moment σ}

/-- The bytes of the standard output, message by message. -/
def outputPieces (events : List CommandEvent) : List (List UInt8) :=
  events.filterMap fun e =>
    match e with
    | .stdout bytes => some bytes
    | _ => none

theorem stdoutBytes_eq (events : List CommandEvent) :
    stdoutBytes events = (outputPieces events).flatten := by
  induction events with
  | nil => rfl
  | cons e events ih => cases e <;> simp_all [stdoutBytes, outputPieces]

theorem run_exec {login : Login} {host cmd : String} {events : List CommandEvent} {d : Duration}
    {s : σ} (answered : peers.answer m.clock m.state (.command ⟨host, login, cmd, none⟩) =
      ((.ran events, d), s)) :
    (perform login (.run host cmd)).run peers m =
      (.ok (outputOf events), ⟨m.clock + d, s⟩) := by
  change (exec login host cmd none).run.run peers m = _
  unfold exec
  rw [Exchange.run_bind_ok (Exchange.run_ask answered)]
  rfl

end Client.Shell

/-! ## In pieces -/

namespace Client

open Text.Utf8 (lossy Whole)

/-- The texts of a command in a container and of a container's logs are those of their frames, one
after the other, and so the text of all bytes just if no frame ends inside a character. Frames of
other streams are not seen in what a command prints. The text of a command on a remote host is that
of all bytes, in whatever messages they came. -/
theorem output_by_pieces {σ : Type} {peers : Peers wire σ} {m n : Moment σ} :
    (∀ (s : Engine.Session) (name : String) (cmd : List String),
      Engine.Gives peers m (s.exchange name cmd) n →
      ∃ text, (Engine.perform (.exec name cmd)).run peers m = (.ok ⟨text, s.exit⟩, n) ∧
        text = String.join ((Engine.outputPieces s.frames).map lossy) ∧
        (text = lossy (Engine.outputPieces s.frames).flatten ↔
          Whole (Engine.outputPieces s.frames))) ∧
    (∀ (l : Engine.Listing) (name : String),
      Engine.Gives peers m [(Engine.logsRequest name, l.response)] n →
      ∃ text, (Engine.perform (.logs name)).run peers m = (.ok text, n) ∧
        text = String.join ((Engine.logPieces l.frames).map lossy) ∧
        (text = lossy (Engine.logPieces l.frames).flatten ↔
          Whole (Engine.logPieces l.frames))) ∧
    ∀ (login : Login) (host cmd : String) (events : List CommandEvent) (d : Duration) (s : σ),
      peers.answer m.clock m.state (.command ⟨host, login, cmd, none⟩) = ((.ran events, d), s) →
      (Shell.perform login (.run host cmd)).run peers m =
        (.ok ⟨lossy (Shell.outputPieces events).flatten, Shell.exitCode events⟩,
          ⟨m.clock + d, s⟩) := by
  refine ⟨fun s name cmd gives => ?_, fun l name gives => ?_,
    fun login host cmd events d s answered => ?_⟩
  · refine ⟨_, Engine.run_exec gives, Engine.outputText_eq _, ?_⟩
    rw [Engine.outputText_eq]
    exact Text.Utf8.join_lossy_iff _
  · refine ⟨_, Engine.run_logs gives, Engine.logText_eq _, ?_⟩
    rw [Engine.logText_eq]
    exact Text.Utf8.join_lossy_iff _
  · rw [Shell.run_exec answered, Shell.outputOf, Shell.stdoutBytes_eq]

/-- Peers that answer requests with the responses of a list, in turn, and commands with events. -/
def scripted (events : List CommandEvent) : Peers wire (List Http.Response) where
  answer _ responses c :=
    match c with
    | .engine _ | .web _ =>
      match responses with
      | [] => ((.error "connection closed", .zero), [])
      | response :: rest => ((.ok response, .zero), rest)
    | .command _ => ((.ran events, .zero), responses)
    | .read _ => ((.ok [], .zero), responses)
    | .direct c =>
      ((((Lab.Engine.empty Lab.Engine.defaultInfo []).answerExactly c).1, .zero), responses)

theorem gives_scripted (events : List CommandEvent)
    (exchange : List (Http.Request × Http.Response)) :
    Engine.Gives (scripted events) ⟨.zero, exchange.map (·.2)⟩ exchange ⟨.zero, []⟩ := by
  induction exchange with
  | nil => exact .nil
  | cons first rest ih => exact .cons rfl ih

def ascii (document : String) : List UInt8 := document.toList.map fun c => UInt8.ofNat c.toNat

/-- A command that writes the frames and exits with zero. -/
def Engine.Session.ofFrames (fs : List Http.Frame) (framed : ∀ f ∈ fs, f.IsFramed) :
    Engine.Session where
  id := "e1"
  created := ⟨201, ascii "\x7b\"Id\":\"e1\"\x7d"⟩
  started := ⟨101, fs.flatMap Http.Frame.encode⟩
  inspected := ⟨200, ascii "\x7b\"ExitCode\":0\x7d"⟩
  frames := fs
  exit := 0
  accepted := rfl
  named := toOption_eq_some.1 (by decide +kernel)
  upgraded := rfl
  carried := Engine.carries_encode framed
  found := rfl
  ended := toOption_eq_some.1 (by decide +kernel)

/-- Logs that consist of the frames. -/
def Engine.Listing.ofFrames (fs : List Http.Frame) (framed : ∀ f ∈ fs, f.IsFramed) :
    Engine.Listing where
  response := ⟨200, fs.flatMap Http.Frame.encode⟩
  frames := fs
  accepted := rfl
  carried := Engine.carries_encode framed

instance (f : Http.Frame) : Decidable f.IsFramed := inferInstanceAs (Decidable (_ ∧ _))

/-- A character in one frame, a byte of another stream and a line end. -/
def entire : Engine.Session :=
  .ofFrames [⟨.stdout, [0xC3, 0xA9]⟩, ⟨.stderr, [0xFF]⟩, ⟨.stdout, [0x0A]⟩] (by decide)

/-- A character that is cut between two frames. -/
def divided : List Http.Frame := [⟨.stdout, [0xC3]⟩, ⟨.stdout, [0xA9]⟩]

theorem divided_framed : ∀ f ∈ divided, f.IsFramed := by decide

/-- The same cut between two messages, with a byte of another stream between them. -/
def interleaved : List CommandEvent := [.stdout [0xC3], .stderr [0xFF], .stdout [0xA9], .exited 0]

/-- A character in one frame is printed as it is, one in two frames as two others, and one in two
messages of a remote shell as it is. -/
theorem output_by_pieces_scripted :
    ((Engine.perform (.exec "node9000" ["ls"])).run (scripted [])
      ⟨.zero, (entire.exchange "node9000" ["ls"]).map (·.2)⟩).1 = .ok ⟨"é\n", 0⟩ ∧
    ((Engine.perform (.logs "node9000")).run (scripted [])
      ⟨.zero, [(Engine.Listing.ofFrames divided divided_framed).response]⟩).1 =
        .ok "\uFFFD\uFFFD" ∧
    ((Shell.perform ⟨"root", "secret"⟩ (.run "vm1" "ls")).run (scripted interleaved)
      ⟨.zero, []⟩).1 = .ok ⟨"é", 0⟩ := by
  refine ⟨?_, ?_, ?_⟩
  · obtain ⟨_, run, rfl, -⟩ :=
      output_by_pieces.1 entire "node9000" ["ls"] (gives_scripted [] _)
    exact (congrArg Prod.fst run).trans (by decide +kernel)
  · obtain ⟨_, run, rfl, -⟩ :=
      output_by_pieces.2.1 (.ofFrames divided divided_framed) "node9000" (gives_scripted [] [_])
    exact (congrArg Prod.fst run).trans (by decide +kernel)
  · obtain ⟨-, -, run⟩ := output_by_pieces (m := ⟨.zero, []⟩) (n := ⟨.zero, []⟩)
    exact (congrArg Prod.fst (run ⟨"root", "secret"⟩ "vm1" "ls" interleaved .zero [] rfl)).trans
      (by decide +kernel)

/-- It is not so that the engine's client prints a character whatever frames its bytes come in. -/
theorem output_cut :
    (¬∀ (peers : Peers wire (List Http.Response)) (m n : Moment (List Http.Response))
      (s : Engine.Session) (name : String) (cmd : List String),
      Engine.Gives peers m (s.exchange name cmd) n →
      (Engine.perform (.exec name cmd)).run peers m =
        (.ok ⟨lossy (Engine.outputPieces s.frames).flatten, s.exit⟩, n)) ∧
    ¬∀ (peers : Peers wire (List Http.Response)) (m n : Moment (List Http.Response))
      (l : Engine.Listing) (name : String),
      Engine.Gives peers m [(Engine.logsRequest name, l.response)] n →
      (Engine.perform (.logs name)).run peers m =
        (.ok (lossy (Engine.logPieces l.frames).flatten), n) := by
  constructor
  · intro whole
    have gives := gives_scripted []
      ((Engine.Session.ofFrames divided divided_framed).exchange "node9000" ["ls"])
    have same := (Engine.run_exec gives).symm.trans (whole _ _ _ _ _ _ gives)
    have texts : Engine.outputText divided = lossy (Engine.outputPieces divided).flatten :=
      congrArg CommandOutput.stdout (Except.ok.inj (congrArg Prod.fst same))
    exact absurd texts (by decide +kernel)
  · intro whole
    have gives := gives_scripted []
      [(Engine.logsRequest "node9000", (Engine.Listing.ofFrames divided divided_framed).response)]
    have same := (Engine.run_logs gives).symm.trans (whole _ _ _ _ _ gives)
    have texts : Engine.logText divided = lossy (Engine.logPieces divided).flatten :=
      Except.ok.inj (congrArg Prod.fst same)
    exact absurd texts (by decide +kernel)

end Client

end Testbed
