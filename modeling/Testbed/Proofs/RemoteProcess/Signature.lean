import Testbed.Proofs.RemoteProcess.Footprint
/-!
# Whom a signature picks

A signature is a pattern whose brackets stand for the one letter between them, and it matches the
command lines in which its text occurs. On a host with many nodes, that of one node matches what the
node is launched with and no signal at all, so not the shell that sends it either. It matches what
another node is launched with only if the text was given to that node, in its main class or in its
log directory (`signature_picks_own_process`).
-/

namespace Testbed

namespace Text

variable {word as bs : List Char} {c : Char}

/-- A word that occurs in a text is on one side of a character that it does not have. -/
theorem infix_cut (apart : c ∉ word) (found : word <:+: as ++ c :: bs) :
    word <:+: as ∨ word <:+: bs := by
  obtain ⟨before, after, eq⟩ := found
  rcases List.append_eq_append_iff.1 eq with ⟨rest, ends, -⟩ | ⟨rest, ends, begins⟩
  · exact .inl ⟨before, rest, ends.symm⟩
  cases rest with
  | nil =>
    rw [List.append_nil] at ends
    exact .inl ⟨before, [], by rw [List.append_nil, ends]⟩
  | cons d rest =>
    -- The word ends behind the character, so it begins behind it too.
    cases begins
    rcases List.append_eq_append_iff.1 ends with ⟨more, -, is⟩ | ⟨more, -, is⟩
    · exact absurd (is ▸ List.mem_append_right _ List.mem_cons_self) apart
    · cases more with
      | nil => exact absurd (is ▸ List.mem_cons_self : c ∈ [] ++ word) apart
      | cons e more =>
        cases is
        exact .inr ⟨more, after, rfl⟩

theorem not_infix_of_not_mem (mem : c ∈ word) (missing : c ∉ as) : ¬word <:+: as :=
  fun found => missing (found.subset mem)

end Text

namespace NodeParams

variable {p : NodeParams} {arguments : String}

theorem n_not_mem_port : 'n' ∉ p.portText.toList := by
  intro mem
  rw [toList_portText] at mem
  exact absurd (isDigit_of_mem_port mem) (by decide)

theorem n_not_mem_modeFlag : 'n' ∉ p.modeFlag.toList := by
  unfold modeFlag
  cases p.mode <;> decide

theorem n_not_mem_logLevel (level : LogLevel) : 'n' ∉ level.text.toList := by
  cases level <;> decide

/-- What stands behind the storage flags. -/
def tailFlags (p : NodeParams) : String :=
  p.modeFlag ++ " -d " ++ p.logLevel.text ++ " " ++ p.portText

theorem n_not_mem_tailFlags : 'n' ∉ p.tailFlags.toList := by
  have mode := n_not_mem_modeFlag (p := p)
  have level := n_not_mem_logLevel p.logLevel
  have port := n_not_mem_port (p := p)
  simp [tailFlags, String.toList_append, mode, level, port]

theorem tailFlags_begins : ∃ rest, p.tailFlags.toList = ' ' :: rest := by
  unfold tailFlags modeFlag
  cases p.mode <;> simp [String.toList_append]

theorem commandLine_eq : p.commandLine =
    p.storageFlags.map fun storage => "-a 0.0.0.0" ++ storage ++ p.tailFlags := by
  unfold commandLine tailFlags
  congr 1
  funext storage
  apply String.toList_inj.1
  simp [String.toList_append]

/-- Of what the server is started with, only the log directory was not chosen by the program. It
stands between blanks. -/
theorem commandLine_cut (line : p.commandLine = .ok arguments) :
    'n' ∉ arguments.toList ∨ ∃ lead rest, 'n' ∉ lead ∧ 'n' ∉ rest ∧
      arguments.toList = lead ++ ' ' :: (p.logDir.toList ++ ' ' :: rest) := by
  have missing := n_not_mem_tailFlags (p := p)
  rw [commandLine_eq] at line
  unfold storageFlags at line
  cases storage : p.persistence with
  | memory =>
    rw [storage] at line
    cases line
    left
    simp [String.toList_append, missing]
  | disk =>
    rw [storage] at line
    cases blank : Text.allBlank p.logDir with
    | true =>
      rw [blank] at line
      cases line
    | false =>
      rw [blank] at line
      cases line
      right
      obtain ⟨rest, begins⟩ := tailFlags_begins (p := p)
      have behind : 'n' ∉ rest := by
        rw [begins] at missing
        exact fun mem => missing (List.mem_cons_of_mem _ mem)
      refine ⟨"-a 0.0.0.0 -l".toList, rest, by decide, behind, ?_⟩
      rw [← begins]
      simp [String.toList_append]

/-- A word with the letter is in what the server is started with only if it is in the log
directory. -/
theorem infix_commandLine {word : List Char} (letter : 'n' ∈ word) (apart : ' ' ∉ word)
    (line : p.commandLine = .ok arguments) (found : word <:+: arguments.toList) :
    word <:+: p.logDir.toList := by
  rcases commandLine_cut line with missing | ⟨lead, rest, before, behind, eq⟩
  · exact absurd found (Text.not_infix_of_not_mem letter missing)
  rw [eq] at found
  rcases Text.infix_cut apart found with found | found
  · exact absurd found (Text.not_infix_of_not_mem letter before)
  rcases Text.infix_cut apart found with found | found
  · exact found
  · exact absurd found (Text.not_infix_of_not_mem letter behind)

end NodeParams

namespace RemoteProcess

variable {p q : RemoteProcess} {line : String}

/-- The word occurs in the text. -/
def Occurs (word text : String) : Prop := word.toList <:+: text.toList

instance (word text : String) : Decidable (Occurs word text) :=
  inferInstanceAs (Decidable (word.toList <:+: text.toList))

/-- A pattern matches a command line: the brackets stand for the letter between them. -/
def Picks (pattern line : String) : Prop :=
  ∃ rest, pattern = "[n]" ++ rest ∧ Occurs ("n" ++ rest) line

theorem picks_signature : Picks p.signature line ↔ Occurs (p.name ++ "/") line := by
  have split : p.signature = "[n]" ++ ("ode" ++ p.params.portText ++ "/") := by
    apply String.toList_inj.1
    simp [signature, String.toList_append]
  constructor
  · rintro ⟨rest, eq, found⟩
    have same : "ode" ++ p.params.portText ++ "/" = rest := by
      have chars := congrArg String.toList (split.symm.trans eq)
      simp only [String.toList_append, List.append_cancel_left_eq] at chars
      apply String.toList_inj.1
      simpa only [String.toList_append] using chars
    rwa [← same, name_eq] at found
  · intro found
    rw [← name_eq] at found
    exact ⟨_, split, found⟩

theorem n_mem_path : 'n' ∈ (p.name ++ "/").toList := by
  unfold name
  rw [String.toList_append, NodeParams.toList_name]
  simp

theorem blank_not_mem_path : ' ' ∉ (p.name ++ "/").toList := by
  have name := blank_not_mem_name (q := p)
  simp [String.toList_append, name]

/-- A node is launched with its own path. -/
theorem occurs_launchCommand (launches : p.launchCommand = .ok line) :
    Occurs (p.name ++ "/") line := by
  obtain ⟨rest, eq⟩ := launchCommand_begins launches
  refine ⟨"sh -c 'nohup java -cp ./".toList, rest, ?_⟩
  rw [eq]
  simp [directory, String.toList_append]

theorem launchCommand_parts (launches : q.launchCommand = .ok line) :
    ∃ arguments, q.params.commandLine = .ok arguments ∧ line.toList =
      ("sh -c 'nohup java -cp ./" ++ q.name ++ "/*.jar").toList ++ ' ' :: (q.mainClass.toList ++
        ' ' :: (arguments.toList ++
          ' ' :: ("> ./" ++ q.name ++ "/server.log 2>&1 &'").toList)) := by
  obtain ⟨arguments, config, eq⟩ := launchCommand_cut launches
  refine ⟨arguments, config, ?_⟩
  rw [eq]
  simp [String.toList_append]

theorem archives_names (stands : Text.Stands p.name.toList
    ("sh -c 'nohup java -cp ./" ++ q.name ++ "/*.jar").toList) :
    q.params.port = p.params.port := by
  have cut : ("sh -c 'nohup java -cp ./" ++ q.name ++ "/*.jar").toList =
      "sh -c 'nohup java -cp .".toList ++ '/' :: (q.name.toList ++ '/' :: "*.jar".toList) := by
    simp [String.toList_append]
  rw [cut] at stands
  rcases path_names stands with lead | own | file
  · exact absurd lead (unnamed 'd' (by decide) (by decide))
  · exact own
  · exact absurd file (unnamed 'd' (by decide) (by decide))

theorem output_names (stands : Text.Stands p.name.toList
    ("> ./" ++ q.name ++ "/server.log 2>&1 &'").toList) : q.params.port = p.params.port := by
  have cut : ("> ./" ++ q.name ++ "/server.log 2>&1 &'").toList =
      "> .".toList ++ '/' :: (q.name.toList ++ '/' :: "server.log 2>&1 &'".toList) := by
    simp [String.toList_append]
  rw [cut] at stands
  rcases path_names stands with lead | own | file
  · exact absurd lead (unnamed 'd' (by decide) (by decide))
  · exact own
  · exact absurd file (unnamed 'd' (by decide) (by decide))

/-- The path of a node is in what another one is launched with only if it was given to that one.
Neither the path nor the port of the other node is taken for it, and it does not begin in one
argument and end in the next. -/
theorem given_of_occurs (launches : q.launchCommand = .ok line)
    (apart : q.params.port ≠ p.params.port) (found : Occurs (p.name ++ "/") line) :
    Occurs (p.name ++ "/") q.mainClass ∨ Occurs (p.name ++ "/") q.params.logDir := by
  obtain ⟨arguments, config, eq⟩ := launchCommand_parts launches
  unfold Occurs at found
  rw [eq] at found
  rcases Text.infix_cut blank_not_mem_path found with archives | found
  · exact absurd (archives_names (named_of_struck archives)) apart
  rcases Text.infix_cut blank_not_mem_path found with given | found
  · exact .inl given
  rcases Text.infix_cut blank_not_mem_path found with given | output
  · exact .inr (NodeParams.infix_commandLine n_mem_path blank_not_mem_path config given)
  · exact absurd (output_names (named_of_struck output)) apart

theorem not_occurs_signalCommand (g : Signal) :
    ¬Occurs (p.name ++ "/") (q.signalCommand g.flag) :=
  fun found => signalCommand_names g (named_of_struck found)

/-- The signature of a node matches the command lines with its path, among them that of its own
process. It matches that of a node on another port only if the main class or the log directory of
that node has the path in it, and no command that sends a signal. -/
theorem signature_picks_own_process (p q : RemoteProcess) :
    (∀ line, Picks p.signature line ↔ Occurs (p.name ++ "/") line) ∧
    (∀ arguments, p.params.commandLine = .ok arguments →
      ∃ line, p.launchCommand = .ok line ∧ Occurs (p.name ++ "/") line) ∧
    (∀ line, q.launchCommand = .ok line → p.params.port ≠ q.params.port →
      ¬Occurs (p.name ++ "/") q.mainClass → ¬Occurs (p.name ++ "/") q.params.logDir →
        ¬Occurs (p.name ++ "/") line) ∧
    ∀ g : Signal, ¬Occurs (p.name ++ "/") (q.signalCommand g.flag) := by
  refine ⟨fun line => picks_signature, ?_, ?_, not_occurs_signalCommand⟩
  · intro arguments config
    obtain ⟨line, launches⟩ : ∃ line, p.launchCommand = .ok line := by
      unfold launchCommand
      rw [config]
      exact ⟨_, rfl⟩
    exact ⟨line, launches, occurs_launchCommand launches⟩
  · intro line launches apart free empty found
    rcases given_of_occurs launches apart.symm found with given | given
    · exact free given
    · exact empty given

/-- The node on port 9000 keeps its data in a directory that is named as it, and its name begins with
that of the node on port 900. -/
theorem signature_picks_own_process_begins :
    let p := ofNode (.ofPort 900) "10.0.0.5" .default "logs"
    let node := { NodeParams.ofPort 9000 with logDir := "/node9000/" }
    let q := ofNode node "10.0.0.5" .default "logs"
    let other := "sh -c 'nohup java -cp ./node9000/*.jar org.corfudb.infrastructure.CorfuServer " ++
      "-a 0.0.0.0 -l /node9000/ -d INFO 9000 > ./node9000/server.log 2>&1 &'"
    q.launchCommand = .ok other ∧ Occurs p.name other ∧ ¬Occurs (p.name ++ "/") other ∧
      ∃ own, p.launchCommand = .ok own ∧ Occurs (p.name ++ "/") own := by
  intro p node q other
  have config : p.params.commandLine = .ok "-a 0.0.0.0 -l /tmp/ -d INFO 900" := by
    decide +kernel
  have launches : q.launchCommand = .ok other := by
    decide +kernel
  obtain ⟨-, launched, apart, -⟩ := signature_picks_own_process p q
  refine ⟨launches, by decide +kernel, ?_, launched _ config⟩
  exact apart other launches (by decide) (by decide +kernel) (by decide +kernel)

end RemoteProcess

end Testbed
