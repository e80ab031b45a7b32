import Mathlib.Data.List.Basic
import Testbed.Proofs.Params.Identity
import Testbed.Proofs.RemoteProcess.Commands
/-!
# What the calls of a process act on

Several nodes may live on one host. A call to a host acts on a node that lives there if it names the
directory of the node, or if it signals to all processes that have something in their command line
which that of the node has (`ActsOn`).

Two nodes share a directory and a signature if they are on the same port of the same address
(`shares_iff`), and then the calls that are made for one act on the other. Otherwise they do not,
unless what the processes are started with spells the name of the other node
(`Issues.acts_iff`).
-/

namespace Testbed

namespace Text

/-- A word is found in a text, at a place where no digit follows it. -/
def Stands (word text : List Char) : Prop :=
  ∃ before after, text = before ++ word ++ after ∧ ∀ c ∈ after.head?, c.isDigit = false

variable {word text as bs : List Char} {c : Char}

theorem Stands.mem (stands : Stands word text) (mem : c ∈ word) : c ∈ text := by
  obtain ⟨before, after, rfl, -⟩ := stands
  exact List.mem_append_left _ (List.mem_append_right _ mem)

theorem Stands.of_append {lead : List Char} (stands : Stands (lead ++ word) text) :
    Stands word text := by
  obtain ⟨before, after, rfl, stop⟩ := stands
  exact ⟨before ++ lead, after, by simp only [List.append_assoc], stop⟩

/-- A word is on one side of a character that it does not have. -/
theorem Stands.cut (apart : c ∉ word) (stands : Stands word (as ++ c :: bs)) :
    Stands word as ∨ Stands word bs := by
  obtain ⟨before, after, eq, stop⟩ := stands
  rcases List.append_eq_append_iff.1 eq with ⟨rest, ends, begins⟩ | ⟨rest, ends, begins⟩
  · -- The word ends where the character is, or later.
    rcases List.append_eq_append_iff.1 ends with ⟨more, is, tail⟩ | ⟨more, is, tail⟩
    · cases rest with
      | nil =>
        refine .inl ⟨before, [], ?_, by simp⟩
        rw [is, tail]
        simp
      | cons d rest =>
        cases begins
        exact absurd (tail ▸ List.mem_append_right _ List.mem_cons_self) apart
    · subst tail
      cases more with
      | nil =>
        cases word with
        | nil => exact .inl ⟨as, [], by simp, by simp⟩
        | cons d word =>
          cases begins
          exact absurd List.mem_cons_self apart
      | cons d more =>
        cases begins
        exact .inr ⟨more, after, rfl, stop⟩
  · subst ends
    subst begins
    refine .inl ⟨before, rest, rfl, fun d first => stop d ?_⟩
    exact List.mem_head?_append_of_mem_head? first

end Text

namespace NodeParams

open Text (Stands)

variable {p q : NodeParams}

theorem toList_name (p : NodeParams) :
    p.name.toList = 'n' :: 'o' :: 'd' :: 'e' :: Nat.toDigits 10 p.port.toNat := by
  rw [name, String.toList_append, toList_portText]
  rfl

theorem isDigit_of_mem_port {c : Char} (mem : c ∈ Nat.toDigits 10 p.port.toNat) :
    c.isDigit = true :=
  Nat.isDigit_of_mem_toDigits (by decide) (by decide) mem

theorem not_mem_name {c : Char} (other : c ∉ ['n', 'o', 'd', 'e']) (digit : c.isDigit = false) :
    c ∉ p.name.toList := by
  intro mem
  rw [toList_name] at mem
  have apart : c ≠ 'n' ∧ c ≠ 'o' ∧ c ≠ 'd' ∧ c ≠ 'e' := by simpa using other
  have among : c ∈ Nat.toDigits 10 p.port.toNat := by simpa [apart] using mem
  have isDigit := isDigit_of_mem_port among
  simp [digit] at isDigit

theorem n_not_mem_tail : 'n' ∉ p.name.toList.tail := by
  rw [toList_name]
  intro mem
  have among : 'n' ∈ Nat.toDigits 10 p.port.toNat := by simpa using mem
  exact absurd (isDigit_of_mem_port among) (by decide)

/-- The name of a node is not found in that of another one, for no digit follows it. -/
theorem stands_name : Stands p.name.toList q.name.toList ↔ p.port = q.port := by
  constructor
  · rintro ⟨before, after, eq, stop⟩
    have once : 'n' ∉ 'o' :: 'd' :: 'e' :: Nat.toDigits 10 q.port.toNat := by
      have tail := n_not_mem_tail (p := q)
      rwa [toList_name] at tail
    rw [toList_name, toList_name, List.append_assoc] at eq
    obtain ⟨-, -, rest⟩ := (List.append_cons_inj_of_notMem List.not_mem_nil once).1 eq
    have digits : Nat.toDigits 10 q.port.toNat = Nat.toDigits 10 p.port.toNat ++ after := by
      simpa using rest
    have done : after = [] := by
      cases after with
      | nil => rfl
      | cons c after =>
        have isDigit : c.isDigit = true := isDigit_of_mem_port (p := q) (by simp [digits])
        have none := stop c rfl
        simp [isDigit] at none
    rw [done, List.append_nil] at digits
    exact (port_eq_of_digits_eq digits).symm
  · intro same
    refine ⟨[], [], ?_, by simp⟩
    rw [toList_name, toList_name, same]
    simp

end NodeParams

namespace RemoteProcess

open Text (Stands)

variable {p q : RemoteProcess} {cmd : String}

/-! ## What calls act on -/

/-- The directory that a node lives in. -/
def directory (p : RemoteProcess) : String := "./" ++ p.name

/-- The command that signals to all processes with a text in their command line. The brackets are
for the first letter of the text. -/
def pkill (g : Signal) (rest : String) : String := "pkill " ++ g.flag ++ "-f '[n]" ++ rest ++ "'"

/-- The command signals to all processes with a text that the process of the node has in its command
line. -/
def Struck (q : RemoteProcess) (cmd : String) : Prop :=
  ∃ g rest line, cmd = pkill g rest ∧ q.launchCommand = .ok line ∧
    ("n" ++ rest).toList <:+: line.toList

/-- The call is made to the host of the node, and for its directory or its process. -/
def ActsOn (q : RemoteProcess) : ShellCall → Prop
  | .run host cmd =>
    host = q.address ∧ (Stands q.directory.toList cmd.toList ∨ q.Struck cmd)
  | .copy host _ target => host = q.address ∧ Stands q.directory.toList target.toList

/-- The nodes have one directory and one signature on one host. -/
structure Shares (p q : RemoteProcess) : Prop where
  address : p.address = q.address
  directory : p.directory = q.directory
  signature : p.signature = q.signature

/-- The name of another node is part of the artifact of a node, of its main class or of its
arguments. -/
def Mentions (p q : RemoteProcess) : Prop :=
  Stands q.name.toList p.artifactFile.toList ∨
    ∃ arguments, p.params.commandLine = .ok arguments ∧
      Stands q.name.toList (p.mainClass ++ " " ++ arguments).toList

theorem shares_iff : p.Shares q ↔ p.address = q.address ∧ p.params.port = q.params.port := by
  constructor
  · intro shares
    have names : p.name = q.name := by
      have chars := congrArg String.toList shares.directory
      simp only [directory, String.toList_append, List.append_cancel_left_eq] at chars
      exact String.toList_inj.1 chars
    exact ⟨shares.address, NodeParams.port_eq_of_name_eq names⟩
  · rintro ⟨address, port⟩
    have texts : p.params.portText = q.params.portText := by
      unfold NodeParams.portText
      rw [port]
    refine ⟨address, ?_, ?_⟩
    · simp only [directory, name, NodeParams.name, texts]
    · simp only [signature, texts]

/-! ## The directory in commands -/

theorem named_of_directory {text : List Char} (stands : Stands q.directory.toList text) :
    Stands q.name.toList text := by
  unfold directory at stands
  rw [String.toList_append] at stands
  exact stands.of_append

/-- A text without one of the letters that all names have does not name a node. -/
theorem unnamed {text : List Char} (letter : Char) (common : letter ∈ ['n', 'o', 'd', 'e'])
    (missing : letter ∉ text) : ¬Stands q.name.toList text := by
  intro stands
  refine missing (stands.mem ?_)
  unfold name
  rw [NodeParams.toList_name]
  exact List.mem_append_left (Nat.toDigits 10 q.params.port.toNat) common

theorem slash_not_mem_name : '/' ∉ q.name.toList :=
  NodeParams.not_mem_name (by decide) (by decide)

theorem blank_not_mem_name : ' ' ∉ q.name.toList :=
  NodeParams.not_mem_name (by decide) (by decide)

theorem createDirCommand_cut :
    p.createDirCommand.toList = "mkdir -p .".toList ++ '/' :: p.name.toList := by
  simp [createDirCommand, String.toList_append]

theorem removeDirCommand_cut :
    p.removeDirCommand.toList = "rm -rf .".toList ++ '/' :: p.name.toList := by
  simp [removeDirCommand, String.toList_append]

theorem showLogCommand_cut : p.showLogCommand.toList =
    "cat .".toList ++ '/' :: (p.name.toList ++ '/' :: "server.log".toList) := by
  simp [showLogCommand, String.toList_append]

theorem remoteArtifact_cut : p.remoteArtifact.toList =
    ".".toList ++ '/' :: (p.name.toList ++ '/' :: p.artifactFile.toList) := by
  simp [remoteArtifact, String.toList_append]

theorem launchCommand_cut (launches : p.launchCommand = .ok cmd) :
    ∃ arguments, p.params.commandLine = .ok arguments ∧ cmd.toList =
      "sh -c 'nohup java -cp .".toList ++ '/' :: (p.name.toList ++ '/' :: ("*.jar".toList ++
        ' ' :: ((p.mainClass ++ " " ++ arguments).toList ++ ' ' :: ("> .".toList ++
          '/' :: (p.name.toList ++ '/' :: "server.log 2>&1 &'".toList))))) := by
  unfold launchCommand at launches
  cases line : p.params.commandLine with
  | error e =>
    rw [line] at launches
    cases launches
  | ok arguments =>
    rw [line] at launches
    cases launches
    refine ⟨arguments, rfl, ?_⟩
    simp [String.toList_append]

/-! ## Whose names are in commands -/

theorem stands_name : Stands q.name.toList p.name.toList ↔ p.params.port = q.params.port :=
  NodeParams.stands_name.trans eq_comm

theorem path_names {lead rest : List Char}
    (stands : Stands q.name.toList (lead ++ '/' :: (p.name.toList ++ '/' :: rest))) :
    Stands q.name.toList lead ∨ p.params.port = q.params.port ∨ Stands q.name.toList rest := by
  rcases stands.cut slash_not_mem_name with lead | stands
  · exact .inl lead
  · exact .inr ((stands.cut slash_not_mem_name).imp_left stands_name.1)

theorem createDirCommand_names (stands : Stands q.name.toList p.createDirCommand.toList) :
    p.params.port = q.params.port := by
  rw [createDirCommand_cut] at stands
  rcases stands.cut slash_not_mem_name with lead | own
  · exact absurd lead (unnamed 'e' (by decide) (by decide))
  · exact stands_name.1 own

theorem removeDirCommand_names (stands : Stands q.name.toList p.removeDirCommand.toList) :
    p.params.port = q.params.port := by
  rw [removeDirCommand_cut] at stands
  rcases stands.cut slash_not_mem_name with lead | own
  · exact absurd lead (unnamed 'e' (by decide) (by decide))
  · exact stands_name.1 own

theorem showLogCommand_names (stands : Stands q.name.toList p.showLogCommand.toList) :
    p.params.port = q.params.port := by
  rw [showLogCommand_cut] at stands
  rcases path_names stands with lead | own | file
  · exact absurd lead (unnamed 'e' (by decide) (by decide))
  · exact own
  · exact absurd file (unnamed 'd' (by decide) (by decide))

theorem remoteArtifact_names (stands : Stands q.name.toList p.remoteArtifact.toList) :
    p.params.port = q.params.port ∨ p.Mentions q := by
  rw [remoteArtifact_cut] at stands
  rcases path_names stands with lead | own | file
  · exact absurd lead (unnamed 'e' (by decide) (by decide))
  · exact .inl own
  · exact .inr (.inl file)

theorem launchCommand_names (launches : p.launchCommand = .ok cmd)
    (stands : Stands q.name.toList cmd.toList) : p.params.port = q.params.port ∨ p.Mentions q := by
  obtain ⟨arguments, line, eq⟩ := launchCommand_cut launches
  rw [eq] at stands
  rcases path_names stands with lead | own | stands
  · exact absurd lead (unnamed 'd' (by decide) (by decide))
  · exact .inl own
  rcases stands.cut blank_not_mem_name with archives | stands
  · exact absurd archives (unnamed 'd' (by decide) (by decide))
  rcases stands.cut blank_not_mem_name with given | stands
  · exact .inr (.inr ⟨arguments, line, given⟩)
  rcases path_names stands with target | own | file
  · exact absurd target (unnamed 'd' (by decide) (by decide))
  · exact .inl own
  · exact absurd file (unnamed 'd' (by decide) (by decide))

/-! ## Signals -/

theorem pkill_cut (g : Signal) (rest : String) : (pkill g rest).toList =
    ("pkill " ++ g.flag ++ "-f '").toList ++
      '[' :: ("n".toList ++ ']' :: (rest.toList ++ "'".toList)) := by
  simp [pkill, String.toList_append]

theorem signalCommand_eq (g : Signal) :
    p.signalCommand g.flag = pkill g ("ode" ++ p.params.portText ++ "/") := by
  apply String.toList_inj.1
  simp [signalCommand, signature, pkill, String.toList_append]

theorem free_of_bracket (g : Signal) : '[' ∉ ("pkill " ++ g.flag ++ "-f '").toList := by
  cases g <;> decide

theorem pkill_injective {g h : Signal} {rest rest' : String} (free : '[' ∉ rest.toList)
    (same : pkill g rest = pkill h rest') : rest = rest' := by
  have chars := congrArg String.toList same
  have once : '[' ∉ "n".toList ++ ']' :: (rest.toList ++ "'".toList) := by
    simpa using free
  rw [pkill_cut, pkill_cut, List.append_cons_inj_of_notMem (free_of_bracket g) once] at chars
  have ends := chars.2.2
  simp only [List.append_cancel_left_eq, List.cons.injEq, List.append_cancel_right_eq,
    true_and] at ends
  exact String.toList_inj.1 ends

theorem name_eq : "n" ++ ("ode" ++ p.params.portText ++ "/") = p.name ++ "/" := by
  apply String.toList_inj.1
  simp [name, NodeParams.name, String.toList_append]

theorem letter_mem_rest {c : Char} (mem : c ∈ ("ode" ++ p.params.portText ++ "/").toList) :
    c = 'o' ∨ c = 'd' ∨ c = 'e' ∨ c = '/' ∨ c.isDigit = true := by
  rw [String.toList_append, String.toList_append, NodeParams.toList_portText] at mem
  simp only [List.mem_append] at mem
  rcases mem with (lead | digit) | slash
  · simp at lead
    rcases lead with rfl | rfl | rfl <;> simp
  · simp [NodeParams.isDigit_of_mem_port digit]
  · simp at slash
    simp [slash]

/-- A signal strikes the processes with the name of the node and a slash in their command line. -/
theorem struck_signalCommand (g : Signal) : q.Struck (p.signalCommand g.flag) ↔
    ∃ line, q.launchCommand = .ok line ∧ (p.name ++ "/").toList <:+: line.toList := by
  rw [signalCommand_eq, ← name_eq]
  constructor
  · rintro ⟨h, rest, line, eq, launches, found⟩
    have free : '[' ∉ ("ode" ++ p.params.portText ++ "/").toList := by
      intro mem
      have letter := letter_mem_rest mem
      revert letter
      decide
    rw [← pkill_injective free eq] at found
    exact ⟨line, launches, found⟩
  · rintro ⟨line, launches, found⟩
    exact ⟨g, _, line, rfl, launches, found⟩

/-- The brackets keep the names of nodes out of signals. -/
theorem signalCommand_names (g : Signal) :
    ¬Stands q.name.toList (p.signalCommand g.flag).toList := by
  intro stands
  rw [signalCommand_eq, pkill_cut] at stands
  have opening : '[' ∉ q.name.toList := NodeParams.not_mem_name (by decide) (by decide)
  have closing : ']' ∉ q.name.toList := NodeParams.not_mem_name (by decide) (by decide)
  rcases stands.cut opening with lead | stands
  · exact unnamed 'd' (by decide) (by cases g <;> decide) lead
  rcases stands.cut closing with first | rest
  · exact unnamed 'd' (by decide) (by decide) first
  · refine unnamed 'n' (by decide) ?_ rest
    intro mem
    rcases List.mem_append.1 mem with mem | mem
    · have letter := letter_mem_rest mem
      revert letter
      decide
    · revert mem
      decide

/-! ## Calls of one node and the other node -/

theorem not_struck (letter : Char) (head : cmd.toList.head? = some letter) (other : letter ≠ 'p') :
    ¬q.Struck cmd := by
  rintro ⟨g, rest, line, rfl, -, -⟩
  have first : (pkill g rest).toList.head? = some 'p' := by
    simp [pkill, String.toList_append]
  exact other (Option.some.inj (head.symm.trans first))

theorem named_of_struck {line : List Char} (found : (p.name ++ "/").toList <:+: line) :
    Stands p.name.toList line := by
  obtain ⟨before, after, rfl⟩ := found
  exact ⟨before, '/' :: after, by simp [String.toList_append], by simp⟩

/-- A call for one node acts on another one only if they share, or if one mentions the other. -/
theorem Issues.shares {s : ShellCall} (issued : p.Issues s) (acts : q.ActsOn s) :
    p.Shares q ∨ p.Mentions q ∨ q.Mentions p := by
  have near (address : p.address = q.address)
      (close : p.params.port = q.params.port ∨ p.Mentions q ∨ q.Mentions p) :
      p.Shares q ∨ p.Mentions q ∨ q.Mentions p :=
    close.imp_left fun port => shares_iff.2 ⟨address, port⟩
  cases issued with
  | created =>
    obtain ⟨address, named | struck⟩ := acts
    · exact near address (.inl (createDirCommand_names (named_of_directory named)))
    · have head : p.createDirCommand.toList.head? = some 'm' := by
        simp [createDirCommand, String.toList_append]
      exact absurd struck (not_struck 'm' head (by decide))
  | copied =>
    obtain ⟨address, named⟩ := acts
    exact near address ((remoteArtifact_names (named_of_directory named)).imp_right .inl)
  | launched launches =>
    obtain ⟨address, named | struck⟩ := acts
    · exact near address ((launchCommand_names launches (named_of_directory named)).imp_right .inl)
    · exact absurd struck (not_struck 's' (head_launchCommand launches) (by decide))
  | signalled g =>
    obtain ⟨address, named | struck⟩ := acts
    · exact absurd (named_of_directory named) (signalCommand_names g)
    · obtain ⟨line, launches, found⟩ := (struck_signalCommand g).1 struck
      have close := launchCommand_names launches (named_of_struck found)
      exact near address (close.imp Eq.symm .inr)
  | shown =>
    obtain ⟨address, named | struck⟩ := acts
    · exact near address (.inl (showLogCommand_names (named_of_directory named)))
    · have head : p.showLogCommand.toList.head? = some 'c' := by
        simp [showLogCommand, String.toList_append]
      exact absurd struck (not_struck 'c' head (by decide))
  | removed =>
    obtain ⟨address, named | struck⟩ := acts
    · exact near address (.inl (removeDirCommand_names (named_of_directory named)))
    · have head : p.removeDirCommand.toList.head? = some 'r' := by
        simp [removeDirCommand, String.toList_append]
      exact absurd struck (not_struck 'r' head (by decide))

theorem Shares.port (shares : p.Shares q) : p.params.port = q.params.port :=
  (shares_iff.1 shares).2

theorem Shares.name (shares : p.Shares q) : p.name = q.name := by
  unfold RemoteProcess.name NodeParams.name NodeParams.portText
  rw [shares.port]

theorem directory_stands {text : List Char} (before rest : List Char)
    (eq : text = before ++ (q.directory.toList ++ rest))
    (stop : ∀ c ∈ rest.head?, c.isDigit = false) : Stands q.directory.toList text :=
  ⟨before, rest, by rw [eq, List.append_assoc], stop⟩

theorem launchCommand_begins (launches : p.launchCommand = .ok cmd) :
    ∃ rest, cmd.toList =
      "sh -c 'nohup java -cp ".toList ++ (p.directory.toList ++ '/' :: rest) := by
  obtain ⟨arguments, -, eq⟩ := launchCommand_cut launches
  obtain ⟨rest, eq⟩ : ∃ rest, cmd.toList =
      "sh -c 'nohup java -cp .".toList ++ '/' :: (p.name.toList ++ '/' :: rest) := ⟨_, eq⟩
  refine ⟨rest, ?_⟩
  rw [eq]
  simp [directory, String.toList_append]

/-- A call for one node acts on all that share with it. -/
theorem Issues.acts {s : ShellCall} (issued : p.Issues s) (shares : p.Shares q)
    (launchable : ∃ line, q.launchCommand = .ok line) : q.ActsOn s := by
  have address := shares.address
  have names := shares.name
  cases issued with
  | created =>
    refine ⟨address, .inl (directory_stands "mkdir -p ".toList [] ?_ (by simp))⟩
    simp [createDirCommand, directory, String.toList_append, names]
  | copied =>
    refine ⟨address, directory_stands [] ('/' :: p.artifactFile.toList) ?_ (by simp)⟩
    simp [remoteArtifact, directory, String.toList_append, names]
  | launched launches =>
    obtain ⟨rest, eq⟩ := launchCommand_begins launches
    rw [shares.directory] at eq
    exact ⟨address, .inl (directory_stands _ ('/' :: rest) eq (by simp))⟩
  | signalled g =>
    obtain ⟨line, launches⟩ := launchable
    obtain ⟨rest, eq⟩ := launchCommand_begins launches
    refine ⟨address, .inr ((struck_signalCommand g).2 ⟨line, launches, ?_⟩)⟩
    rw [eq]
    exact ⟨"sh -c 'nohup java -cp ".toList ++ "./".toList, rest, by
      simp [directory, String.toList_append, names]⟩
  | shown =>
    refine ⟨address, .inl (directory_stands "cat ".toList "/server.log".toList ?_ (by simp))⟩
    simp [showLogCommand, directory, String.toList_append, names]
  | removed =>
    refine ⟨address, .inl (directory_stands "rm -rf ".toList [] ?_ (by simp))⟩
    simp [removeDirCommand, directory, String.toList_append, names]

theorem Issues.acts_iff {s : ShellCall} (issued : p.Issues s)
    (launchable : ∃ line, q.launchCommand = .ok line) (silent : ¬p.Mentions q)
    (unmentioned : ¬q.Mentions p) : q.ActsOn s ↔ p.Shares q := by
  constructor
  · intro acts
    rcases issued.shares acts with shares | mentions | mentions
    · exact shares
    · exact absurd mentions silent
    · exact absurd mentions unmentioned
  · exact fun shares => issued.acts shares launchable

/-- An operation makes no other calls to hosts than those of its process. -/
theorem perform_leads_issues {op : Operation} {es : List (Event outside)}
    {o : Outcome RemoteProcess} (leads : (p.perform op).Leads es o) {e : Event outside}
    (mem : e ∈ es) {s : ShellCall} (shell : e.call = .shell s) : p.Issues s := by
  have within : (p.perform op).Within fun call : Call =>
      ∀ s, call = .shell s → p.Issues s := by
    refine perform_issues ?_ ?_ op
    · rintro s issued _ ⟨⟩
      exact issued
    · intro f s same
      cases same
  exact within.leads leads e mem s shell

end RemoteProcess

end Testbed
