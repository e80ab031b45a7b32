import Testbed.Proofs.Firewall
import Testbed.Proofs.Params.Identity
/-!
# What a command line says

The command line of a server is words with blanks between them. The words say which node is
launched, wherever it keeps its data, because a flag says how many words stand before the next one.
A log directory without a blank is one word, so the line gives the words back, and nodes that are
launched with the same line are launched alike (`same_commandLine_iff`).
-/

namespace Testbed

/-- Words without blanks are the pieces of the line that they make. -/
theorem Text.split_spaced {w : String} {ws : List String}
    (whole : ∀ word ∈ w :: ws, ' ' ∉ word.toList) :
    split ' ' (spaced (w :: ws)).toList = (w :: ws).map String.toList := by
  induction ws generalizing w with
  | nil =>
    have alone : spaced [w] = w := by simp [spaced]
    rw [alone, split_of_not_mem (whole w List.mem_cons_self)]
    rfl
  | cons v ws ih =>
    obtain ⟨first, rest⟩ := List.forall_mem_cons.1 whole
    have more : (spaced (w :: v :: ws)).toList = w.toList ++ ' ' :: (spaced (v :: ws)).toList := by
      simp [spaced, String.toList_intercalate]
    rw [more, split_append, split_of_not_mem first, ih rest]
    rfl

theorem LogLevel.text_injective {a b : LogLevel} (same : a.text = b.text) : a = b := by
  cases a <;> cases b <;> first | rfl | simp [text] at same

namespace NodeParams

/-- The words that say where data is kept. -/
def storageWords (p : NodeParams) : List String :=
  match p.persistence with
  | .memory => ["-m"]
  | .disk => ["-l", p.logDir]

def modeWords (p : NodeParams) : List String :=
  match p.mode with
  | .single => ["-s"]
  | .cluster => []

/-- The words of the command line. -/
def words (p : NodeParams) : List String :=
  "-a" :: "0.0.0.0" ::
    (p.storageWords ++ (p.modeWords ++ ["-d", p.logLevel.text, p.portText]))

variable {p q : NodeParams} {arguments : String}

theorem storageFlags_eq_spaced {storage : String} (flags : p.storageFlags = .ok storage) :
    storage = " " ++ Text.spaced p.storageWords := by
  apply String.toList_inj.1
  unfold storageFlags at flags
  unfold storageWords
  cases kept : p.persistence with
  | memory =>
    rw [kept] at flags
    cases flags
    simp [Text.spaced]
  | disk =>
    simp only [kept] at flags
    split at flags
    · cases flags
    · cases flags
      simp [Text.spaced]

theorem commandLine_eq_spaced (line : p.commandLine = .ok arguments) :
    arguments = Text.spaced p.words := by
  unfold commandLine at line
  cases flags : p.storageFlags with
  | error e =>
    rw [flags] at line
    cases line
  | ok storage =>
    rw [flags] at line
    cases line
    rw [storageFlags_eq_spaced flags]
    apply String.toList_inj.1
    unfold words storageWords modeWords modeFlag
    cases p.persistence <;> cases p.mode <;> simp [Text.spaced]

theorem blank_not_mem_portText : ' ' ∉ p.portText.toList := by
  rw [toList_portText]
  intro mem
  exact absurd (Nat.isDigit_of_mem_toDigits (by decide) (by decide) mem) (by decide)

theorem blank_not_mem_words (plain : ' ' ∉ p.logDir.toList) :
    ∀ word ∈ p.words, ' ' ∉ word.toList := by
  have level : ' ' ∉ p.logLevel.text.toList := by cases p.logLevel <;> decide
  have port := blank_not_mem_portText (p := p)
  unfold words storageWords modeWords
  cases p.persistence <;> cases p.mode <;> simp [plain, level, port]

theorem split_commandLine (line : p.commandLine = .ok arguments)
    (plain : ' ' ∉ p.logDir.toList) :
    Text.split ' ' arguments.toList = p.words.map String.toList := by
  rw [commandLine_eq_spaced line]
  exact Text.split_spaced (blank_not_mem_words plain)

/-- The server is told the same in everything but the host it is placed on, which it is not told. -/
structure LaunchedAlike (p q : NodeParams) : Prop where
  port : p.port = q.port
  mode : p.mode = q.mode
  persistence : p.persistence = q.persistence
  logLevel : p.logLevel = q.logLevel
  logDir : p.persistence = .disk → p.logDir = q.logDir

/-- The third word tells where data is kept, the next flag whether the node is alone. -/
theorem launchedAlike_of_words_eq (same : p.words = q.words) : p.LaunchedAlike q := by
  have storage : p.persistence = q.persistence ∧ (p.persistence = .disk → p.logDir = q.logDir) ∧
      p.modeWords ++ ["-d", p.logLevel.text, p.portText] =
        q.modeWords ++ ["-d", q.logLevel.text, q.portText] := by
    unfold words storageWords at same
    cases hp : p.persistence <;> cases hq : q.persistence <;> simp_all
  obtain ⟨persistence, logDir, same⟩ := storage
  have flags : p.mode = q.mode ∧ p.logLevel.text = q.logLevel.text ∧ p.portText = q.portText := by
    unfold modeWords at same
    cases hp : p.mode <;> cases hq : q.mode <;> simp_all
  obtain ⟨mode, level, port⟩ := flags
  refine ⟨port_eq_of_digits_eq ?_, mode, persistence, LogLevel.text_injective level, logDir⟩
  rw [← toList_portText, ← toList_portText, port]

theorem LaunchedAlike.words_eq (alike : p.LaunchedAlike q) : p.words = q.words := by
  have storage : p.storageWords = q.storageWords := by
    unfold storageWords
    rw [← alike.persistence]
    cases persistence : p.persistence with
    | memory => rfl
    | disk => rw [alike.logDir persistence]
  unfold words modeWords portText
  rw [storage, alike.mode, alike.logLevel, alike.port]

/-- Nodes whose log directories have no blank get the same command line just if they are launched
alike. -/
theorem same_commandLine_iff {a b : String} (first : p.commandLine = .ok a)
    (second : q.commandLine = .ok b) (plain : ' ' ∉ p.logDir.toList)
    (plain' : ' ' ∉ q.logDir.toList) : a = b ↔ p.LaunchedAlike q := by
  constructor
  · rintro rfl
    refine launchedAlike_of_words_eq ((List.map_inj_right fun _ _ => String.toList_inj.1).1 ?_)
    rw [← split_commandLine first plain, split_commandLine second plain']
  · intro alike
    rw [commandLine_eq_spaced first, commandLine_eq_spaced second, alike.words_eq]

/-- A log directory that looks like a flag, on two hosts. -/
theorem same_commandLine_iff_flag :
    commandLine ⟨9000, .cluster, .disk, .info, "-s", none⟩ =
        .ok "-a 0.0.0.0 -l -s -d INFO 9000" ∧
      commandLine ⟨9000, .cluster, .disk, .info, "-s", some "h1"⟩ =
        .ok "-a 0.0.0.0 -l -s -d INFO 9000" ∧
      ' ' ∉ "-s".toList ∧
      LaunchedAlike ⟨9000, .cluster, .disk, .info, "-s", none⟩
        ⟨9000, .cluster, .disk, .info, "-s", some "h1"⟩ :=
  ⟨rfl, rfl, by decide,
    (same_commandLine_iff (a := "-a 0.0.0.0 -l -s -d INFO 9000") rfl rfl (by decide)
      (by decide)).1 rfl⟩

/-- A blank in a log directory can stand for the flag that another node has. -/
example :
    ({ ofPort 9000 with logDir := "/x -s" } : NodeParams).commandLine =
      { ofPort 9000 with logDir := "/x", mode := .single }.commandLine := rfl

end NodeParams
end Testbed
