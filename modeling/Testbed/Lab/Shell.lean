import Testbed.Lab.Rule
/-!
# Remote shells in memory

Every command succeeds, and so does every copy. Only commands that show a file print something.
Rules can replace the output of a command, delay it or make it fail; a command is logged before the
delay.
-/

namespace Testbed.Lab

structure Shell where
  rules : List Rule
  log : List String

namespace Shell

def commandLine (host cmd : String) : String := host ++ "$ " ++ cmd

def copyLine (host source target : String) : String := host ++ " " ++ source ++ " -> " ++ target

/-- What a command prints by itself. -/
def output (host cmd : String) : CommandOutput :=
  ⟨if "cat ".toList.isPrefixOf cmd.toList then "server on " ++ host ++ " started\n" else "", 0⟩

def run (s : Shell) (host cmd : String) : (Except Error CommandOutput × Duration) × Shell :=
  let line := commandLine host cmd
  let s := { s with log := s.log ++ [line] }
  match deviate "run" line s.rules with
  | none => ((.ok (output host cmd), .zero), s)
  | some (d, rules) =>
    let s := { s with rules := rules }
    match d.injection with
    | some i => ((.error (i.error ("run on " ++ host)), d.delay), s)
    | none => ((.ok (d.output?.getD (output host cmd)), d.delay), s)

def copy (s : Shell) (host source target : String) : (Except Error Unit × Duration) × Shell :=
  let line := copyLine host source target
  let s := { s with log := s.log ++ ["copy " ++ line] }
  match deviate "copy" line s.rules with
  | none => ((.ok (), .zero), s)
  | some (d, rules) =>
    let s := { s with rules := rules }
    match d.injection with
    | some i => ((.error (i.error ("copy to " ++ host)), d.delay), s)
    | none => ((.ok (), d.delay), s)

def answer (s : Shell) : (c : ShellCall) → (c.Answer × Duration) × Shell
  | .run host cmd => s.run host cmd
  | .copy host source target => s.copy host source target

end Shell

end Testbed.Lab
