import Testbed.Duration
/-!
# The command line

    testbed --config FILE [--fault_loop] [--fault_interval SECONDS] [--destroy]

The options have short forms, `-c`, `-f`, `-i` and `-d`, which can stand together. A value is the
rest of its argument, with or without equals signs, or else the next argument, unless that looks
like an option; an interval without a value is the default. Help and version are answered as soon as
they are reached. All else that is wrong is found before anything is done.
-/

namespace Testbed

structure Arguments where
  config : String
  faultLoop : Bool
  /-- The time between two faults, and also for how long each is held. -/
  faultInterval : Duration
  /-- Whether the universe is destroyed in the end, and not only stopped. -/
  destroy : Bool
  deriving DecidableEq, Repr

/-- Why there are no arguments to go on with. -/
inductive Usage where
  | help
  | version
  | unknown (argument : String)
  | repeated (name : String)
  | valueMissing (name : String)
  | configMissing
  | notSeconds (value : String)
  deriving DecidableEq, Repr

namespace Arguments

/-- What an option is about. -/
inductive Topic where
  | config
  | faultLoop
  | faultInterval
  | destroy
  | help
  | version
  deriving DecidableEq, Repr

namespace Topic

def all : List Topic := [.config, .faultLoop, .faultInterval, .destroy, .help, .version]

def long : Topic → String
  | .config => "config"
  | .faultLoop => "fault_loop"
  | .faultInterval => "fault_interval"
  | .destroy => "destroy"
  | .help => "help"
  | .version => "version"

def short : Topic → Char
  | .config => 'c'
  | .faultLoop => 'f'
  | .faultInterval => 'i'
  | .destroy => 'd'
  | .help => 'h'
  | .version => 'V'

def takesValue (t : Topic) : Bool := t = .config || t = .faultInterval

def needsValue (t : Topic) : Bool := t = .config

end Topic

/-- What was said so far: the topics that occurred, those with a value, and the topic that still
waits for its value. -/
structure Said where
  topics : List Topic
  values : List (Topic × String)
  waiting : Option Topic

namespace Said

def nothing : Said := ⟨[], [], none⟩

/-- Notes an option, with its value if that stands with it. -/
def note (s : Said) (t : Topic) (value : Option String) : Except Usage Said :=
  match t with
  | .help => .error .help
  | .version => .error .version
  | t =>
    let s := { s with topics := s.topics ++ [t], waiting := none }
    if !t.takesValue then .ok s
    else
      match value with
      | some v =>
        let v := String.ofList (v.toList.dropWhile (· = '='))
        .ok { s with values := s.values ++ [(t, v)] }
      | none => .ok { s with waiting := some t }

def noteLong (s : Said) (argument : String) : Except Usage Said :=
  let body := argument.toList.dropWhile (· = '-')
  let name := String.ofList (body.takeWhile (· ≠ '='))
  let value := (body.dropWhile (· ≠ '=')).tail?.map String.ofList
  match Topic.all.find? (·.long = name) with
  | some t => s.note t value
  | none => .error (.unknown argument)

/-- Goes through the letters of short options; what follows an option that takes a value is its
value. -/
def noteShort (s : Said) : List Char → Except Usage Said
  | [] => .ok s
  | c :: rest =>
    match Topic.all.find? (·.short = c) with
    | none => .error (.unknown ("-" ++ String.singleton c))
    | some t =>
      if t.takesValue then s.note t (if rest.isEmpty then none else some (String.ofList rest))
      else do (← s.note t none).noteShort rest

/-- Takes an argument that is no option: the value that is waited for, or one too many. -/
def noteValue (s : Said) (argument : String) : Except Usage Said :=
  match s.waiting with
  | some t => .ok { s with values := s.values ++ [(t, argument)], waiting := none }
  | none => .error (.unknown argument)

/-- Goes through all arguments. Nothing may follow two lone dashes. -/
def noteAll (s : Said) : List String → Except Usage Said
  | [] => .ok s
  | "--" :: rest =>
    match rest with
    | [] => .ok s
    | extra :: _ => .error (.unknown extra)
  | argument :: rest => do
    let s ← match argument.toList with
      | '-' :: '-' :: _ => s.noteLong argument
      | '-' :: c :: more => s.noteShort (c :: more)
      | _ => s.noteValue argument
    s.noteAll rest

def value? (s : Said) (t : Topic) : Option String := (s.values.find? (·.1 = t)).map (·.2)

end Said

def defaultInterval : Duration := .ofSecs 20

/-- A whole number of seconds below `2 ^ 64`; a plus sign may stand before it. -/
def seconds? (text : String) : Option Duration :=
  let digits := if text.toList.head? = some '+' then text.toList.drop 1 else text.toList
  if digits.isEmpty || !digits.all Char.isDigit then none
  else
    let n := digits.foldl (fun n c => n * 10 + (c.toNat - '0'.toNat)) 0
    if n < 0x10000000000000000 then some (.ofSecs n) else none

def checkOnce (s : Said) (t : Topic) : Except Usage Unit :=
  if 1 < s.topics.count t then .error (.repeated t.long) else .ok ()

/-- An option that has a default may stand without a value. -/
def checkValue (s : Said) (t : Topic) : Except Usage Unit :=
  if t.needsValue && s.topics.contains t && (s.value? t).isNone then .error (.valueMissing t.long)
  else .ok ()

def parse (arguments : List String) : Except Usage Arguments := do
  let s ← Said.nothing.noteAll arguments
  Topic.all.forM (checkOnce s)
  Topic.all.forM (checkValue s)
  let some config := s.value? .config | throw .configMissing
  let interval ← match s.value? .faultInterval with
    | none => pure defaultInterval
    | some text =>
      match seconds? text with
      | some d => pure d
      | none => throw (.notSeconds text)
  return {
    config := config
    faultLoop := s.topics.contains .faultLoop
    faultInterval := interval
    destroy := s.topics.contains .destroy }

end Arguments

namespace Usage

/-- Asking for help is no mistake. -/
def exitCode : Usage → Nat
  | .help | .version => 0
  | _ => 1

def text : Usage → String
  | .help =>
    "testbed --config FILE [--fault_loop] [--fault_interval SECONDS] [--destroy]"
  | .version => "testbed 0.1.0"
  | .unknown argument => "unknown argument: " ++ argument
  | .repeated name => "given more than once: --" ++ name
  | .valueMissing name => "no value for --" ++ name
  | .configMissing => "--config is missing"
  | .notSeconds value => "not a number of seconds: " ++ value

end Usage

end Testbed
