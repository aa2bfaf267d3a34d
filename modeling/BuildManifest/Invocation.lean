import BuildManifest.Expansion
import BuildManifest.Text.Resemblance

/-!
The command line of the program: a manifest, flags that seed variables, and
options. Arguments are read from left to right. An option waits for its value
and is only applied when something else comes, so that the first fault in this
order is the one that counts.
-/

namespace BuildManifest

/-- What the options of an invocation say about a run. -/
structure Settings where
  maxPasses : Nat
  timeoutSeconds : Option Nat
  shell : Option Text
  deriving DecidableEq, Repr

def Settings.default : Settings := ⟨defaultPasses, none, none⟩

structure Invocation where
  manifest : Path
  flags : List Text
  verbose : Bool
  settings : Settings
  deriving DecidableEq, Repr

namespace Invocation

/-- The options that take a value. -/
inductive Opt where
  | maxPasses
  | timeout
  | shell
  deriving DecidableEq, Repr

/-- The options that take none. -/
inductive Switch where
  | verbose
  | help
  | version
  deriving DecidableEq, Repr

/-- What can be given on the command line. -/
inductive Parameter where
  | manifest
  | flags
  | opt (o : Opt)
  | switch (s : Switch)
  deriving DecidableEq, Repr

/-- Why the arguments do not make an invocation. To ask for help or the version
is one of the reasons. Some faults remember what had been given before. -/
inductive Fault where
  | noManifest
  | unknownLetter (letter : Char)
  | unknownName (name : Text) (similar : Option Parameter) (given : List Parameter)
  | noValue (p : Parameter)
  | badValue (p : Parameter) (value : Text)
  | repeated (p : Parameter)
  | needlessValue (s : Switch) (value : Text) (given : List Parameter)
  | help
  | version
  deriving DecidableEq, Repr

/-- An argument that has been read but not yet applied. -/
inductive Pending where
  | nothing
  | option (o : Opt) (value : Option Text)
  | manifest (value : Text)
  | flags (values : List Text)

/-- What has been applied so far, and in which order. -/
structure Draft where
  manifest : Option Path
  flags : List Text
  verbose : Bool
  maxPasses : Option Nat
  timeout : Option Nat
  shell : Option Text
  given : List Parameter

def Draft.empty : Draft := ⟨none, [], false, none, none, none, []⟩

def Opt.name : Opt → Text
  | .maxPasses => "max-passes"
  | .timeout => "timeout"
  | .shell => "shell"

def Switch.name : Switch → Text
  | .verbose => "verbose"
  | .help => "help"
  | .version => "version"

/-- The name after two dashes, if there is one. -/
def Parameter.name? : Parameter → Option Text
  | .opt o => some o.name
  | .switch s => some s.name
  | .manifest | .flags => none

/-- Everything that has a name, in the order of the help text. -/
def Parameter.named : List Parameter :=
  [.switch .verbose, .opt .maxPasses, .opt .timeout, .opt .shell, .switch .help, .switch .version]

def Parameter.ofName? (name : Text) : Option Parameter :=
  Parameter.named.find? fun p => p.name? = some name

/-- The parameter whose name is most like a name that is none. -/
def Parameter.similar? (name : Text) : Option Parameter :=
  (Text.mostSimilar? name (Parameter.named.filterMap Parameter.name?)).bind Parameter.ofName?

def Switch.ofLetter? (c : Char) : Option Switch :=
  if c = 'v' then some .verbose
  else if c = 'h' then some .help
  else if c = 'V' then some .version
  else none

/-- A number of 64 bits in decimal digits, possibly after a plus sign. -/
def number? (t : Text) : Option Nat :=
  let digits := match t with
    | '+' :: rest => rest
    | t => t
  if digits.isEmpty || !digits.all Char.isDigit then none
  else
    let n := digits.foldl (fun n c => 10 * n + (c.toNat - '0'.toNat)) 0
    if n < Nat.pow 2 64 then some n else none

namespace Draft

def note (d : Draft) (p : Parameter) : Draft :=
  if d.given.contains p then d else { d with given := d.given ++ [p] }

def setNumber (old : Option Nat) (o : Opt) (value : Text) : Except Fault Nat :=
  match old, number? value with
  | some _, _ => .error (.repeated (.opt o))
  | none, none => .error (.badValue (.opt o) value)
  | none, some n => .ok n

def setOption (d : Draft) (o : Opt) (value : Text) : Except Fault Draft :=
  match o with
  | .maxPasses =>
    (setNumber d.maxPasses o value).map fun n => { d.note (.opt o) with maxPasses := some n }
  | .timeout =>
    (setNumber d.timeout o value).map fun n => { d.note (.opt o) with timeout := some n }
  | .shell =>
    if d.shell.isSome then .error (.repeated (.opt o))
    else .ok { d.note (.opt o) with shell := some value }

/-- Applies what has been waiting. -/
def settle (d : Draft) : Pending → Except Fault Draft
  | .nothing => .ok d
  | .option o none => .error (.noValue (.opt o))
  | .option o (some value) => d.setOption o value
  | .manifest value =>
    if value.isEmpty then .error (.noValue .manifest)
    else .ok { d.note .manifest with manifest := some value }
  | .flags values => .ok { d.note .flags with flags := d.flags ++ values }

/-- What has been given when an unknown name comes: also what has been waiting,
even if its value cannot be used; but what is given a second time does not
count any more. -/
def givenWith (d : Draft) : Pending → List Parameter
  | .nothing | .option _ none => d.given
  | .option o (some _) =>
    if d.given.contains (.opt o) then d.given.erase (.opt o) else d.given ++ [.opt o]
  | .manifest _ => (d.note .manifest).given
  | .flags _ => (d.note .flags).given

def throwSwitch (d : Draft) : Switch → Except Fault Draft
  | .verbose =>
    if d.verbose then .error (.repeated (.switch .verbose))
    else .ok { d.note (.switch .verbose) with verbose := true }
  | .help => .error .help
  | .version => .error .version

/-- Reads the letters after a single dash. -/
def letters (d : Draft) : Pending → Text → Except Fault (Draft × Pending)
  | pending, [] => .ok (d, pending)
  | pending, c :: rest =>
    match Switch.ofLetter? c with
    | none => .error (.unknownLetter c)
    | some s =>
      match d.settle pending with
      | .error e => .error e
      | .ok d =>
        match d.throwSwitch s with
        | .error e => .error e
        | .ok d => letters d .nothing rest

/-- Reads what follows two dashes. -/
def longName (d : Draft) (pending : Pending) (t : Text) : Except Fault (Draft × Pending) :=
  let (name, value) := match Text.cut? ['='] t with
    | some (name, value) => (name, some value)
    | none => (t, none)
  match Parameter.ofName? name, value with
  | some (.opt o), some value => do
    let d ← (← d.settle pending).setOption o value
    .ok (d, .nothing)
  | some (.opt o), none => do
    let d ← d.settle pending
    .ok (d, .option o none)
  | some (.switch s), some value => .error (.needlessValue s value d.given)
  | some (.switch s), none => do
    let d ← (← d.settle pending).throwSwitch s
    .ok (d, .nothing)
  | _, _ => .error (.unknownName name (Parameter.similar? name) (d.givenWith pending))

/-- Reads an argument that stands for itself: the manifest, and then flags. -/
def positional (d : Draft) (pending : Pending) (t : Text) : Except Fault (Draft × Pending) :=
  match pending with
  | .flags values => .ok (d, .flags (values ++ [t]))
  | pending => do
    let d ← d.settle pending
    match d.manifest with
    | none => .ok (d, .manifest t)
    | some _ => .ok (d, .flags [t])

/-- Reads arguments; after `--` all of them stand for themselves. -/
def read (d : Draft) : (literally : Bool) → Pending → List Text → Except Fault Draft
  | _, pending, [] => d.settle pending
  | true, pending, t :: rest => do
    let (d, pending) ← d.positional pending t
    read d true pending rest
  | false, pending, t :: rest =>
    match t, pending with
    | ['-', '-'], pending => read d true pending rest
    | '-' :: '-' :: name, pending => do
      let (d, pending) ← d.longName pending name
      read d false pending rest
    | '-' :: c :: more, pending => do
      let (d, pending) ← d.letters pending (c :: more)
      read d false pending rest
    | t, .option o none => read d false (.option o (some t)) rest
    | t, pending => do
      let (d, pending) ← d.positional pending t
      read d false pending rest

end Draft

def parse (arguments : List Text) : Except Fault Invocation :=
  match Draft.empty.read false .nothing arguments with
  | .error e => .error e
  | .ok d =>
    match d.manifest with
    | none => .error .noManifest
    | some manifest =>
      .ok ⟨manifest, d.flags, d.verbose,
        ⟨d.maxPasses.getD Settings.default.maxPasses, d.timeout, d.shell⟩⟩

end Invocation

end BuildManifest
