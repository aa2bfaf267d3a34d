import BuildManifest.Expansion
import BuildManifest.World

/-!
A session is what a run of the program carries along: the world, the tokens it
may draw, and a record of the commands it has handed out and of the files it has
asked for. An `Action` works on a session and may fail; what it did before it
failed stays done.

The program never runs a command or fetches a file itself. It is given an
`Executor` and a `Fetcher`, which see the world and nothing else of the session.
-/

namespace BuildManifest

/-- Runs a command; the answer is its exit code. -/
abbrev Executor := Text → World → Except Failure Int × World

/-- Gets what a url names into the file a path names. -/
abbrev Fetcher := Text → Path → World → Except Failure Unit × World

/-- A command that was handed to the executor, with the answer. -/
structure Call where
  command : Text
  answer : Except Failure Int

structure Session where
  world : World
  supply : TokenSupply
  calls : List Call
  fetches : List (Text × Path)

/-- A piece of work on a session. -/
abbrev Action := ExceptT Failure (StateM Session)

namespace Action

theorem pure_apply {α : Type} (x : α) (s : Session) : (pure x : Action α) s = (.ok x, s) := rfl

/-- What comes after a failure is not done, but what came before it stays. -/
theorem bind_apply {α β : Type} (a : Action α) (f : α → Action β) (s : Session) :
    (a >>= f) s = match a s with
      | (.ok x, s) => f x s
      | (.error e, s) => (.error e, s) := by
  simp only [bind, ExceptT.bind, ExceptT.mk, StateT.bind]
  rcases a s with ⟨_ | _, _⟩ <;> rfl

def fail {α : Type} (e : Failure) : Action α := fun s => (.error e, s)

def ofExcept {α : Type} (r : Except Failure α) : Action α := fun s => (r, s)

def ask {α : Type} (f : World → α) : Action α := fun s => (.ok (f s.world), s)

def say (t : Text) : Action Unit :=
  fun s => (.ok (), { s with world := s.world.print (t ++ ['\n']) })

def ofSystem {α : Type} : Except SystemError α → Except Failure α
  | .ok a => .ok a
  | .error e => .error (.io (.system e))

def expand (scope : Scope) (v : Variables) (t : Text) : Action Text :=
  fun s =>
    let (r, supply) := Expansion.expand scope v s.supply t
    (r, { s with supply })

def expandAll (scope : Scope) (v : Variables) (ts : List Text) : Action (List Text) :=
  fun s =>
    let (r, supply) := Expansion.expandAll scope v s.supply ts
    (r, { s with supply })

def makeDirectories (p : Path) : Action Unit :=
  fun s =>
    let (r, world) := s.world.makeDirectories p
    (ofSystem r, { s with world })

/-- Hands a command to the executor and records it with the answer. -/
def call (executor : Executor) (command : Text) : Action Int :=
  fun s =>
    let (answer, world) := executor command s.world
    (answer, { s with world, calls := s.calls ++ [⟨command, answer⟩] })

/-- Asks the fetcher for a file and records the request. -/
def fetch (fetcher : Fetcher) (url : Text) (destination : Path) : Action Unit :=
  fun s =>
    let (r, world) := fetcher url destination s.world
    (r, { s with world, fetches := s.fetches ++ [(url, destination)] })

/-- An action that prints a line before it passes on a failure. -/
def onFailure {α : Type} (line : Text) (a : Action α) : Action α :=
  fun s =>
    match a s with
    | (.error e, s) => (.error e, { s with world := s.world.print (line ++ ['\n']) })
    | r => r

end Action

end BuildManifest
