import BuildManifest.Shell.State

/-!
Signals: their names, who gets them and what they do. A signal for the shell is
kept until the command that is running has come to its end. What it does then is
said by a trap; without one it ends the shell, unless it is one of those that do no
harm.
-/

namespace BuildManifest

namespace Shell

/-- The names of the signals from zero on, which stands for the end of the shell. -/
def signalNames : List String :=
  ["EXIT", "HUP", "INT", "QUIT", "ILL", "TRAP", "ABRT", "BUS", "FPE", "KILL", "USR1", "SEGV",
    "USR2", "PIPE", "ALRM", "TERM", "16", "CHLD", "CONT", "STOP", "TSTP", "TTIN", "TTOU", "URG",
    "XCPU", "XFSZ", "VTALRM", "PROF", "WINCH", "IO", "PWR", "SYS"]

/-- How many signals there are, with those that have no names. -/
def signalCount : Nat := 65

def signalName (n : Nat) : Text := (signalNames[n]?.map String.toList).getD (Text.ofNat n)

/-- The signal of a name or a number that is not below `least`. -/
def signalOf? (least : Nat) (t : Text) : Option Nat :=
  let found : Option Nat := match natural? t with
    | some n => if n < signalCount then some n else none
    | none => signalNames.findIdx? fun name => name.toList = t.map Char.toUpper
  found.filter (least ≤ ·)

def signalReport (n : Nat) : Text :=
  match n with
  | 1 => "Hangup"
  | 2 | 13 => []
  | 3 => "Quit"
  | 4 => "Illegal instruction"
  | 5 => "Trace/breakpoint trap"
  | 6 => "Aborted"
  | 7 => "Bus error"
  | 8 => "Floating point exception"
  | 9 => "Killed"
  | 10 => "User defined signal 1"
  | 11 => "Segmentation fault"
  | 12 => "User defined signal 2"
  | 14 => "Alarm clock"
  | 15 => "Terminated"
  | 24 => "CPU time limit exceeded"
  | 25 => "File size limit exceeded"
  | 26 => "Virtual timer expired"
  | 27 => "Profiling timer expired"
  | 30 => "Power failure"
  | 31 => "Bad system call"
  | n => ("Signal " : Text) ++ Text.ofNat n

/-- Signals that do nothing to a process that does not ask for them. -/
def harmlessSignals : List Nat := [0, 17, 18, 19, 20, 21, 22, 23, 28]

/-- What a signal does to the shell. -/
inductive Verdict where
  | ignored
  | fatal
  | action (script : Text)

def verdict (st : State) (signal : Nat) : Verdict :=
  if signal = 9 then .fatal
  else
    match st.traps.lookup signal with
    | some [] => .ignored
    | some script => .action script
    | none => if harmlessSignals.contains signal then .ignored else .fatal

/-- Sends a signal to a process; the answer says whether there is one. -/
def signal (st : State) (process n : Nat) : Bool × State :=
  if process = st.process || process = 0 then
    (true, if n = 0 then st else { st with pending := st.pending ++ [n] })
  else if st.jobs.any fun j => j.process = process then
    (true,
      if harmlessSignals.contains n then st
      else { st with
        jobs := st.jobs.filter fun j => j.process ≠ process
        finished := (process, 128 + n) :: st.finished })
  else (false, st)

/-- A text in single quotes, which can be read again. -/
def singleQuoted (t : Text) : Text :=
  let rec go : (fuel : Nat) → Text → Text
    | 0, _ => []
    | fuel + 1, t =>
      let plain := t.takeWhile (· ≠ '\'')
      let rest := t.drop plain.length
      let quotes := rest.takeWhile (· = '\'')
      let rest := rest.drop quotes.length
      '\'' :: plain ++ ['\''] ++ (if quotes.isEmpty then [] else '"' :: quotes ++ ['"']) ++
        (if rest.isEmpty then [] else go fuel rest)
  go (t.length + 1) t

def listTraps (st : State) : State :=
  let one (st : State) (n : Nat) : State :=
    match st.traps.lookup n with
    | some script =>
      st.printLine (("trap -- " : Text) ++ singleQuoted script ++ ' ' :: signalName n)
    | none => st
  ((List.range signalCount).foldl one st).withStatus 0

def trap (st : State) (arguments : List Text) : State :=
  let set (st : State) (action : Option Text) (names : List Text) : State :=
    let one (st : State) (name : Text) : State :=
      if st.status ≠ 0 then st
      else
        match signalOf? 0 name with
        | none => st.failing 1 (("trap: " : Text) ++ name ++ (": bad trap" : Text))
        | some n =>
          let others := st.traps.filter fun t => t.1 ≠ n
          { st with traps := match action with
              | some script => (n, script) :: others
              | none => others }
    names.foldl one (st.withStatus 0)
  match (match arguments with
    | ['-', '-'] :: rest => rest
    | rest => rest) with
  | [] => listTraps st
  | [name] => set st none [name]
  | action :: names =>
    if action = ['-'] then set st none names
    else if (natural? action).isSome then set st none (action :: names)
    else set st (some action) names

def kill (st : State) (arguments : List Text) : State :=
  let fault (t : Text) : State := st.shellFault 2 (("kill: " : Text) ++ t)
  let usage : State := fault
    "Usage: kill [-s sigspec | -signum | -sigspec] [pid | job]... or\nkill -l [exitstatus]"
  let process? (st : State) (t : Text) : Except Text Nat :=
    match t with
    | ['%'] | ['%', '%'] | ['%', '+'] => .ok (st.lastJob.getD 1)
    | '%' :: n =>
      match (natural? n).bind fun n => st.jobs.reverse[n - 1]? with
      | some j => .ok j.process
      | none => .error (("No such job: " : Text) ++ t)
    | '-' :: n =>
      match natural? n with
      | some n => .ok n
      | none => .error (("Illegal number: " : Text) ++ n)
    | n =>
      match natural? n with
      | some n => .ok n
      | none => .error (("Illegal number: " : Text) ++ n)
  let send (n : Nat) (targets : List Text) : State :=
    if targets.isEmpty then usage
    else
      let step (acc : State × Bool) (t : Text) : State × Bool :=
        let (st, broken) := acc
        if broken then acc
        else
          match process? st t with
          | .error what => (st.shellFault 2 (("kill: " : Text) ++ what), true)
          | .ok p =>
            match signal st p n with
            | (true, st) => (st, false)
            | (false, st) => (st.shellFault 1 "kill: No such process\n", false)
      (targets.foldl step (st.withStatus 0, false)).1
  match arguments with
  | [] => usage
  | ['-', 'l'] :: [] =>
    let all := (List.range signalCount).drop 1
    (st.print (("0\n" : Text) ++ all.flatMap fun n => signalName n ++ ['\n'])).withStatus 0
  | ['-', 'l'] :: t :: _ =>
    match natural? t with
    | none => fault (("Illegal number: " : Text) ++ t)
    | some n =>
      let n := if n > 128 then n - 128 else n
      if 0 < n && n < signalCount then (st.printLine (signalName n)).withStatus 0
      else fault (("invalid signal number or exit status: " : Text) ++ t)
  | ['-', 's'] :: t :: rest =>
    match signalOf? 0 t with
    | some n => send n rest
    | none => fault (("invalid signal number or name: " : Text) ++ t)
  | ['-', '-'] :: rest => send 15 rest
  | ('-' :: c :: more) :: rest =>
    match signalOf? 0 (c :: more) with
    | some n => send n rest
    | none => fault (("Illegal option -" : Text) ++ [c])
  | rest => send 15 rest

end Shell

end BuildManifest
