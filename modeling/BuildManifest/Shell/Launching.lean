import BuildManifest.Shell.Errands
import BuildManifest.Shell.Lines

/-!
Commands that run other commands: with words that are read, with another
environment, or for a limited time. What runs the commands is given to them.
-/

namespace BuildManifest

namespace Shell

def launchStatus (e : SystemError) : Nat :=
  if e = .noSuchFile || e = .notDirectory || e = .tooManyLinks then 127 else 126

/-- Runs a command, or complains in the name of another one that it cannot be run. -/
def launchFor (run : Runner) (command : Text) (what : Text → Text) (words : List Text)
    (st : State) : State :=
  match run words st with
  | .ok st => st
  | .error e =>
    st.failing (launchStatus e)
      (command ++ (": " : Text) ++ what (words.head?.getD []) ++ (": " : Text) ++ reason e)

namespace Words

/-- Reads words between blanks, in which quotes and backslashes quote. The lines of
the words are told apart; `word` and `line` are read backwards. -/
def readQuoted : (fuel : Nat) → (word : Option Text) → (line : List Text) →
    (lines : List (List Text)) → Text → Except Text (List (List Text))
  | 0, _, _, lines, _ => .ok lines.reverse
  | fuel + 1, word, line, lines, t =>
    let closed : List Text := match word with
      | some w => w.reverse :: line
      | none => line
    match t with
    | [] => .ok (if closed.isEmpty then lines else closed.reverse :: lines).reverse
    | '\\' :: c :: rest => readQuoted fuel (some (c :: word.getD [])) line lines rest
    | c :: rest =>
      if c = '\n' then
        readQuoted fuel none [] (if closed.isEmpty then lines else closed.reverse :: lines) rest
      else if c = ' ' || c = '\t' then readQuoted fuel none closed lines rest
      else if c = '"' || c = '\'' then
        let inside := rest.takeWhile fun d => d ≠ c && d ≠ '\n'
        match rest.drop inside.length with
        | d :: rest =>
          if d = c then readQuoted fuel (some (inside.reverse ++ word.getD [])) line lines rest
          else .error (unmatched c)
        | [] => .error (unmatched c)
      else readQuoted fuel (some (c :: word.getD [])) line lines rest
where
  /-- The complaint about a quote without a partner. -/
  unmatched (c : Char) : Text :=
    ("unmatched " : Text) ++ (if c = '"' then ("double" : Text) else "single") ++
      (" quote; by default quotes are special to xargs unless you use the -0 option" : Text)

def inParts {α : Type} (n : Nat) : (fuel : Nat) → List α → List (List α)
  | 0, _ => []
  | fuel + 1, xs => if xs.isEmpty then [] else xs.take n :: inParts n fuel (xs.drop n)

/-- Cuts words into parts that are not longer than a line may be. -/
def inLines (most : Nat) (lead : Nat) : (length : Nat) → (part : List Text) → List Text →
    List (List Text)
  | _, part, [] => if part.isEmpty then [] else [part.reverse]
  | length, part, w :: ws =>
    let more := length + w.length + 1
    if more > most && !part.isEmpty then
      part.reverse :: inLines most lead (lead + w.length + 1) [w] ws
    else inLines most lead more (w :: part) ws

end Words

def launchEach (run : Runner) (shows : Bool) : List (List Text) → State → State
  | [], st => st
  | words :: rest, st =>
    let before := st.status
    let st := if shows then st.complain (Text.joined [' '] words) else st
    match run words st with
    | .error e =>
      st.failing (launchStatus e)
        (("xargs: " : Text) ++ words.head?.getD [] ++ (": " : Text) ++ reason e)
    | .ok st =>
      if st.halt.isSome then st
      else if st.status = 255 then
        st.failing 124 (("xargs: " : Text) ++ words.head?.getD [] ++
          (": exited with status 255; aborting" : Text))
      else if st.status > 128 then st.withStatus 125
      else
        launchEach run shows rest
          (st.withStatus (if st.status ≠ 0 || before = 123 then 123 else 0))

/-- Runs `xargs`: reads words and runs a command with them. -/
def launchWithWords (run : Runner) (st : State) (arguments : List Text) : State :=
  withLeadingOptions "xargs" 1 "0d:I:i?n:L:l?P:rtps:xE:e?a:" (spellNames arguments) st fun o st =>
    let fault (t : Text) : State := st.failing 1 (("xargs: " : Text) ++ t)
    let (content, st) := match o.value? 'a' with
      | some p => contentOf st p
      | none => contentOf st ['-']
    match content with
    | .error e => fault (reason e)
    | .ok t =>
      let command : List Text := if o.operands.isEmpty then ["echo".toList] else o.operands
      let sign? : Option Text := match o.lastOf? ['I', 'i'] with
        | some 'I' => o.value? 'I'
        | some _ => some (match o.value? 'i' with
          | some (c :: r) => c :: r
          | _ => ['\x7b', '\x7d'])
        | none => none
      let separator? : Option Char :=
        if o.has '0' then some '\x00'
        else match o.value? 'd' with
          | some ['\\', 'n'] => some '\n'
          | some ['\\', 't'] => some '\t'
          | some ['\\', '0'] => some '\x00'
          | some (c :: _) => some c
          | _ => none
      let lines : Except Text (List (List Text)) := match separator?, sign? with
        | some c, _ =>
          let parts := Text.pieces c t
          .ok ((if parts.getLast? = some [] then parts.dropLast else parts).map ([·]))
        | none, some _ =>
          (Words.readQuoted (2 * t.length + 2) none [] []
            (t.flatMap fun c => if c = ' ' || c = '\t' then ['\\', c] else [c])).map fun ls =>
              (ls.map fun l => [l.flatten.dropWhile fun c => c = ' ' || c = '\t']).filter (· ≠ [[]])
        | none, none => Words.readQuoted (2 * t.length + 2) none [] [] t
      match lines with
      | .error what => fault what
      | .ok lines =>
        let lines := match o.value? 'E' with
          | some e => (lines.flatten.takeWhile (· ≠ e)).map ([·])
          | none => lines
        let count? (c : Char) : Option Nat := (o.value? c).bind natural?
        let commands : List (List Text) :=
          match sign? with
          | some sign => lines.map fun l =>
              let w := (l.head?).getD []
              match command with
              | name :: rest => name :: rest.map fun a => Text.replace a sign w
              | [] => []
          | none =>
            let given := match count? 'n', count? 'L', o.has 'l' with
              | some n, _, _ => Words.inParts (max n 1) (lines.flatten.length + 1) lines.flatten
              | none, some n, _ =>
                (Words.inParts (max n 1) (lines.length + 1) lines).map List.flatten
              | none, none, true => lines
              | none, none, false =>
                let lead := (command.map fun (w : Text) => w.length + 1).foldl (· + ·) 0
                Words.inLines ((count? 's').getD 131072) lead lead [] lines.flatten
            if given.isEmpty then (if o.has 'r' then [] else [command])
            else given.map (command ++ ·)
        State.feeding [] (launchEach run (o.has 't') commands) (st.withStatus 0)
where
  /-- Spells the options that are given by name in letters. -/
  spellNames : List Text → List Text
    | [] => []
    | w :: rest =>
      let value (lead : String) : Option Text := Text.after? lead.toList w
      match String.ofList w with
      | "--null" => ['-', '0'] :: spellNames rest
      | "--no-run-if-empty" => ['-', 'r'] :: spellNames rest
      | "--verbose" => ['-', 't'] :: spellNames rest
      | "--" => w :: rest
      | _ =>
        match value "--max-args=", value "--max-lines=", value "--delimiter=", value "--max-procs="
        with
        | some v, _, _, _ => ('-' :: 'n' :: v) :: spellNames rest
        | _, some v, _, _ => ('-' :: 'L' :: v) :: spellNames rest
        | _, _, some v, _ => ('-' :: 'd' :: v) :: spellNames rest
        | _, _, _, some v => ('-' :: 'P' :: v) :: spellNames rest
        | _, _, _, _ => if w.head? = some '-' then w :: spellNames rest else w :: rest

def inEnvironment (f : State → State) (bindings : Table) (exported : List Text) (st : State) :
    State :=
  let inner := f { st with bindings, exported }
  { inner with bindings := st.bindings, exported := st.exported }

/-- Runs `env`: a command in a changed environment. -/
def launchInEnvironment (run : Runner) (st : State) (arguments : List Text) : State :=
  let arguments := match arguments with
    | ['-'] :: rest => ['-', 'i'] :: rest
    | rest => rest
  withLeadingOptions "env" 125 "iu:0C:S:v" arguments st fun o st =>
    let split := (o.values 'S').flatMap fun t => (Text.pieces ' ' t).filter (· ≠ [])
    let words := split ++ o.operands
    let given := words.takeWhile (·.contains '=')
    let command := words.drop given.length
    let start : Table := if o.has 'i' then ⟨[]⟩ else ⟨st.environment⟩
    let kept : Table := ⟨start.entries.filter fun e => !(o.values 'u').contains e.1⟩
    let bindings := given.foldl (fun (b : Table) t =>
      b.insert (t.takeWhile (· ≠ '=')) ((t.dropWhile (· ≠ '=')).drop 1)) kept
    let exported := bindings.entries.map (·.1)
    match command with
    | [] =>
      let ending := if o.has '0' then '\x00' else '\n'
      (st.print (bindings.entries.flatMap fun e => e.1 ++ '=' :: e.2 ++ [ending])).withStatus 0
    | name :: rest =>
      let words := if (bindings.get? "PATH").isNone && !name.contains '/' then
          (("/bin/" : Text) ++ name) :: rest
        else name :: rest
      inEnvironment (launchFor run "env" (fun _ => quotedName name) words) bindings exported st

/-- Runs `timeout`: a command that has only so much time. -/
def launchForTime (run : Runner) (st : State) (arguments : List Text) : State :=
  let preserves := arguments.head? = some ("--preserve-status" : Text)
  let arguments := arguments.filter fun t =>
    t ≠ ("--preserve-status" : Text) && t ≠ ("--foreground" : Text)
  withLeadingOptions "timeout" 125 "s:k:v" arguments st fun o st =>
    match o.operands with
    | [] | [_] =>
      st.failing 125 "Try 'timeout --help' for more information."
    | duration :: words =>
      match milliseconds? duration with
      | none => misuse st "timeout" 125 (("invalid time interval " : Text) ++ quotedName duration)
      | some ms =>
        let deadline := st.slept + ms
        let isOurs := ms > 0 && st.limit.all (deadline < ·)
        let inner := launchFor run "timeout"
          (fun w => ("failed to run command " : Text) ++ quotedName w) words
          { st with limit := if isOurs then some deadline else st.limit }
        let after := { inner with limit := st.limit }
        if isOurs && inner.halt = some .outOfTime then
          let isKill := (o.value? 's').any fun s =>
            s = ("KILL" : Text) || s = ("SIGKILL" : Text) || s = ['9']
          { after with
            halt := if isKill then some (.killed 9) else none
            slept := deadline
            status := if isKill then 137 else if preserves then 143 else 124 }
        else after

/-- Runs a command as it is, once the options before it have been left out. -/
def launchPlainly (command letters : Text) (run : Runner) (st : State) (arguments : List Text) :
    State :=
  withLeadingOptions command 125 letters arguments st fun o st =>
    match o.operands with
    | [] =>
      if command = ("nice" : Text) then (st.printLine ['0']).withStatus 0
      else misuse st command 125 "missing operand"
    | words =>
      launchFor run command (fun w =>
        if command = ("nohup" : Text) then ("failed to run command " : Text) ++ quotedName w
        else quotedName w) words st

end Shell

end BuildManifest
