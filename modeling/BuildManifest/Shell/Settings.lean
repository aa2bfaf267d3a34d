import BuildManifest.Shell.Options
import BuildManifest.Shell.Signals
import BuildManifest.Shell.Sum
import BuildManifest.Shell.Words

/-!
What a shell lets its scripts set: parameters and variables, options, aliases, the
current directory and the mask for new files. A fault in one of the commands that
the shell cannot do without ends the shell.
-/

namespace BuildManifest

namespace Shell

/-- The letters of the options, in the order in which they are shown, and their
names. -/
def optionNames : List (Char × String) :=
  [('e', "errexit"), ('f', "noglob"), ('I', "ignoreeof"), ('i', "interactive"), ('m', "monitor"),
    ('n', "noexec"), ('s', "stdin"), ('x', "xtrace"), ('v', "verbose"), ('V', "vi"), ('E', "emacs"),
    ('C', "noclobber"), ('a', "allexport"), ('b', "notify"), ('u', "nounset"), ('p', "privileged"),
    ('L', "nolog"), ('D', "debug")]

/-- The letters that may be given to `set`. -/
def optionLetters : Text := "efImnxvVECabup"

/-- How the arguments stand as one text, as `$*` in quotes. -/
def joint (st : State) : Text := (separators st).take 1

def parameter? (st : State) (name : Text) : Option Text :=
  match name with
  | ['@'] | ['*'] =>
    if st.arguments.isEmpty then none else some (Text.joined (joint st) st.arguments)
  | ['#'] => some (Text.ofNat st.arguments.length)
  | ['?'] => some (Text.ofNat st.status)
  | ['$'] => some (Text.ofNat st.process)
  | ['!'] => st.lastJob.map Text.ofNat
  | ['-'] =>
    some ((optionNames.reverse.map (·.1)).filter st.options.contains)
  | c :: _ =>
    if c.isDigit then
      let n := (digitsOf name).1
      if n = 0 then some st.name else st.arguments[n - 1]?
    else st.lookup name
  | [] => none

/-- All variables with their values, as assignments that can be read again. -/
def listVariables (st : State) (lead : Text) (names : List Text) : State :=
  let one (st : State) (name : Text) : State :=
    match st.lookup name with
    | some v => st.printLine (lead ++ name ++ '=' :: singleQuoted v)
    | none => st.printLine (lead ++ name)
  ((names.mergeSort Text.le).foldl one st).withStatus 0

def badName (st : State) (command name : Text) : State :=
  st.abort (command ++ (": " : Text) ++ name ++ (": bad variable name" : Text))

def readOnly (st : State) (command name : Text) : State :=
  st.abort (command ++ (": " : Text) ++ name ++ (": is read only" : Text))

def nameAndValue (t : Text) : Text × Option Text :=
  match Text.cut? ['='] t with
  | some (name, value) => (name, some value)
  | none => (t, none)

/-- Goes over arguments until one ends the shell. -/
def untilHalt (f : State → Text → State) (st : State) (ts : List Text) : State :=
  ts.foldl (fun st t => if st.halt.isSome then st else f st t) st

/-- Runs `export` or `readonly`, which mark variables and set those that have a
value. -/
def markNames (command : Text) (mark : State → Text → State) (marked : State → List Text)
    (st : State) (arguments : List Text) : State :=
  let (lists, names) := match arguments with
    | ['-', 'p'] :: rest => (true, rest)
    | ['-', '-'] :: rest => (false, rest)
    | rest => (false, rest)
  if lists || names.isEmpty then listVariables st (command ++ [' ']) (marked st)
  else
    untilHalt (fun st t =>
      let (name, value) := nameAndValue t
      if !isName name then badName st command name
      else
        match value with
        | none => mark st name
        | some v =>
          if st.frozen.contains name then readOnly st command name
          else mark (st.set name v) name) (st.withStatus 0) names

def exportNames (st : State) (arguments : List Text) : State :=
  markNames "export" State.exports State.exported st arguments

def freezeNames (st : State) (arguments : List Text) : State :=
  markNames "readonly" (fun st name => { st with frozen := name :: st.frozen.filter (· ≠ name) })
    State.frozen st arguments

/-- Runs `local`: the variables get their values back when the function ends. -/
def localNames (st : State) (arguments : List Text) : State :=
  match st.frames with
  | [] => st.abort "local: not in a function"
  | frame :: outer =>
    let st := { st with frames := frame :: outer }
    untilHalt (fun st t =>
      let (name, value) := nameAndValue t
      if name = ['-'] then st
      else if !isName name then badName st "local" name
      else
        let frame := st.frames.head?.getD []
        let kept := if frame.any fun f => f.1 = name then frame
          else (name, st.lookup name) :: frame
        let st := { st with frames := kept :: st.frames.tail }
        match value with
        | none => st
        | some v =>
          if st.frozen.contains name then readOnly st "local" name else st.set name v)
      (st.withStatus 0) arguments

def restore (frame : List (Text × Option Text)) (st : State) : State :=
  frame.foldl (fun st (name, value) =>
    match value with
    | some v => st.set name v
    | none => { st with bindings := ⟨st.bindings.entries.filter fun e => e.1 ≠ name⟩ }) st

def unsetNames (st : State) (arguments : List Text) : State :=
  let (functions, names) := match arguments with
    | ['-', 'f'] :: rest => (true, rest)
    | ['-', 'v'] :: rest | ['-', '-'] :: rest => (false, rest)
    | rest => (false, rest)
  untilHalt (fun st name =>
    if functions then { st with functions := st.functions.filter fun f => f.1 ≠ name }
    else if !isName name then badName st "unset" name
    else if st.frozen.contains name then readOnly st "unset" name
    else st.unset name) (st.withStatus 0) names

def switch (st : State) (on : Bool) (letter : Char) : State :=
  let others := st.options.filter (· ≠ letter)
  { st with options := if on then letter :: others else others }

def listOptions (st : State) (asCommands : Bool) : State :=
  let one (st : State) (o : Char × String) : State :=
    let on := st.options.contains o.1
    if asCommands then
      st.printLine ((if on then ("set -o " : Text) else "set +o ") ++ o.2.toList)
    else
      let name := o.2.toList
      st.printLine (name ++ List.replicate (16 - name.length) ' ' ++
        (if on then ("on" : Text) else "off"))
  let st := if asCommands then st else st.printLine "Current option settings"
  optionNames.foldl one st

/-- Reads the options of a shell, up to the other arguments, which are given if
there are any or if a double dash stands before them. A letter of `extra` is noted
like an option. -/
def readOptions (fault : State → Text → State) (extra : Text) :
    (fuel : Nat) → State → List Text → State × Option (List Text)
  | 0, st, _ => (st, none)
  | fuel + 1, st, arguments =>
    match arguments with
    | [] => (st, none)
    | ['-', '-'] :: rest => (st, some rest)
    | ['-'] :: rest =>
      (switch (switch st false 'x') false 'v', if rest.isEmpty then none else some rest)
    | (sign :: letters) :: rest =>
      if (sign ≠ '-' && sign ≠ '+') || letters.isEmpty then (st, some ((sign :: letters) :: rest))
      else
        let on : Bool := sign = '-'
        let step (acc : State × List Text) (c : Char) : State × List Text :=
          let (st, rest) := acc
          if st.halt.isSome then acc
          else if c = 'o' then
            match rest with
            | [] => (listOptions st (!on), [])
            | name :: rest =>
              match optionNames.find? fun o => o.2.toList = name with
              | some (letter, _) => (switch st on letter, rest)
              | none => (fault st (("Illegal option -o " : Text) ++ name), rest)
          else if optionLetters.contains c || extra.contains c then (switch st on c, rest)
          else (fault st (("Illegal option " : Text) ++ [sign, c]), rest)
        let (st, rest) := letters.foldl step (st, rest)
        if st.halt.isSome then (st, none) else readOptions fault extra fuel st rest
    | [] :: rest => (st, some ([] :: rest))

def setOptions (st : State) (arguments : List Text) : State :=
  if arguments.isEmpty then listVariables st [] (st.bindings.entries.map (·.1))
  else
    let fault (st : State) (t : Text) : State := st.abort (("set: " : Text) ++ t)
    let (st, rest) := readOptions fault [] (arguments.length + 1) (st.withStatus 0) arguments
    match rest with
    | some arguments => if st.halt.isSome then st else { st with arguments, optionOffset := 0 }
    | none => st

def shift (st : State) (arguments : List Text) : State :=
  let n? : Option Nat := match arguments with
    | [] => some 1
    | t :: _ => natural? t
  match n? with
  | none => st.abort (("shift: Illegal number: " : Text) ++ (arguments.head?).getD [])
  | some n =>
    if n > st.arguments.length then st.abort "shift: can't shift that many"
    else { st with arguments := st.arguments.drop n, status := 0, optionOffset := 0 }

/-- Runs `getopts`, which takes one option after the other from the arguments. The
offset is that of the letter within its argument, none if a new one is to be
looked at. -/
def nextOption (st : State) (arguments : List Text) : State :=
  match arguments with
  | letters :: name :: given =>
    let all := if given.isEmpty then st.arguments else given
    let next := max 1 (((st.lookup "OPTIND").bind natural?).getD 1)
    let quiet := letters.head? = some ':'
    let withName (st : State) (next offset : Nat) (value : Text) (status : Nat) : State :=
      let st := st.set "OPTIND" (Text.ofNat next)
      if st.frozen.contains name then
        st.shellFault 2 (("getopts: " : Text) ++ name ++ (": is read only" : Text))
      else if !isName name then
        st.shellFault 2 (("getopts: " : Text) ++ name ++ (": bad variable name" : Text))
      else { (st.set name value).withStatus status with optionOffset := offset }
    let finish (next : Nat) : State := withName st next 0 ['?'] 1
    let letter (word : Text) (offset next : Nat) : State :=
      match word.drop offset with
      | [] => finish next
      | c :: more =>
        let offset := if more.isEmpty then 0 else offset + 1
        let known := if c = ':' then [] else letters.dropWhile (· ≠ c)
        match known with
        | [] =>
          let st := if quiet then st.set "OPTARG" [c]
            else (st.complain (("Illegal option -" : Text) ++ [c])).unset "OPTARG"
          withName st next offset ['?'] 0
        | _ :: ':' :: _ =>
          if !more.isEmpty then withName (st.set "OPTARG" more) next 0 [c] 0
          else
            match all[next - 1]? with
            | some value => withName (st.set "OPTARG" value) (next + 1) 0 [c] 0
            | none =>
              if quiet then withName (st.set "OPTARG" [c]) next 0 [':'] 0
              else
                withName ((st.complain (("No arg for -" : Text) ++ c ::
                  (" option" : Text))).unset "OPTARG") next 0 ['?'] 0
        | _ => withName (st.set "OPTARG" []) next offset [c] 0
    if st.optionOffset > 0 then letter ((all[next - 2]?).getD []) st.optionOffset next
    else
      match all[next - 1]? with
      | some ['-', '-'] => finish (next + 1)
      | some ('-' :: c :: more) => letter ('-' :: c :: more) 1 (next + 1)
      | _ => finish next
  | _ => st.shellFault 2 "getopts: Usage: getopts optstring var [arg...]"

def listAlias (st : State) (name value : Text) : State :=
  st.printLine (name ++ '=' :: singleQuoted value)

def aliasNames (st : State) (arguments : List Text) : State :=
  if arguments.isEmpty then
    ((st.aliases.entries.mergeSort fun a b => Text.le a.1 b.1).foldl
      (fun st (name, value) => listAlias st name value) st).withStatus 0
  else
    arguments.foldl (fun st t =>
      match nameAndValue t with
      | (name, some value) => { st with aliases := st.aliases.insert name value }
      | (name, none) =>
        match st.aliases.get? name with
        | some value => listAlias st name value
        | none => st.failing 1 (("alias: " : Text) ++ name ++ (" not found" : Text)))
      (st.withStatus 0)

def unaliasNames (st : State) (arguments : List Text) : State :=
  match arguments with
  | ['-', 'a'] :: _ => { st with aliases := ⟨[]⟩, status := 0 }
  | names =>
    names.foldl (fun st name =>
      if (st.aliases.get? name).isSome then
        { st with aliases := ⟨st.aliases.entries.filter fun e => e.1 ≠ name⟩ }
      else st.failing 1 (("unalias: " : Text) ++ name ++ (" not found" : Text)))
      (st.withStatus 0)

/-- A path without dots, after the links in it have been left alone. -/
def tidied (p : Path) : Path :=
  let step (names : List Text) (n : Text) : List Text :=
    if n.isEmpty || n = ['.'] then names
    else if n = ['.', '.'] then names.tail
    else n :: names
  '/' :: Text.joined ['/'] ((Text.pieces '/' p).foldl step []).reverse

def place? (st : State) (p : Path) : Option Location :=
  match st.find p with
  | .ok (.found location (.dir _)) => some location
  | _ => none

def physicalPath (st : State) : Path := octets st.world.currentPath

def currentPath (st : State) : Path :=
  match st.lookup "PWD" with
  | some p =>
    if p.head? = some '/' && place? st p = some st.world.current then p else physicalPath st
  | none => physicalPath st

/-- The letters of options that have no values, and the other arguments. -/
def plainFlags (allowed : Text) : List Text → Except Char (Text × List Text)
  | ['-', '-'] :: rest => .ok ([], rest)
  | ('-' :: c :: more) :: rest =>
    match (c :: more).find? fun d => !allowed.contains d with
    | some d => .error d
    | none => (plainFlags allowed rest).map fun (flags, rest) => (c :: more ++ flags, rest)
  | rest => .ok ([], rest)

def illegalOption (st : State) (command : Text) (c : Char) : State :=
  st.shellFault 2 (command ++ (": Illegal option -" : Text) ++ [c])

def changeDirectory (st : State) (arguments : List Text) : State :=
  match plainFlags "LP" arguments with
  | .error c => illegalOption st "cd" c
  | .ok (flags, operands) =>
    let here := currentPath st
    let given := (operands.head?).getD ((st.lookup "HOME").getD [])
    let (p, shows) := if given = ['-'] then ((st.lookup "OLDPWD").getD here, true)
      else (given, false)
    if p.isEmpty then st.withStatus 0
    else
      let whole := if p.head? = some '/' then p else here ++ '/' :: p
      let logical := tidied whole
      let isPhysical := flags.getLast? = some 'P'
      match (if isPhysical then place? st whole else
          (place? st logical).filter fun _ => (place? st whole).isSome || p.contains '.') with
      | none => st.shellFault 2 (("cd: can't cd to " : Text) ++ p)
      | some location =>
        let st := { st with world := { st.world with current := location } }
        let now := if isPhysical then physicalPath st else logical
        let st := (st.set "OLDPWD" here).set "PWD" now
        (if shows then st.printLine now else st).withStatus 0

def printDirectory (st : State) (arguments : List Text) : State :=
  match plainFlags "LP" arguments with
  | .error c => illegalOption st "pwd" c
  | .ok (flags, _) =>
    (st.printLine (if flags.getLast? = some 'P' then physicalPath st else currentPath st)).withStatus
      0

/-- The permissions that a mask leaves, in letters. -/
def maskLetters (mask : Nat) : Text :=
  let part (who : Char) (bits : Nat) : Text :=
    who :: '=' :: (if bits / 4 % 2 = 0 then ['r'] else []) ++
      (if bits / 2 % 2 = 0 then ['w'] else []) ++ (if bits % 2 = 0 then ['x'] else [])
  part 'u' (mask / 64) ++ ',' :: part 'g' (mask / 8) ++ ',' :: part 'o' mask

/-- Runs `umask`. -/
def changeMask (st : State) (arguments : List Text) : State :=
  match arguments with
  | [] =>
    let t := Nat.toDigits 8 st.mask
    (st.printLine (List.replicate (4 - t.length) '0' ++ t)).withStatus 0
  | ['-', 'S'] :: _ => (st.printLine (maskLetters st.mask)).withStatus 0
  | t :: _ =>
    if t.all isOctalDigit then { st with mask := valueIn 8 t % 512, status := 0 }
    else if t.head?.any Char.isDigit then
      st.shellFault 2 (("umask: Illegal number: " : Text) ++ t)
    else st.shellFault 2 (("umask: Illegal mode: " : Text) ++ t)

/-- Cuts a line off a text: its characters, of which those after a backslash are
marked as quoted, how much has been read, and whether there was a line end. -/
def cutMarked (raw : Bool) : Marked → (taken : Nat) → Text → Marked × Nat × Bool
  | line, taken, [] => (line.reverse, taken, false)
  | line, taken, '\\' :: c :: rest =>
    if raw then cutMarked raw (('\\', false) :: line) (taken + 1) (c :: rest)
    else if c = '\n' then cutMarked raw line (taken + 2) rest
    else cutMarked raw ((c, true) :: line) (taken + 2) rest
  | line, taken, c :: rest =>
    if c = '\n' then (line.reverse, taken + 1, true)
    else if c = '\x00' then cutMarked raw line (taken + 1) rest
    else cutMarked raw ((c, !raw && c = '\\') :: line) (taken + 1) rest

/-- Runs `read`: shares a line of the input among variables. -/
def readLineInto (st : State) (arguments : List Text) : State :=
  let (raw, names) := match arguments with
    | ['-', 'r'] :: ['-', 'p'] :: _ :: rest | ['-', 'p'] :: _ :: ['-', 'r'] :: rest => (true, rest)
    | ['-', 'r'] :: ['-', '-'] :: rest => (true, rest)
    | ['-', 'r'] :: rest => (true, rest)
    | ['-', 'p'] :: _ :: rest => (false, rest)
    | ['-', '-'] :: rest => (false, rest)
    | rest => (false, rest)
  match names with
  | ('-' :: c :: _) :: _ => illegalOption st "read" c
  | [] => st.shellFault 2 "read: arg count"
  | _ =>
    let t := (st.waiting 0 65536).toOption.getD []
    let (line, taken, ended) := cutMarked raw [] 0 t
    let st := (st.advance 0 taken).withStatus (if ended then 0 else 1)
    let values := fieldsOf (separators st) names.length line
    let step (acc : State × Bool) (v : Text × Text) : State × Bool :=
      let (st, broken) := acc
      let (name, value) := v
      if broken then acc
      else if !isName name then
        (st.shellFault 2 (("read: " : Text) ++ name ++ (": bad variable name" : Text)), true)
      else if st.frozen.contains name then
        (st.shellFault 2 (("read: " : Text) ++ name ++ (": is read only" : Text)), true)
      else (st.set name value, false)
    ((names.zip values).foldl step (st, false)).1

end Shell

end BuildManifest
