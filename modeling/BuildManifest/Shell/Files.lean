import BuildManifest.Shell.Options

/-!
Commands that make, copy, move and remove files. Each goes over its operands in
order, complains about those it cannot handle and fails if there were any.
-/

namespace BuildManifest

namespace Shell

def withoutSlashes (p : Path) : Path := (p.reverse.dropWhile (· = '/')).reverse

/-- The last name in a path, slashes at its end left out. -/
def baseName (p : Path) : Text :=
  let core := withoutSlashes p
  if core.isEmpty then (if p.isEmpty then [] else ['/'])
  else (core.reverse.takeWhile (· ≠ '/')).reverse

def dirName (p : Path) : Text :=
  let core := withoutSlashes p
  let dir := withoutSlashes (core.reverse.dropWhile (· ≠ '/')).reverse
  if dir.isEmpty then (if p.head? = some '/' then ['/'] else ['.']) else dir

namespace State

/-- The place and the node of a path, links followed. -/
def nodeAt (st : State) (p : Path) : Except SystemError (Location × Node) :=
  match st.find p with
  | .ok (.found location n) => .ok (location, n)
  | .ok (.vacant _ _ _) => .error .noSuchFile
  | .error e => .error e

/-- The place and the node of a path, a link at its end counting as itself. -/
def selfAt (st : State) (p : Path) : Except SystemError (Location × Node) :=
  match st.findSelf p with
  | .ok (.found location n) => .ok (location, n)
  | .ok (.vacant _ _ _) => .error .noSuchFile
  | .error e => .error e

def putAt (st : State) (location : Location) (n : Node) : State :=
  { st with world := st.world.putAt location n }

def removeAt (st : State) (location : Location) : State :=
  { st with world := { st.world with tree := Node.remove location st.world.tree } }

end State

def missingOperand (st : State) (command what : Text) : State := misuse st command 1 what

def cannot (st : State) (command what : Text) (p : Path) (why : Text) : State :=
  st.failing 1 (command ++ (": " : Text) ++ what ++ [' '] ++ quotedName p ++ (": " : Text) ++ why)

def makeDirectories (st : State) (arguments : List Text) : State :=
  withOptions "mkdir" 1 "pvm:" [("parents", 'p'), ("verbose", 'v'), ("mode", 'm')] arguments st
    fun o st =>
    let refuse (st : State) (p : Path) (e : SystemError) : State :=
      cannot st "mkdir" "cannot create directory" p (reason e)
    let tell (st : State) (p : Path) : State :=
      if o.has 'v' then
        st.printLine (("mkdir: created directory " : Text) ++ quotedName p)
      else st
    if o.operands.isEmpty then missingOperand st "mkdir" "missing operand"
    else eachOperand (fun st p =>
      if o.has 'p' then
        let missing := ((Path.ancestors p).filter fun a => !st.isDirectory a).reverse
        match st.world.makeDirectories (written p) with
        | (.ok (), world) => missing.foldl tell { st with world }
        | (.error e, world) => refuse { st with world } p e
      else
        match st.world.makeDirectory (written p) with
        | .ok world => tell { st with world } p
        | .error e => refuse st p e) st o.operands

mutual

def removalLines (p : Path) : Node → List Text
  | .dir entries => removalLinesAll p entries ++ [("removed directory " : Text) ++ quotedName p]
  | _ => [("removed " : Text) ++ quotedName p]

def removalLinesAll (p : Path) : List (Text × Node) → List Text
  | [] => []
  | (name, n) :: rest => removalLines (p ++ '/' :: octets name) n ++ removalLinesAll p rest

end

def removeFiles (st : State) (arguments : List Text) : State :=
  withOptions "rm" 1 "rRfivdI"
    [("recursive", 'r'), ("force", 'f'), ("verbose", 'v'), ("dir", 'd'), ("interactive", 'i')]
    arguments st fun o st =>
    let recursive := o.has 'r' || o.has 'R'
    let refuse (st : State) (p : Path) (why : Text) : State :=
      cannot st "rm" "cannot remove" p why
    if o.operands.isEmpty then
      if o.has 'f' then st.withStatus 0 else missingOperand st "rm" "missing operand"
    else eachOperand (fun st p =>
      let name := baseName p
      match st.selfAt p with
      | .error e =>
        if o.has 'f' && (e = .noSuchFile || e = .notDirectory) then st else refuse st p (reason e)
      | .ok (location, n) =>
        let remove : State :=
          let st := st.removeAt location
          if o.has 'v' then (removalLines (withoutSlashes p) n).foldl State.printLine st else st
        match n with
        | .dir entries =>
          if recursive && (name = ['.'] || name = ['.', '.']) then
            st.failing 1 (("rm: refusing to remove '.' or '..' directory: skipping " : Text) ++
              quotedName p)
          else if recursive && !location.isEmpty then remove
          else if o.has 'd' then
            if entries.isEmpty then remove else refuse st p (reason (.number 39))
          else refuse st p (reason .isDirectory)
        | _ => remove) st o.operands

/-- Removes a directory that is empty. -/
def removeDirectory (st : State) (p : Path) : Except SystemError State :=
  match st.selfAt p with
  | .error e => .error e
  | .ok (location, .dir []) => .ok (st.removeAt location)
  | .ok (_, .dir _) => .error (.number 39)
  | .ok _ => .error .notDirectory

def removeDirectories (st : State) (arguments : List Text) : State :=
  withOptions "rmdir" 1 "pv"
    [("parents", 'p'), ("verbose", 'v'), ("ignore-fail-on-non-empty", 'p')] arguments st fun o st =>
    let one (st : State) (p : Path) : State :=
      match removeDirectory st p with
      | .ok st =>
        if o.has 'v' then st.printLine (("rmdir: removing directory, " : Text) ++ quotedName p)
        else st
      | .error e => cannot st "rmdir" "failed to remove" p (reason e)
    if o.operands.isEmpty then missingOperand st "rmdir" "missing operand"
    else eachOperand (fun st p =>
      let all := if o.has 'p' then Path.ancestors p else [p]
      all.foldl (fun st p => if st.status = 0 then one st p else st) st) st o.operands

def touch (st : State) (arguments : List Text) : State :=
  withOptions "touch" 1 "camd:r:t:hf" [("no-create", 'c'), ("date", 'd'), ("reference", 'r')]
    arguments st fun o st =>
    if o.operands.isEmpty then missingOperand st "touch" "missing file operand"
    else eachOperand (fun st p =>
      match st.find p with
      | .ok (.found _ _) => st
      | _ =>
        if o.has 'c' then st
        else
          match st.writeFile p [] with
          | .ok st => st
          | .error e => cannot st "touch" "cannot touch" p (reason e)) st o.operands

/-- Where a file that is copied or moved to `target` ends up. -/
def destination (st : State) (source target : Path) : Path :=
  if st.isDirectory target then Path.join target (baseName source) else target

mutual

/-- Lays one tree over another. A file that is there already keeps its mode. -/
def overlay (new : Node) (old : Option Node) : Node :=
  match new, old with
  | .dir entries, some (.dir others) => .dir (overlayEntries entries others)
  | .file content _, some (.file _ executable) => .file content executable
  | new, _ => new

def overlayEntries : List (Text × Node) → List (Text × Node) → List (Text × Node)
  | [], others => others
  | (name, n) :: rest, others =>
    overlayEntries rest (Entries.alter name (fun old => overlay n old) others)

/-- The pairs of paths that a copy of a node goes between. -/
def copiedPaths (source target : Path) : Node → List (Path × Path)
  | .dir entries => (source, target) :: copiedPathsAll source target entries
  | _ => [(source, target)]

def copiedPathsAll (source target : Path) : List (Text × Node) → List (Path × Path)
  | [] => []
  | (name, n) :: rest =>
    copiedPaths (source ++ '/' :: octets name) (target ++ '/' :: octets name) n ++
      copiedPathsAll source target rest

end

/-- A tree in which every link has given way to what it leads to. -/
def resolved (root : Node) : (fuel : Nat) → Location → Node → Node
  | 0, _, n => n
  | fuel + 1, here, .dir entries =>
    .dir (entries.map fun (name, n) =>
      match n with
      | .link _ =>
        match FileTree.lookup root here true name with
        | .ok (.found location n) => (name, resolved root fuel location n)
        | _ => (name, n)
      | n => (name, resolved root fuel (here ++ [name]) n))
  | _ + 1, _, n => n

/-- The targets of a command that copies, moves or links: all operands, or all but
the last, are sources. `one` is given the final path of each. -/
def toTarget (command : Text) (o : Options) (one : State → Path → Path → State) (st : State) :
    State :=
  match o.value? 't', o.operands.reverse with
  | some directory, sources =>
    eachOperand (fun st s => one st s (Path.join directory (baseName s))) st sources.reverse
  | none, [] => missingOperand st command "missing file operand"
  | none, [p] => missingOperand st command
      (("missing destination file operand after " : Text) ++ quotedName p)
  | none, [target, source] =>
    eachOperand (fun st s => one st s
      (if o.has 'T' || (o.has 'n' && command = ("ln" : Text) &&
          ((st.selfAt target).toOption.any fun n => n.2.kind = .link)) then target
        else destination st s target)) st [source]
  | none, target :: sources =>
    if st.isDirectory target then
      eachOperand (fun st s => one st s (destination st s target)) st sources.reverse
    else
      let why : Text := match st.nodeAt target with
        | .ok _ => reason .notDirectory
        | .error e => reason e
      st.failing 1 (command ++ (": target " : Text) ++ quotedName target ++ (": " : Text) ++ why)

def arrow (source target : Path) : Text :=
  quotedName source ++ (" -> " : Text) ++ quotedName target

def sameFile (source target : Path) : Text :=
  quotedName source ++ (" and " : Text) ++ quotedName target ++ (" are the same file" : Text)

def copyOne (o : Options) (st : State) (source aim : Path) : State :=
  let recursive := o.has 'r' || o.has 'R' || o.has 'a'
  let keepsLinks := (recursive || o.has 'P' || o.has 'd') && !o.has 'L'
  let refuse (what : Text) : State := st.failing 1 (("cp: " : Text) ++ what)
  let tell (n : Node) (st : State) : State :=
    if o.has 'v' then
      (copiedPaths source aim n).foldl (fun st p => st.printLine (arrow p.1 p.2)) st
    else st
  match (if keepsLinks then st.selfAt source else st.nodeAt source) with
  | .error e => refuse (("cannot stat " : Text) ++ quotedName source ++ (": " : Text) ++ reason e)
  | .ok (location, .dir entries) =>
    let node : Node := if o.has 'L' then resolved st.world.tree 40 location (.dir entries)
      else .dir entries
    if !recursive then
      refuse (("-r not specified; omitting directory " : Text) ++ quotedName source)
    else
      match st.find aim with
      | .ok (.vacant dir name _) =>
        let st := tell node (st.putAt (dir ++ [name]) node)
        if location.isPrefixOf dir then
          st.failing 1 (("cp: cannot copy a directory, " : Text) ++ quotedName source ++
            (", into itself, " : Text) ++ quotedName aim)
        else st
      | .ok (.found place old) =>
        if old.kind ≠ .dir then
          refuse (("cannot overwrite non-directory " : Text) ++ quotedName aim ++
            (" with directory " : Text) ++ quotedName source)
        else if place = location then refuse (sameFile source aim)
        else tell node (st.putAt place (overlay node (some old)))
      | .error e =>
        refuse (("cannot create directory " : Text) ++ quotedName aim ++ (": " : Text) ++ reason e)
  | .ok (location, n) =>
    let fail (e : Text) : State :=
      refuse (("cannot create regular file " : Text) ++ quotedName aim ++ (": " : Text) ++ e)
    match st.find aim with
    | .ok (.found other old) =>
      if o.has 'n' then st
      else if other = location then refuse (sameFile source aim)
      else
        match old with
        | .dir _ => refuse (("cannot overwrite directory " : Text) ++ quotedName aim ++
            (" with non-directory" : Text))
        | old => tell n (st.putAt other (overlay n (some old)))
    | .ok (.vacant _ _ true) => fail (reason .notDirectory)
    | .ok (.vacant dir name false) =>
      let made : Node := if o.has 's' then .link (written source) else n
      tell n (st.putAt (dir ++ [name]) made)
    | .error e => fail (reason e)

def copy (st : State) (arguments : List Text) : State :=
  withOptions "cp" 1 "rRapfinuvlsLPdHt:Tx"
    [("recursive", 'r'), ("archive", 'a'), ("force", 'f'), ("no-clobber", 'n'), ("verbose", 'v'),
      ("target-directory", 't'), ("no-target-directory", 'T'), ("dereference", 'L'),
      ("no-dereference", 'P'), ("preserve", 'p'), ("symbolic-link", 's'), ("update", 'u')]
    arguments st fun o st => toTarget "cp" o (copyOne o) st

def moveOne (o : Options) (st : State) (source aim : Path) : State :=
  let refuse (what : Text) : State := st.failing 1 (("mv: " : Text) ++ what)
  let cannotMove (t : Text) : State :=
    refuse (("cannot move " : Text) ++ quotedName source ++ (" to " : Text) ++ quotedName aim ++
      (": " : Text) ++ t)
  let tell (st : State) : State :=
    if o.has 'v' then st.printLine (("renamed " : Text) ++ arrow source aim) else st
  let intoItself : State :=
    refuse (("cannot move " : Text) ++ quotedName source ++
      (" to a subdirectory of itself, " : Text) ++ quotedName aim)
  match st.selfAt source with
  | .error e => refuse (("cannot stat " : Text) ++ quotedName source ++ (": " : Text) ++ reason e)
  | .ok (location, n) =>
    match st.findSelf aim with
    | .ok (.found other old) =>
      if o.has 'n' then st
      else if other = location then
        if n.kind = .dir then intoItself else refuse (sameFile source aim)
      else
        match n, old with
        | .dir _, .dir (_ :: _) =>
          if location.isPrefixOf other then intoItself
          else refuse (("cannot overwrite " : Text) ++ quotedName aim ++ (": " : Text) ++
            reason (.number 39))
        | .dir _, .dir [] =>
          if location.isPrefixOf other then intoItself
          else tell ((st.removeAt location).putAt other n)
        | .dir _, _ =>
          refuse (("cannot overwrite non-directory " : Text) ++ quotedName aim ++
            (" with directory " : Text) ++ quotedName source)
        | _, .dir _ =>
          refuse (("cannot overwrite directory " : Text) ++ quotedName aim ++
            (" with non-directory" : Text))
        | n, _ => tell ((st.removeAt location).putAt other n)
    | .ok (.vacant dir name endsInSlash) =>
      if location.isPrefixOf dir then intoItself
      else if endsInSlash && n.kind ≠ .dir then cannotMove (reason .notDirectory)
      else tell ((st.removeAt location).putAt (dir ++ [name]) n)
    | .error e => cannotMove (reason e)

def move (st : State) (arguments : List Text) : State :=
  withOptions "mv" 1 "finuvt:TZ"
    [("force", 'f'), ("no-clobber", 'n'), ("verbose", 'v'), ("target-directory", 't'),
      ("no-target-directory", 'T'), ("interactive", 'i'), ("update", 'u')]
    arguments st fun o st => toTarget "mv" o (moveOne o) st

def linkOne (o : Options) (st : State) (source aim : Path) : State :=
  let soft := o.has 's'
  let st := match o.has 'f', st.selfAt aim with
    | true, .ok (location, n) => if n.kind = .dir then st else st.removeAt location
    | _, _ => st
  let fail (e : SystemError) : State :=
    cannot st "ln" (if soft then "failed to create symbolic link" else
      "failed to create hard link") aim (reason e)
  let tell (st : State) : State :=
    if o.has 'v' then
      st.printLine (quotedName aim ++ (if soft then (" -> " : Text) else " => ") ++
        quotedName source)
    else st
  if soft then
    match st.world.makeLink (written aim) (written source) with
    | .ok world => tell { st with world }
    | .error e => fail e
  else
    match st.selfAt source, st.findSelf aim with
    | .error e, _ => cannot st "ln" "failed to access" source (reason e)
    | .ok (_, .dir _), _ =>
      st.failing 1 (("ln: " : Text) ++ source ++ (": hard link not allowed for directory" : Text))
    | .ok (_, n), .ok (.vacant dir name _) => tell (st.putAt (dir ++ [name]) n)
    | _, .error e => fail e
    | _, _ => fail .alreadyExists

def link (st : State) (arguments : List Text) : State :=
  withOptions "ln" 1 "sfnvrt:TiPL"
    [("symbolic", 's'), ("force", 'f'), ("no-dereference", 'n'), ("verbose", 'v'),
      ("target-directory", 't'), ("no-target-directory", 'T'), ("relative", 'r')]
    arguments st fun o st =>
    match o.operands with
    | [source] =>
      if o.has 't' then toTarget "ln" o (linkOne o) st
      else eachOperand (fun st s => linkOne o st s (baseName s)) st [source]
    | _ => toTarget "ln" o (linkOne o) st

/-- Runs `link`, which gives a file one more name and nothing else. -/
def linkFile (st : State) (arguments : List Text) : State :=
  withOptions "link" 1 [] [] arguments st fun o st =>
    match o.operands with
    | [] => missingOperand st "link" "missing operand"
    | [p] => missingOperand st "link" (("missing operand after " : Text) ++ quotedName p)
    | [p, q] =>
      let fail (e : SystemError) : State :=
        cannot st "link" "cannot create link" q (("to " : Text) ++ quotedName p ++ (": " : Text) ++
          reason e)
      match st.selfAt p, st.findSelf q with
      | .ok (_, n), .ok (.vacant directory name false) =>
        (st.putAt (directory ++ [name]) n).withStatus 0
      | .ok _, .ok (.vacant _ _ true) => fail .noSuchFile
      | .ok _, .ok (.found _ _) => fail .alreadyExists
      | .error e, _ | _, .error e => fail e
    | _ :: _ :: t :: _ => misuse st "link" 1 (("extra operand " : Text) ++ quotedName t)

/-- Whether a mode makes a file executable; `none` within if it says nothing about
it, and none at all if it is no mode. -/
def executableBy? (mode : Text) : Option (Option Bool) :=
  if !mode.isEmpty && mode.all Char.isDigit then
    if mode.all fun c => isOctalMode c then
      some (some (((mode.reverse.take 3).any fun c => digitValue c % 2 = 1)))
    else none
  else
    ((Text.pieces ',' mode).foldlM (fun acc clause => (clauseOf clause).map fun r => r.orElse
      fun _ => acc) none)
where
  isOctalMode (c : Char) : Bool := '0' ≤ c && c ≤ '7'
  clauseOf (t : Text) : Option (Option Bool) :=
    let who := t.takeWhile fun c => ("ugoa" : Text).contains c
    match t.drop who.length with
    | sign :: bits =>
      if !(sign = '+' || sign = '-' || sign = '=') ||
          bits.any fun c => !("rwxXstugo" : Text).contains c then none
      else if sign = '+' then some (if bits.contains 'x' then some true else none)
      else if who.isEmpty || who.contains 'a' || who.contains 'u' then
        if sign = '=' then some (some (bits.contains 'x'))
        else some (if bits.contains 'x' then some false else none)
      else some none
    | [] => none

mutual

def withMode (executable : Bool) : Node → Node
  | .file content _ => .file content executable
  | .dir entries => .dir (withModeAll executable entries)
  | n => n

def withModeAll (executable : Bool) : List (Text × Node) → List (Text × Node)
  | [] => []
  | (name, n) :: rest => (name, withMode executable n) :: withModeAll executable rest

end

def changeMode (st : State) (arguments : List Text) : State :=
  let isMode (t : Text) : Bool := match t with
    | '-' :: c :: _ => ("rwx" : Text).contains c
    | _ => false
  let (modes, others) := (arguments.filter isMode, arguments.filter fun t => !isMode t)
  withOptions "chmod" 1 "Rvcf" [("recursive", 'R'), ("verbose", 'v'), ("silent", 'f')] others st
    fun o st =>
    match modes ++ o.operands with
    | [] => missingOperand st "chmod" "missing operand"
    | mode :: files =>
      match executableBy? mode with
      | none => misuse st "chmod" 1 (("invalid mode: " : Text) ++ quotedName mode)
      | some executable =>
        if files.isEmpty then
          missingOperand st "chmod" (("missing operand after " : Text) ++ quotedName mode)
        else eachOperand (fun st p =>
          match st.nodeAt p, executable with
          | .error e, _ => cannot st "chmod" "cannot access" p (reason e)
          | .ok _, none => st
          | .ok (location, n), some executable =>
            if o.has 'R' || n.kind ≠ .dir then st.putAt location (withMode executable n)
            else st) st files

/-- Checks that there are files and does nothing else to them. -/
def changeOwner (command : Text) (st : State) (arguments : List Text) : State :=
  withOptions command 1 "Rvhcf" [("recursive", 'R'), ("verbose", 'v')] arguments st fun o st =>
    match o.operands with
    | [] => missingOperand st command "missing operand"
    | [owner] => missingOperand st command
        (("missing operand after " : Text) ++ quotedName owner)
    | _ :: files => eachOperand (fun st p =>
        match st.nodeAt p with
        | .error e => cannot st command "cannot access" p (reason e)
        | .ok _ => st) st files

/-- The path of a place without links. What is missing counts as it is spelled, if
that is allowed: nothing, the last name or all. -/
def canonical? (st : State) (missing : Nat) (p : Path) : Except SystemError Path :=
  let spelled := octets (World.pathOf (Path.normalNames (World.pathOf st.world.current ++
    '/' :: written p)))
  match st.find p with
  | .ok (.found location _) => .ok (octets (World.pathOf location))
  | .ok (.vacant dir name _) =>
    if missing = 0 then .error .noSuchFile else .ok (octets (World.pathOf (dir ++ [name])))
  | .error e =>
    if missing = 2 then .ok (if p.head? = some '/' then Path.normalize p else spelled) else .error e

def readLink (st : State) (arguments : List Text) : State :=
  withOptions "readlink" 1 "femnqsvz"
    [("canonicalize", 'f'), ("canonicalize-existing", 'e'), ("canonicalize-missing", 'm'),
      ("no-newline", 'n')] arguments st fun o st =>
    if o.operands.isEmpty then missingOperand st "readlink" "missing operand"
    else eachOperand (fun st p =>
      let give (t : Text) : State := if o.has 'n' then st.print t else st.printLine t
      if o.has 'f' || o.has 'e' || o.has 'm' then
        match canonical? st (if o.has 'm' then 2 else if o.has 'e' then 0 else 1) p with
        | .ok t => give t
        | .error _ => st.withStatus 1
      else
        match st.selfAt p with
        | .ok (_, .link target) => give (octets target)
        | _ => st.withStatus 1) st o.operands

def relativePath (base p : List Text) : Path :=
  let rec shared : List Text → List Text → Nat
    | a :: s, b :: t => if a = b then shared s t + 1 else 0
    | _, _ => 0
  let n := shared base p
  let ups := List.replicate (base.length - n) ("..".toList)
  let names := ups ++ p.drop n
  if names.isEmpty then ['.'] else Text.joined ['/'] names

def realPath (st : State) (arguments : List Text) : State :=
  withOptions "realpath" 1 "emsqzB:LP"
    [("canonicalize-existing", 'e'), ("canonicalize-missing", 'm'), ("no-symlinks", 's'),
      ("quiet", 'q'), ("relative-to", 'B')] arguments st fun o st =>
    if o.operands.isEmpty then missingOperand st "realpath" "missing operand"
    else eachOperand (fun st p =>
      match canonical? st (if o.has 'm' || o.has 's' then 2 else if o.has 'e' then 0 else 1) p with
      | .ok t =>
        match (o.value? 'B').bind fun b => (canonical? st 2 b).toOption with
        | some base => st.printLine (relativePath (Path.normalNames base) (Path.normalNames t))
        | none => st.printLine t
      | .error e => st.failing 1 (("realpath: " : Text) ++ p ++ (": " : Text) ++ reason e))
      st o.operands

def printBaseNames (st : State) (arguments : List Text) : State :=
  let cut (ending : Text) (p : Path) : Text :=
    let name := baseName p
    if !ending.isEmpty && name ≠ ending && Text.endsWith name ending then
      name.take (name.length - ending.length)
    else name
  withOptions "basename" 1 "as:z" [("multiple", 'a'), ("suffix", 's')] arguments st fun o st =>
    match o.operands, o.value? 's' with
    | [], _ => missingOperand st "basename" "missing operand"
    | ps, some ending => (ps.foldl (fun st p => st.printLine (cut ending p)) st).withStatus 0
    | ps, none =>
      if o.has 'a' then (ps.foldl (fun st p => st.printLine (cut [] p)) st).withStatus 0
      else
        match ps with
        | [p] => (st.printLine (cut [] p)).withStatus 0
        | [p, ending] => (st.printLine (cut ending p)).withStatus 0
        | _ => missingOperand st "basename" (("extra operand " : Text) ++
            quotedName ((ps[2]?).getD []))

def printDirNames (st : State) (arguments : List Text) : State :=
  withOptions "dirname" 1 "z" [] arguments st fun o st =>
    if o.operands.isEmpty then missingOperand st "dirname" "missing operand"
    else (o.operands.foldl (fun st p => st.printLine (dirName p)) st).withStatus 0

def makeTemporary (st : State) (arguments : List Text) : State :=
  withOptions "mktemp" 1 "dutqp:" [("directory", 'd'), ("dry-run", 'u'), ("tmpdir", 'p')]
    arguments st fun o st =>
    let pattern := o.operands.head?.getD "tmp.XXXXXXXXXX"
    let mark := pattern.reverse.takeWhile (· = 'X')
    let number := st.lastProcess + 1
    let st := { st with lastProcess := number }
    let drawn := Text.ofNat (Nat.pow 10 (mark.length - 1) + number % Nat.pow 10 (mark.length - 1))
    let name := pattern.take (pattern.length - mark.length) ++ drawn.take mark.length
    let directory : Path := (o.value? 'p').getD "/tmp"
    let p := if o.operands.isEmpty || o.has 't' || o.has 'p' then Path.join directory name
      else name
    if mark.length < 3 then
      st.failing 1 (("mktemp: too few X's in template " : Text) ++ quotedName pattern)
    else
      let made : Except SystemError State :=
        if o.has 'u' then .ok st
        else if o.has 'd' then
          (st.world.makeDirectory (written p)).map fun world => { st with world }
        else st.writeFile p []
      match made with
      | .ok st => (st.printLine p).withStatus 0
      | .error e =>
        st.failing 1 (("mktemp: failed to create file via template " : Text) ++
          quotedName pattern ++ (": " : Text) ++ reason e)

/-- Copies files and says whether they are programs, or makes directories. -/
def install (st : State) (arguments : List Text) : State :=
  withOptions "install" 1 "dDm:vo:g:t:Tpcsb"
    [("directory", 'd'), ("mode", 'm'), ("verbose", 'v'), ("target-directory", 't')]
    arguments st fun o st =>
    if o.has 'd' then makeDirectories st (("-p" : Text) :: o.operands)
    else
      let executable := (((o.value? 'm').bind executableBy?).getD (some true)).getD true
      let st := if o.has 'D' then
          match o.operands.getLast? with
          | some target => makeDirectories st ["-p".toList, dirName target]
          | none => st
        else st
      toTarget "install" o (fun st s aim =>
        let st := copyOne ⟨[], []⟩ st s aim
        match st.nodeAt aim with
        | .ok (location, .file content _) => st.putAt location (.file content executable)
        | _ => st) st

/-- Cuts files to a size or fills them up with zeros. -/
def truncate (st : State) (arguments : List Text) : State :=
  withOptions "truncate" 1 "s:cr:o" [("size", 's'), ("no-create", 'c')] arguments st fun o st =>
    match (o.value? 's').map fun t => (t.head?, digitsOf (t.dropWhile fun c => !c.isDigit)) with
    | none => missingOperand st "truncate" "you must specify either '--size' or '--reference'"
    | some (lead, n, unit) =>
      let n := n * match unit.head? with
        | some 'K' | some 'k' => 1024
        | some 'M' => 1048576
        | _ => 1
      eachOperand (fun st p =>
        let old := ((st.readFile p).toOption).getD []
        let size := match lead with
          | some '+' => old.length + n
          | some '-' => old.length - n
          | _ => n
        match st.writeFile p (old.take size ++ List.replicate (size - old.length) '\x00') with
        | .ok st => st
        | .error e => cannot st "truncate" "cannot open" p (reason e)) st o.operands

end Shell

end BuildManifest
