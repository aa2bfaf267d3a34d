import BuildManifest.Loading

/-!
Compiling a directory. The tree is walked in the order of the file names, the
contents of a directory at the place of its name, and every file whose path ends
in the extension of a pattern is compiled with the template of the first such
pattern. Excluded directories are not entered, links to directories neither. The
first command that fails ends the walk.
-/

namespace BuildManifest

/-- What decides how files are compiled. -/
structure Recipe where
  bindings : Variables
  patterns : Table
  scope : Scope

namespace Recipe

/-- The first pattern whose extension ends the path. -/
def pattern? (patterns : Table) (file : Path) : Option (Text × Text) :=
  patterns.entries.find? fun e => file.endsWith e.1

def fileNameToken : Text := "$filename"

def fileToken : Text := "$file"

/-- Puts the path of a file in place of the two tokens for it. -/
def fill (file : Path) (template : Text) : Text :=
  (template.replace fileNameToken file).replace fileToken file

/-- The command that compiles a file. -/
def render (r : Recipe) (template : Text) (file : Path) : Action Text := do
  let template ← Action.expand r.scope r.bindings template
  pure (fill file template)

def compile (executor : Executor) (r : Recipe) (template : Text) (file : Path) : Action Unit := do
  let command ← r.render template file
  Action.say (("compiling file " : Text) ++ file ++ ("..." : Text))
  let code ← Action.call executor command
  if code ≠ 0 then
    Action.say (("compilation for \"" : Text) ++ file ++ ("\" failed with code " : Text) ++
      Text.ofInt code)
    Action.fail (.execution command code)

/-- Compiles a file if there is a pattern for it, and counts it. -/
def compileFile (executor : Executor) (r : Recipe) (file : Path) : Action Nat :=
  match pattern? r.patterns file with
  | none => pure 0
  | some (_, template) => do
    r.compile executor template file
    pure 1

/-- Adds up what an action counts for the members of a list. -/
def total {α : Type} (count : α → Action Nat) : List α → Action Nat
  | [] => pure 0
  | a :: rest => do
    let n ← count a
    let m ← total count rest
    pure (n + m)

/-- Walks what a path names, knowing its kind from the listing it was found in.
`depth` bounds how many directories may still be entered, one inside the other.
Every one of them makes the path longer, and no path may reach
`FileTree.pathLimit`. -/
def visit (executor : Executor) (r : Recipe) (x : Exclusions) :
    (depth : Nat) → Path → Kind → Action Nat
  | depth, p, .dir =>
    if x.excludes p then pure 0
    else do
      match ← Action.ask (·.list p) with
      | .error e => Action.fail (.io (.walking p e))
      | .ok entries =>
        match depth with
        | 0 => Action.fail (.io (.walking p .nameTooLong))
        | depth + 1 =>
          total (fun e => visit executor r x depth (Path.join p e.1) e.2) entries
  | _, p, .file => if x.excludes p then pure 0 else r.compileFile executor p
  | _, p, .link =>
    if x.excludes p then pure 0
    else do
      if ← Action.ask (·.isFile p) then r.compileFile executor p else pure 0

/-- Walks a root that is a link: to a directory it is followed, even if its own
name is excluded. -/
def visitLink (executor : Executor) (r : Recipe) (x : Exclusions) (depth : Nat) (root : Path) :
    Action Nat := do
  match ← Action.ask (·.find root) with
  | .error e => Action.fail (.io (.walking root e))
  | .ok (.vacant _ _ _) => Action.fail (.io (.walking root .noSuchFile))
  | .ok (.found _ (.dir _)) =>
    match ← Action.ask (·.list root) with
    | .error e => Action.fail (.io (.walking root e))
    | .ok entries =>
      total (fun e => visit executor r x depth (Path.join root e.1) e.2) entries
  | .ok (.found _ _) => visit executor r x depth root .link

/-- Compiles everything under a directory; the answer is the number of files. -/
def compileTree (executor : Executor) (r : Recipe) (x : Exclusions) (root : Path) :
    Action Nat := do
  let n ←
    match ← Action.ask (·.kindOf root) with
    | .error e => Action.fail (.io (.walking root e))
    | .ok .link => visitLink executor r x FileTree.pathLimit root
    | .ok kind => visit executor r x FileTree.pathLimit root kind
  Action.say (("* done " : Text) ++ Text.ofNat n ++ (" in " : Text) ++ root)
  pure n

end Recipe

end BuildManifest
